import Triage.Access.SchemeSet

/-!
# Authorization policies

A route states requirements; a provider knows policies by name and the policies
for routes that state none. The policy in effect for a route with requirements
is the union of what they ask for.
-/

namespace Triage

/-- One requirement of a route: a policy by its name, schemes, both or neither. -/
structure Requirement where
  policy : Option Text := none
  schemes : List Text := []
  deriving DecidableEq, Repr

/-- The name of the policy that a requirement asks for; an empty name asks for none. -/
def Requirement.policyName? (r : Requirement) : Option Text :=
  match r.policy with
  | some name => if name.isEmpty then none else some name
  | none => none

/-- The known policies: each is the set of schemes that authenticate a caller. -/
structure Provider where
  policies : List (Text × SchemeSet) := []
  default : Option SchemeSet := none
  fallback : Option SchemeSet := none

namespace Provider

def policy? (p : Provider) (name : Text) : Option SchemeSet :=
  (p.policies.find? fun entry => entry.1 == name).map (·.2)

def policyOf? (schemes : List Text) : Option SchemeSet :=
  if schemes.isEmpty then none else some (.ofList schemes)

/-- The provider that lists of schemes describe. -/
def ofLists (policies : List (Text × List Text)) (default fallback : List Text) : Provider :=
  { policies := policies.map fun entry => (entry.1, .ofList entry.2)
    default := policyOf? default
    fallback := policyOf? fallback }

/-- The sets of schemes that a requirement asks for. -/
def parts (p : Provider) (r : Requirement) : List SchemeSet :=
  let named := (r.policyName?.bind p.policy?).toList
  let own := if r.schemes.isEmpty then [] else [SchemeSet.ofList r.schemes]
  let preset := if r.policyName?.isNone && r.schemes.isEmpty then p.default.toList else []
  named ++ own ++ preset

/-- The names of policies that requirements ask for in vain, in order. -/
def missing (p : Provider) (requirements : List Requirement) : List Text :=
  requirements.filterMap fun r =>
    r.policyName?.bind fun name => if (p.policy? name).isNone then some name else none

/-- The union of what requirements ask for. -/
def combined (p : Provider) (requirements : List Requirement) : SchemeSet :=
  (requirements.flatMap p.parts).foldl SchemeSet.union .empty

end Provider

/-- The policy in effect: that of the requirements; without any, the default
policy, and otherwise the fallback. Without a provider there is none. -/
def resolvePolicy (provider : Option Provider) (requirements : List Requirement) :
    Option SchemeSet :=
  match provider with
  | none => none
  | some p =>
    if requirements.isEmpty then p.default.or p.fallback else some (p.combined requirements)

/-- The policies that are asked for in vain when the policy in effect is resolved. -/
def missingPolicies (provider : Option Provider) (requirements : List Requirement) :
    List Text :=
  match provider with
  | none => []
  | some p => p.missing requirements

end Triage
