import Triage.Access.Authenticator
import Triage.Accept

/-!
# Handling errors

An error that nobody else handles becomes a problem, or a handshake when it says
that the caller is not known or not allowed: then the response so far is dropped
and every scheme of the policy in effect reacts. An error is left alone when it
is a cancellation, when the client is gone, when the client takes no problem, or
when nothing says how to write one.
-/

namespace Triage

/-- What has become of an error. -/
inductive Outcome where
  | bypass
  | challenge
  | forbid
  | problem
  deriving DecidableEq, Repr

namespace Outcome

def label : Outcome → String
  | .bypass => "bypass"
  | .challenge => "challenge"
  | .forbid => "forbid"
  | .problem => "problem"

def isHandled : Outcome → Bool
  | .bypass => false
  | _ => true

def ofAction : Action → Outcome
  | .challenge => .challenge
  | .forbid => .forbid

end Outcome

/-- How errors are handled. -/
structure Handler where
  development : Bool := false
  authenticator : Option Authenticator := none
  provider : Option Provider := none

/-- An answer, the exchange afterwards, and what has happened meanwhile. -/
structure Handled where
  outcome : Except Trouble Outcome
  exchange : Exchange
  events : List Event := []

namespace Handler

/-- The action that a status calls for instead of a problem. -/
def actionFor? (status : Int) : Option Action :=
  if status = 401 then some .challenge else if status = 403 then some .forbid else none

/-- What the authenticator is asked to react to: each scheme of the policy in
order, or no scheme in particular. -/
def schemesToTrigger (schemes : List Text) : List (Option Text) :=
  if schemes.isEmpty then [none] else schemes.map some

/-- Lets an authenticator react to one scheme after the other. -/
def trigger (a : Authenticator) (action : Action) (request : Request) :
    List (Option Text) → Draft → Draft × List Event
  | [], draft => (draft, [])
  | scheme :: rest, draft =>
    let (draft, own) := a.react action scheme request draft
    let (draft, others) := trigger a action request rest draft
    (draft, .triggered action scheme :: own ++ others)

def entry (x : Exchange) (level : LogLevel) (message : String) (extra : List (Text × Value)) :
    LogEntry :=
  { level, logger := "faultline.failures", message, requestId := x.request.requestId, extra }

/-- The warnings about policies that the route asks for in vain. -/
def policyWarnings (h : Handler) (request : Request) : List Event :=
  (missingPolicies h.provider request.requirements).map fun name =>
    .logged {
      level := .warning, logger := "faultline.auth", message := "authorization_policy_missing"
      requestId := request.requestId, extra := [("policy", .text name)] }

/-- The schemes of the policy in effect, ascending. -/
def schemes (h : Handler) (request : Request) : List Text :=
  match resolvePolicy h.provider request.requirements with
  | some policy => policy.names
  | none => []

/-- Turns the caller away. -/
def handshake (h : Handler) (action : Action) (x : Exchange) : Handled :=
  let schemes := h.schemes x.request
  let draft := x.draft.clear.setStatus action.status
  let announced : List Event := h.policyWarnings x.request ++ [
    .logged (entry x .info "auth_handshake" [
      ("action", .text action.label),
      ("schemes", .list (schemes.map .text)),
      ("path", .text x.request.path)]),
    .counted (.handshake action)]
  let (draft, reactions) := match h.authenticator with
    | none => (draft, [])
    | some a => trigger a action x.request (schemesToTrigger schemes) draft
  ⟨.ok (.ofAction action), { x with draft }, announced ++ reactions⟩

/-- The record of a problem that has been written: an error that the service is
to blame for, or a warning. -/
def problemEntry (x : Exchange) (e : Error) (status : Int) : LogEntry :=
  let extra : List (Text × Value) := [
    ("failure_kind", .text e.kind.label), ("status", .int status), ("path", .text x.request.path)]
  if 500 ≤ status then { entry x .error "unhandled_error" extra with error := some e }
  else entry x .warning "handled_failure" extra

def present (format : Http.BodyFormat) (e : Error) (p : Problem) (x : Exchange) : Handled :=
  let draft := x.draft.setStatus p.status
  match draft.write format p.payload format.contentType with
  | .error t => ⟨.error t, { x with draft }, []⟩
  | .ok draft =>
    ⟨.ok .problem, { x with draft },
      [.counted (.problem e.kind p.status), .logged (problemEntry x e p.status)]⟩

def bypass (reason : BypassReason) (x : Exchange) : Handled :=
  ⟨.ok .bypass, x, [.counted (.bypass reason)]⟩

/-- Deals with an error of a caller who takes problems in a known format. -/
def resolve (h : Handler) (format : Http.BodyFormat) (i : Incident) (x : Exchange) : Handled :=
  match x.memo.classify i (.int x.draft.status) h.development with
  | (.error t, memo) => ⟨.error t, { x with memo }, []⟩
  | (.ok r, memo) =>
    match actionFor? r.problem.status with
    | some action => h.handshake action { x with memo }
    | none =>
      let memo := memo.fill i.number x.request.path x.request.requestId
      present format i.error (r.problem.withDefaults x.request.path x.request.requestId)
        { x with memo }

/-- Handles an error, if it is to be handled at all. -/
def handle (h : Handler) (i : Incident) (x : Exchange) : Handled :=
  if i.error.isCancellation then bypass .cancelled x
  else
    let (gone, inbox) := x.inbox.poll
    let x := { x with inbox }
    if gone then bypass .cancelled x
    else if !canWriteProblem x.request.accept then bypass .notAcceptable x
    else
      match x.request.format with
      | none => bypass .formatMissing x
      | some format => h.resolve format i x

end Handler

end Triage
