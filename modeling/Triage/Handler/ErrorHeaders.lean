import Triage.Handler

/-!
# Headers that an HTTP error brings along

An HTTP error may bring headers for its response. A problem takes over all of
them. A challenge only takes over further challenges, so those that the
authenticator made stay as they are. A refusal takes over none.
-/

namespace Triage

open Http Text

def challengeHeader : String := "www-authenticate"

def Http.Headers.setAll (h : Headers) : List (String × Text) → Except Trouble Headers
  | [] => .ok h
  | (name, value) :: rest =>
    match h.set name value with
    | .error t => .error t
    | .ok h => h.setAll rest

/-- The challenges among an error's headers that are not among `known`. -/
def newChallenges (known : List String) (brought : List (String × Text)) :
    List (String × Text) :=
  brought.filter fun header =>
    lowered header.1 == challengeHeader && !(known.map Text.ofString).contains header.2

/-- The headers of a response to an HTTP error, with those that the error brings. -/
def Outcome.mergeHeaders (outcome : Outcome) (h : Headers) (brought : List (String × Text)) :
    Except Trouble Headers :=
  match outcome with
  | .problem => h.setAll brought
  | .challenge => h.appendAll (newChallenges (h.values challengeHeader) brought)
  | .forbid | .bypass => .ok h

end Triage
