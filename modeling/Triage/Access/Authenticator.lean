import Triage.Exchange

/-!
# Authenticators

An authenticator puts its part into the response that turns a caller away.
-/

namespace Triage

/-- Something that reacts to an action, for one scheme or for whichever it
prefers, by changing the response; it may leave events behind. -/
structure Authenticator where
  react : Action → Option Text → Request → Draft → Draft × List Event

namespace Authenticator

/-- Reacts by setting the status, and to a challenge by naming a scheme and the
realm in a header. -/
def headers (defaultScheme realm : Option Text) : Authenticator where
  react action scheme request draft :=
    let draft := draft.setStatus action.status
    match action with
    | .forbid => (draft, [])
    | .challenge =>
      match (named scheme).or (named defaultScheme) with
      | none =>
        (draft, [.logged {
          level := .debug, logger := "faultline.auth", message := "challenge_without_scheme"
          requestId := request.requestId }])
      | some scheme => (draft.appendHeader "WWW-Authenticate" (challengeText scheme), [])
where
  named : Option Text → Option Text
    | some s => if s.isEmpty then none else some s
    | none => none
  /-- A scheme with the realm, when there is one. -/
  challengeText (scheme : Text) : Text :=
    match named realm with
    | some realm => scheme ++ " realm=\"" ++ realm ++ "\""
    | none => scheme

def silent : Authenticator := ⟨fun _ _ _ draft => (draft, [])⟩

end Authenticator

end Triage
