import Triage.Proofs.Answering
import Triage.Proofs.Handling

/-!
# What a caller learns of a hidden error

Outside development seven kinds of failure are shown by a problem that is made
from the kind and the status so far, and from nothing else of the error
(`classify_of_isConcealed`). Past the classification an error is looked at twice:
for its kind, which is counted, and for the log. So two errors of one such kind
cannot be told apart from outside, neither where errors are handled nor where
results are answered (`Handler.concealed_errors_look_alike`).
-/

namespace Triage

open Http

/-! ## Concealed kinds -/

namespace Kind

/-- The kinds whose errors are shown by their kind alone outside development. -/
def isConcealed : Kind → Bool
  | .authenticationFailure | .unauthenticatedAccess => true
  | .unauthorizedAccess | .forbiddenAccess | .genericSecurity => true
  | .malformedRequest | .unknown => true
  | _ => false

/-- What a concealed error is shown as, where the status so far is `ambient`. -/
def cover (k : Kind) (ambient : Int) : Problem :=
  match k with
  | .authenticationFailure | .unauthenticatedAccess =>
    { status := 401, detail := some authenticationRequired }
  | .unauthorizedAccess | .forbiddenAccess | .genericSecurity =>
    { status := 403, detail := some accessDenied }
  | .malformedRequest => { status := 400, detail := some unableToProcess }
  | _ => { status := errorStatus ambient, detail := some "" }

end Kind

/-- **Concealment.** Of an error of a concealed kind only the kind is used. -/
theorem classify_of_isConcealed {e : Error} (hkind : e.kind.isConcealed = true) (ambient : Int) :
    classify e (.int ambient) false = .ok (e.kind.cover ambient) := by
  unfold classify
  cases hk : e.kind <;> rw [hk] at hkind <;> first | rfl | cases hkind

theorem Memo.shown_of_isConcealed {m : Memo} {i : Incident} (hfresh : m.find? i.number = none)
    (hkind : i.error.kind.isConcealed = true) (ambient : Int) (path : Text)
    (requestId : Option Text) :
    m.shown i ambient false path requestId =
      .ok ((i.error.kind.cover ambient).withDefaults path requestId) := by
  rw [m.shown_of_unknown hfresh, classify_of_isConcealed hkind]
  rfl

/-! ## Observations -/

/-- What can be seen of a handling from outside: the answer and the response, what
the authenticator was asked to do, and what was counted. The log cannot be seen. -/
structure Observation where
  outcome : Except Trouble Outcome
  response : Except Trouble Response
  calls : List (Action × Option Text)
  counts : List Metric

/-- A handling as it is seen from outside. -/
def Handled.observed (r : Handled) : Observation where
  outcome := r.outcome
  response := r.exchange.draft.render
  calls := Event.triggers r.events
  counts := Event.counts r.events

namespace Handler

variable {h : Handler} {x : Exchange} {i j : Incident}

theorem observed_handshake (h : Handler) (action : Action) (x : Exchange) (memo : Memo) :
    (h.handshake action { x with memo }).observed = (h.handshake action x).observed := rfl

/-- Of the error, only its kind can be seen when a problem is written, and of what
is remembered nothing. -/
theorem observed_present (format : BodyFormat) {e e' : Error} (hkind : e.kind = e'.kind)
    (p : Problem) (x : Exchange) (memo memo' : Memo) :
    (present format e p { x with memo }).observed =
      (present format e' p { x with memo := memo' }).observed := by
  unfold present
  cases hwrite : (x.draft.setStatus p.status).write format p.payload format.contentType with
  | error t => simp only [hwrite]; rfl
  | ok draft =>
      have hlevel : ∀ (e : Error) (x : Exchange),
          Event.counts [.counted (.problem e.kind p.status), .logged (problemEntry x e p.status)]
            = [.problem e.kind p.status] := fun e x => rfl
      simp only [hwrite, Handled.observed, hlevel, hkind]
      rfl

/-- Two errors of one kind that are shown as the same problem cannot be told apart
by what is done about them. -/
theorem observed_resolve (format : BodyFormat) (hkind : i.error.kind = j.error.kind)
    {q : Problem} (hi : x.shown i h.development = .ok q) (hj : x.shown j h.development = .ok q) :
    (h.resolve format i x).observed = (h.resolve format j x).observed := by
  obtain ⟨memo, heq⟩ := resolve_of_shown format hi
  obtain ⟨memo', heq'⟩ := resolve_of_shown format hj
  rw [heq, heq']
  unfold dispose
  cases actionFor? q.status with
  | some action =>
      exact (h.observed_handshake action x _).trans (h.observed_handshake action x _).symm
  | none => exact observed_present format hkind q x memo memo'

/-- **Hidden errors look alike.** Outside development, two errors of one concealed
kind that are no cancellations lead to the same observation when either of them
is handled in an exchange that knows neither, and to the same response when
either is the failure of a result. -/
theorem concealed_errors_look_alike (h : Handler) (x : Exchange) (r : Responder) {i j : Incident}
    (hi : i.error.isCancellation = false) (hj : j.error.isCancellation = false)
    (hkind : i.error.kind = j.error.kind) (hconcealed : i.error.kind.isConcealed = true)
    (hdev : h.development = false) (hrdev : r.development = false)
    (hifresh : x.memo.find? i.number = none) (hjfresh : x.memo.find? j.number = none) :
    (h.handle i x).observed = (h.handle j x).observed
      ∧ (∀ place : Place, (r.answerFailure i place x.memo).response =
          (r.answerFailure j place x.memo).response)
      ∧ ∀ place : Place, (r.answerAlone (.failure i) place).1 =
          (r.answerAlone (.failure j) place).1 := by
  have hconcealed' : j.error.kind.isConcealed = true := hkind ▸ hconcealed
  have hanswers : ∀ (memo : Memo) (place : Place), memo.find? i.number = none →
      memo.find? j.number = none →
      (r.answerFailure i place memo).response = (r.answerFailure j place memo).response := by
    intro memo place hi hj
    rw [r.response_answerFailure, r.response_answerFailure, hrdev,
      Memo.shown_of_isConcealed hi hconcealed, Memo.shown_of_isConcealed hj hconcealed', hkind]
  refine ⟨?_, fun place => hanswers x.memo place hifresh hjfresh,
    fun place => hanswers {} place rfl rfl⟩
  have hgrounds : x.reasonToDecline? i = x.reasonToDecline? j := by
    unfold Exchange.reasonToDecline? Exchange.grounds
    rw [hi, hj]
  cases hreason : x.reasonToDecline? i with
  | some reason =>
      rw [handle_of_declined hreason, handle_of_declined (hgrounds ▸ hreason)]
      unfold Exchange.lookedAt
      rw [hi, hj]
  | none =>
      obtain ⟨format, hformat, heq⟩ := handle_of_accepted (h := h) hreason
      obtain ⟨format', hformat', heq'⟩ := handle_of_accepted (h := h) (hgrounds ▸ hreason)
      obtain rfl := Option.some.inj (hformat.symm.trans hformat')
      rw [heq, heq']
      have hshown : ∀ k : Incident, k.error.kind = i.error.kind →
          x.memo.find? k.number = none →
          x.shown k h.development = .ok ((i.error.kind.cover x.draft.status).withDefaults
            x.request.path x.request.requestId) := by
        intro k hk hfresh
        rw [hdev, ← hk]
        exact Memo.shown_of_isConcealed hfresh (hk ▸ hconcealed) _ _ _
      exact observed_resolve format hkind (hshown i rfl hifresh) (hshown j hkind.symm hjfresh)

/-- An error of the server behind, which names a machine. -/
def gatewayError : Incident := ⟨2, .ofHttp .transport 502 (.text "no answer from db-7") none⟩

theorem crash_looks_like_gatewayError :
    (bearerHandler.handle crash missingPage).observed =
        (bearerHandler.handle gatewayError missingPage).observed
      ∧ ∀ place : Place,
        (Responder.answerFailure {} crash place {}).response =
          (Responder.answerFailure {} gatewayError place {}).response := by
  obtain ⟨hobserved, hresponse, -⟩ :=
    concealed_errors_look_alike bearerHandler missingPage {} (i := crash) (j := gatewayError)
      (by decide) (by decide) (by decide) (by decide) rfl rfl rfl rfl
  exact ⟨hobserved, hresponse⟩

end Handler

end Triage
