import Triage.Proofs.Latin
import Triage.Proofs.Remembering
import Triage.Responder

/-!
# What answering a failure comes to

The answer to a failure is a response that shows its problem: the one that the
memo shows (`response_answerFailure`). Answering leaves the memo showing it, so
that whoever asks next is told the same (`shown_answerFailure`).
-/

namespace Triage

open Http

namespace Responder

variable {r : Responder} {i : Incident} {place : Place} {m : Memo}

theorem answerFailure_cases (r : Responder) (i : Incident) (place : Place) (m : Memo) :
    (∃ t, m.shown i place.ambient r.development place.path place.requestId = .error t
        ∧ r.answerFailure i place m = ⟨.error t, m, []⟩)
      ∨ ∃ q memo, m.shown i place.ambient r.development place.path place.requestId = .ok q
        ∧ memo.presented? place.path place.requestId i.number = some q
        ∧ r.answerFailure i place m =
            ⟨r.problemResponse q, memo, failureEvents i.error q.status place⟩ := by
  unfold Memo.shown answerFailure
  rcases hclass : m.classify i (.int place.ambient) r.development with ⟨answer, memo⟩
  cases answer with
  | error t =>
      have hmemo : memo = m := Memo.eq_of_classify_error hclass
      exact Or.inl ⟨t, rfl, by rw [hmemo]⟩
  | ok known =>
      refine Or.inr ⟨_, _, rfl, ?_, rfl⟩
      rw [Memo.presented?_fill]
      exact Memo.presented?_of_classify hclass _ _

/-- Answering a failure does not change what its error is shown as. -/
theorem shown_answerFailure (r : Responder) (i : Incident) (place : Place) (m : Memo) :
    (r.answerFailure i place m).memo.shown i place.ambient r.development place.path
        place.requestId =
      m.shown i place.ambient r.development place.path place.requestId := by
  rcases r.answerFailure_cases i place m with ⟨t, -, heq⟩ | ⟨q, memo, hshown, hmemo, heq⟩
  · rw [heq]
  · rw [heq, hshown]
    exact Memo.shown_of_presented? hmemo _ _

/-- The response to a failure depends on nothing but what its error is shown as. -/
theorem response_answerFailure (r : Responder) (i : Incident) (place : Place) (m : Memo) :
    (r.answerFailure i place m).response =
      (m.shown i place.ambient r.development place.path place.requestId).bind
        r.problemResponse := by
  rcases r.answerFailure_cases i place m with ⟨t, hshown, heq⟩ | ⟨q, memo, hshown, -, heq⟩
  · rw [heq, hshown]; rfl
  · rw [heq, hshown]; rfl

theorem problemResponse_of_write {r : Responder} (htype : Text.IsLatinText r.format.contentType)
    {q : Problem} {body : String} (hwrite : r.format.write q.payload = .ok body) :
    r.problemResponse q = .ok ⟨q.status, Response.lengthHeader q.status body
      ++ Response.typeHeader (some r.format.contentType), body⟩ := by
  have hm : ∀ m ∈ some r.format.contentType, Text.IsLatinText m := by
    rintro m ⟨⟩
    exact htype
  unfold problemResponse
  simp only [hwrite]
  exact Response.make_of_latin q.status body hm

end Responder

end Triage
