import Triage.Proofs.Handling

/-!
# Leaving an error alone

An error is left alone exactly on one of four grounds, and then nothing is left
of the attempt but a count and, unless the error is a cancellation, one look at
the client. In a run such an attempt may be left out, if only the look is kept:
every other move gives the same answer, leaves the same exchange and the same
events (`keptResults_trim`).
-/

namespace Triage

/-! ## Runs without the declined moves -/

/-- Whether a move was a handling that was declined. -/
def Moved.isDeclined (r : Moved) : Bool :=
  match r.answer with
  | .ok (.handled .bypass) => true
  | _ => false

/-- A step of a run from which the declined moves have been left out. -/
inductive Trimmed where
  /-- A move that was not declined. -/
  | kept (m : Move)
  /-- The look at the client that belongs to a declined one. -/
  | look

namespace Trimmed

/-- The move of a step. -/
def move : Trimmed → Move
  | .kept m => m
  | .look => .poll

/-- Whether the step was a move of its own. -/
def isKept : Trimmed → Bool
  | .kept _ => true
  | .look => false

end Trimmed

/-- What stays of a move that is declined. -/
def Move.remainder : Move → List Trimmed
  | .handle i => if i.error.isCancellation then [] else [.look]
  | _ => []

theorem Move.remainder_cases (m : Move) : m.remainder = [] ∨ m.remainder = [.look] := by
  unfold Move.remainder
  split
  · split
    · exact Or.inl rfl
    · exact Or.inr rfl
  · exact Or.inl rfl

namespace Handler

/-- The steps of a run that are left when the declined moves are left out. -/
def trim (h : Handler) (x : Exchange) : List Move → List Trimmed
  | [] => []
  | m :: ms =>
    let r := h.move x m
    (if r.isDeclined then m.remainder else [.kept m]) ++ h.trim r.exchange ms

/-- What the kept steps come to, each in its place of the trimmed run. -/
def keptResults (h : Handler) (x : Exchange) (steps : List Trimmed) : List Moved :=
  ((steps.zip (h.run x (steps.map Trimmed.move))).filter (·.1.isKept)).map (·.2)

variable {h : Handler} {x : Exchange} {i : Incident}

/-! ## One attempt -/

theorem handle_eq_bypass_iff :
    (h.handle i x).outcome = .ok .bypass ↔ ∃ reason, x.reasonToDecline? i = some reason := by
  constructor
  · intro hout
    cases hreason : x.reasonToDecline? i with
    | some reason => exact ⟨reason, rfl⟩
    | none =>
        obtain ⟨format, -, heq⟩ := handle_of_accepted (h := h) hreason
        rw [heq] at hout
        exact absurd hout (h.resolve_ne_bypass format i x.polled)
  · rintro ⟨reason, hreason⟩
    rw [handle_of_declined hreason]
    rfl

/-- A move is declined when it is a handling that is declined, and then all that
has happened is the look that remains of it. -/
theorem exchange_of_isDeclined {m : Move} (hm : (h.move x m).isDeclined = true) :
    (h.move x m).exchange = h.after x (m.remainder.map Trimmed.move) := by
  cases m with
  | handle i =>
      have hout : (h.handle i x).outcome = .ok .bypass := by
        unfold Moved.isDeclined move at hm
        cases hres : (h.handle i x).outcome with
        | error t => simp [hres, Except.map] at hm
        | ok o => cases o <;> simp [hres, Except.map] at hm ⊢
      obtain ⟨reason, hreason⟩ := handle_eq_bypass_iff.mp hout
      show (h.handle i x).exchange = h.after x
        ((if i.error.isCancellation then [] else [Trimmed.look]).map Trimmed.move)
      rw [handle_of_declined hreason]
      unfold bypass Exchange.lookedAt
      split <;> rfl
  | edit e =>
      unfold Moved.isDeclined move at hm
      cases hedit : x.draft.edit e <;> simp [hedit] at hm
  | poll => cases hm
  | renew status => cases hm

/-! ## Whole runs -/

theorem keptResults_kept (h : Handler) (x : Exchange) (m : Move) (steps : List Trimmed) :
    h.keptResults x (.kept m :: steps) =
      h.move x m :: h.keptResults (h.move x m).exchange steps := rfl

/-- What remains of a move is not one of the kept steps. -/
theorem keptResults_remainder (h : Handler) (x : Exchange) (m : Move) (steps : List Trimmed) :
    h.keptResults x (m.remainder ++ steps) =
      h.keptResults (h.after x (m.remainder.map Trimmed.move)) steps := by
  rcases m.remainder_cases with hm | hm <;> rw [hm] <;> rfl

/-- The trimmed run gives what the run gives at all moves but the declined ones,
by induction on the moves: where one is declined, its look leads to the exchange
from which the rest of both runs goes on. -/
theorem keptResults_trim (h : Handler) (x : Exchange) (ms : List Move) :
    h.keptResults x (h.trim x ms) = (h.run x ms).filter (!·.isDeclined) := by
  induction ms generalizing x with
  | nil => rfl
  | cons m ms ih =>
      unfold trim run
      cases hm : (h.move x m).isDeclined with
      | true =>
          simp only [hm, if_true, keptResults_remainder, ← exchange_of_isDeclined hm, ih]
          simp [hm]
      | false =>
          simp only [hm, Bool.false_eq_true, if_false, List.singleton_append,
            keptResults_kept, ih]
          simp [hm]

theorem after_trim (h : Handler) (x : Exchange) (ms : List Move) :
    h.after x ((h.trim x ms).map Trimmed.move) = h.after x ms := by
  induction ms generalizing x with
  | nil => rfl
  | cons m ms ih =>
      show _ = h.after (h.move x m).exchange ms
      unfold trim
      cases hm : (h.move x m).isDeclined with
      | true =>
          simp only [hm, if_true]
          rw [List.map_append, after_append, ← exchange_of_isDeclined hm, ih]
      | false =>
          simp only [hm, Bool.false_eq_true, if_false]
          exact ih _

/-- **Declining is exact and leaves no trace.** An error is left alone just when
one of the four grounds holds, for the first of them; draft, memo and request
stay as they are, and a count is all that has happened. Left out of a run, with
the looks kept, such handlings are missed nowhere: all other moves answer the same,
leave the same exchange and the same events. -/
theorem declining_is_exact (h : Handler) (x : Exchange) :
    (∀ i : Incident,
      ((h.handle i x).outcome = .ok .bypass ↔
        i.error.isCancellation = true ∨ x.inbox.poll.1 = true
          ∨ canWriteProblem x.request.accept = false ∨ x.request.format = none)
      ∧ ((h.handle i x).outcome = .ok .bypass →
        ∃ reason, x.reasonToDecline? i = some reason
          ∧ (h.handle i x).events = [.counted (.bypass reason)]
          ∧ (h.handle i x).exchange.draft = x.draft
          ∧ (h.handle i x).exchange.memo = x.memo
          ∧ (h.handle i x).exchange.request = x.request
          ∧ (h.handle i x).exchange.inbox =
              if i.error.isCancellation then x.inbox else x.inbox.poll.2))
    ∧ ∀ ms : List Move,
      h.keptResults x (h.trim x ms) = (h.run x ms).filter (!·.isDeclined)
      ∧ h.after x ((h.trim x ms).map Trimmed.move) = h.after x ms := by
  refine ⟨fun i => ⟨?_, ?_⟩, fun ms => ⟨h.keptResults_trim x ms, h.after_trim x ms⟩⟩
  · rw [handle_eq_bypass_iff, ← Option.ne_none_iff_exists', Ne,
      Exchange.reasonToDecline?_eq_none_iff]
    grind
  · intro hout
    obtain ⟨reason, hreason⟩ := handle_eq_bypass_iff.mp hout
    rw [handle_of_declined hreason]
    refine ⟨reason, hreason, rfl, x.lookedAt_draft i, x.lookedAt_memo i, x.lookedAt_request i, ?_⟩
    unfold bypass Exchange.lookedAt
    split <;> rfl

end Handler

end Triage
