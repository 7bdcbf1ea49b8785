import Mathlib.Tactic.Basic

/-!
# Computations that succeed

A computation that may fail is taken apart by what its success says of its steps.
-/

namespace Triage

variable {ε α β : Type}

/-- What is made of a result is there exactly when the result is. -/
theorem map_eq_ok_iff {f : α → β} {r : Except ε α} {b : β} :
    r.map f = .ok b ↔ ∃ a, r = .ok a ∧ f a = b := by
  cases r <;> simp [Except.map]

/-- A sequence succeeds exactly when its steps do, one after the other. -/
theorem bind_eq_ok_iff {f : α → Except ε β} {r : Except ε α} {b : β} :
    (r >>= f) = .ok b ↔ ∃ a, r = .ok a ∧ f a = .ok b := by
  cases r <;> simp [bind, Except.bind]

/-- Whether there is a result. -/
def Succeeds {ε α : Type} (r : Except ε α) : Prop := ∃ a, r = .ok a

@[simp] theorem succeeds_ok (a : α) : Succeeds (.ok a : Except ε α) := ⟨a, rfl⟩

@[simp] theorem not_succeeds_error (t : ε) : ¬Succeeds (.error t : Except ε α) :=
  fun ⟨_, h⟩ => nomatch h

@[simp] theorem succeeds_map_iff {f : α → β} {r : Except ε α} :
    Succeeds (r.map f) ↔ Succeeds r := by
  cases r <;> simp [Except.map]

theorem succeeds_bind_iff {f : α → Except ε β} {r : Except ε α} :
    Succeeds (r >>= f) ↔ ∃ a, r = .ok a ∧ Succeeds (f a) := by
  cases r <;> simp [bind, Except.bind]

/-- A step whose success does not depend on what came before it. -/
theorem succeeds_bind_iff_of_forall {P : Prop} {f : α → Except ε β} {r : Except ε α}
    (h : ∀ a, Succeeds (f a) ↔ P) : Succeeds (r >>= f) ↔ Succeeds r ∧ P := by
  cases r with
  | error t => simp [bind, Except.bind]
  | ok a => simp [bind, Except.bind, h]

/-- A last step that cannot fail. -/
@[simp] theorem succeeds_bind_pure_iff {f : α → β} {r : Except ε α} :
    Succeeds (r >>= fun a => pure (f a)) ↔ Succeeds r :=
  (succeeds_bind_iff_of_forall fun a => iff_true_intro (succeeds_ok (f a))).trans
    (and_iff_left trivial)

/-- A row of computations succeeds exactly when each of them does. -/
theorem succeeds_mapM_iff {f : α → Except ε β} {as : List α} :
    Succeeds (as.mapM f) ↔ ∀ a ∈ as, Succeeds (f a) := by
  induction as with
  | nil => simp [pure, Except.pure]
  | cons a as ih =>
      rw [List.mapM_cons, List.forall_mem_cons, ← ih, succeeds_bind_iff]
      constructor
      · rintro ⟨b, hb, hrest⟩
        obtain ⟨bs, hbs, -⟩ := succeeds_bind_iff.mp hrest
        exact ⟨⟨b, hb⟩, bs, hbs⟩
      · rintro ⟨⟨b, hb⟩, bs, hbs⟩
        exact ⟨b, hb, succeeds_bind_iff.mpr ⟨bs, hbs, succeeds_ok _⟩⟩

end Triage
