import Triage.Error.Text
import Triage.Proofs.Obstacles

/-!
# Which errors have a text

The text of an error is put together from pieces, and there is no other obstacle to it than those
to the values among them (`Form.succeeds_text_iff`).
-/

namespace Triage

namespace Piece

/-- There is no obstacle to a piece. -/
def IsPossible : Piece → Prop
  | .words _ => True
  | .own v => v.HasText
  | .displayed v => Value.CanShow deepest v

theorem succeeds_text_iff : ∀ {p : Piece}, Succeeds p.text ↔ p.IsPossible
  | .words _ => iff_of_true ⟨_, rfl⟩ trivial
  | .own _ => Value.succeeds_asText_iff
  | .displayed _ => Value.succeeds_shown_iff

theorem succeeds_say_iff {ps : List Piece} : Succeeds (say ps) ↔ ∀ p ∈ ps, p.IsPossible := by
  fun_induction say ps with
  | case1 => simp
  | case2 p => rw [succeeds_text_iff, List.forall_mem_singleton]
  | case3 p rest hrest ih =>
      rw [succeeds_bind_iff_of_forall fun _ => succeeds_bind_pure_iff, succeeds_text_iff, ih,
        List.forall_mem_cons]

end Piece

/-- **An error has a text exactly if there is no obstacle to a value that goes into it.** -/
theorem Form.succeeds_text_iff (f : Form) : Succeeds f.text ↔ ∀ p ∈ f.pieces, p.IsPossible := by
  rw [← Piece.succeeds_say_iff]
  cases f with
  | requestValidation entries endpoint => exact succeeds_bind_pure_iff
  | _ => exact Iff.rfl

/-- There is no obstacle to the text of an error. -/
def Error.HasText (e : Error) : Prop := ∀ p ∈ e.form.pieces, p.IsPossible

theorem Error.succeeds_ownText_iff {e : Error} : Succeeds e.ownText ↔ e.HasText := by
  unfold ownText
  rw [Trouble.succeeds_ofWords_iff]
  exact e.form.succeeds_text_iff

end Triage
