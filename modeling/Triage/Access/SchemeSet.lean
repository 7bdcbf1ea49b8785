import Triage.Text.Glyph

/-!
# Sets of authentication schemes

A set of scheme names is kept as its members in ascending order, each once, so
equal sets are equal lists and listing a set needs no further sorting.
-/

namespace Triage

/-- Whether names ascend strictly. -/
abbrev Ascending (names : List Text) : Prop := names.Pairwise (· < ·)

/-- Puts a name in its place among ascending names. -/
def insertName (name : Text) : List Text → List Text
  | [] => [name]
  | other :: rest =>
    if name < other then name :: other :: rest
    else if name = other then other :: rest
    else other :: insertName name rest

theorem mem_insertName {a name : Text} {names : List Text} :
    a ∈ insertName name names ↔ a = name ∨ a ∈ names := by
  induction names with
  | nil => simp [insertName]
  | cons other rest ih =>
    unfold insertName
    split
    · simp
    · split
      · rename_i h; subst h; simp
      · simp only [List.mem_cons, ih]
        constructor
        · rintro (h | h | h) <;> simp [h]
        · rintro (h | h | h) <;> simp [h]

theorem ascending_insertName {name : Text} {names : List Text} (h : Ascending names) :
    Ascending (insertName name names) := by
  induction names with
  | nil => simp [insertName, Ascending]
  | cons other rest ih =>
    have hrest := List.pairwise_cons.mp h
    unfold insertName
    split
    · rename_i hlt
      refine List.pairwise_cons.mpr ⟨fun a ha => ?_, h⟩
      rcases List.mem_cons.mp ha with rfl | ha
      · exact hlt
      · exact Text.lt_trans hlt (hrest.1 a ha)
    · split
      · exact h
      · rename_i hlt hne
        refine List.pairwise_cons.mpr ⟨fun a ha => ?_, ih hrest.2⟩
        rcases mem_insertName.mp ha with rfl | ha
        · exact Text.lt_of_not_lt_of_ne hlt hne
        · exact hrest.1 a ha

/-- A set of scheme names. -/
structure SchemeSet where
  names : List Text
  ascending : Ascending names := by exact .nil
  deriving DecidableEq

namespace SchemeSet

def empty : SchemeSet := ⟨[], .nil⟩

def insert (s : SchemeSet) (name : Text) : SchemeSet :=
  ⟨insertName name s.names, ascending_insertName s.ascending⟩

/-- The set of the names that are not empty. -/
def ofList (names : List Text) : SchemeSet :=
  (names.filter (!·.isEmpty)).foldl insert empty

/-- The names of either set. -/
def union (s t : SchemeSet) : SchemeSet := t.names.foldl insert s

end SchemeSet

end Triage
