import Triage.Value

/-!
# Parts of values

A part of a value is the value itself, or a part of one of its items or fields.
-/

namespace Triage.Value

/-- `IsPart w v`: somewhere in `v`, at any depth, stands `w`. -/
inductive IsPart (w : Value) : Value → Prop where
  | self : IsPart w w
  | item {items : List Value} {u : Value} : u ∈ items → IsPart w u → IsPart w (.list items)
  | tupleItem {items : List Value} {u : Value} :
      u ∈ items → IsPart w u → IsPart w (.tuple items)
  | field {fields : List (Text × Value)} {name : Text} {u : Value} :
      (name, u) ∈ fields → IsPart w u → IsPart w (.object fields)

theorem isPart_list_iff {w : Value} {items : List Value} :
    IsPart w (.list items) ↔ w = .list items ∨ ∃ u ∈ items, IsPart w u := by
  constructor
  · rintro (_ | ⟨hu, hw⟩)
    · exact Or.inl rfl
    · exact Or.inr ⟨_, hu, hw⟩
  · rintro (rfl | ⟨u, hu, hw⟩)
    · exact .self
    · exact .item hu hw

theorem isPart_object_iff {w : Value} {fields : List (Text × Value)} :
    IsPart w (.object fields) ↔ w = .object fields ∨ ∃ f ∈ fields, IsPart w f.2 := by
  constructor
  · rintro (_ | _ | _ | ⟨hu, hw⟩)
    · exact Or.inl rfl
    · exact Or.inr ⟨_, hu, hw⟩
  · rintro (rfl | ⟨f, hf, hw⟩)
    · exact .self
    · exact .field hf hw

end Triage.Value
