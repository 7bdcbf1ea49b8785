import Triage.Http.Response
import Triage.Proofs.Succeeding

/-!
# What can be put into words

On the way through a value the first obstacle ends the way. Said without the way: a value can be
displayed if its whole numbers do not have too many digits, its things have texts, and it is not
nested deeper than there is room (`Value.CanShow`); a layout that writes nothing but JSON asks
for more (`Json.CanWrite`). Where nothing but the nesting can be in the way, the levels of a value
are counted against the room (`Json.levels`).
-/

namespace Triage

open Number

/-! ## Displaying -/

theorem Trouble.ofWords_eq_ok_iff {α : Type} {words : Except Obstacle α} {a : α} :
    Trouble.ofWords words = .ok a ↔ words = .ok a := by
  cases words with
  | error o => exact iff_of_false (fun h => nomatch h) (fun h => nomatch h)
  | ok b => exact ⟨fun h => congrArg Except.ok (Except.ok.inj h), fun h => h ▸ rfl⟩

@[simp] theorem Trouble.succeeds_ofWords_iff {α : Type} {words : Except Obstacle α} :
    Succeeds (Trouble.ofWords words) ↔ Succeeds words := by
  simp only [Succeeds, ofWords_eq_ok_iff]

theorem Number.succeeds_wholeText_iff {n : Int} :
    Succeeds (wholeText n) ↔ fitsDigits n = true := by
  unfold wholeText
  split <;> simp_all

namespace Value

/-- A value can be displayed where `room` levels are left. -/
inductive CanShow : Nat → Value → Prop where
  | null {room : Nat} : CanShow room .null
  | bool {room : Nat} (b : Bool) : CanShow room (.bool b)
  | int {room : Nat} {n : Int} : fitsDigits n = true → CanShow room (.int n)
  | float {room : Nat} (x : Binary64) : CanShow room (.float x)
  | text {room : Nat} (s : Text) : CanShow room (.text s)
  | list {room : Nat} {items : List Value} :
      (∀ v ∈ items, CanShow room v) → CanShow (room + 1) (.list items)
  | tuple {room : Nat} {items : List Value} :
      (∀ v ∈ items, CanShow room v) → CanShow (room + 1) (.tuple items)
  | object {room : Nat} {fields : List (Text × Value)} :
      (∀ f ∈ fields, CanShow room f.2) → CanShow (room + 1) (.object fields)
  | bytes {room : Nat} (s : String) : CanShow room (.bytes s)
  | thing {room : Nat} {t : Thing} : Succeeds t.shown → CanShow room (.thing t)

mutual

/-- A value is displayed exactly if it can be. -/
theorem succeeds_shownWithin_iff : ∀ {room : Nat} (v : Value),
    Succeeds (v.shownWithin room) ↔ CanShow room v
  | _, .null => iff_of_true ⟨_, rfl⟩ .null
  | _, .bool b => iff_of_true ⟨_, rfl⟩ (.bool b)
  | _, .int n => succeeds_wholeText_iff.trans ⟨.int, fun | .int h => h⟩
  | _, .float x => iff_of_true ⟨_, rfl⟩ (.float x)
  | _, .text s => iff_of_true ⟨_, rfl⟩ (.text s)
  | 0, .list items | 0, .tuple items | 0, .object fields =>
      iff_of_false (fun ⟨_, h⟩ => nomatch h) (fun h => nomatch h)
  | room + 1, .list items => by
      rw [shownWithin, succeeds_bind_pure_iff, succeeds_allShownWithin_iff items]
      exact ⟨.list, fun | .list h => h⟩
  | room + 1, .tuple items => by
      rw [shownWithin, succeeds_bind_pure_iff, succeeds_allShownWithin_iff items]
      exact ⟨.tuple, fun | .tuple h => h⟩
  | room + 1, .object fields => by
      rw [shownWithin, succeeds_bind_pure_iff, succeeds_fieldsShownWithin_iff fields]
      exact ⟨.object, fun | .object h => h⟩
  | _, .bytes s => iff_of_true ⟨_, rfl⟩ (.bytes s)
  | _, .thing t => ⟨.thing, fun | .thing h => h⟩

theorem succeeds_allShownWithin_iff : ∀ {room : Nat} (items : List Value),
    Succeeds (allShownWithin room items) ↔ ∀ v ∈ items, CanShow room v
  | _, [] => iff_of_true ⟨_, rfl⟩ (List.forall_mem_nil _)
  | _, v :: rest => by
      rw [allShownWithin, succeeds_bind_iff_of_forall fun _ => succeeds_bind_pure_iff,
        succeeds_shownWithin_iff v, succeeds_allShownWithin_iff rest, List.forall_mem_cons]

theorem succeeds_fieldsShownWithin_iff : ∀ {room : Nat} (fields : List (Text × Value)),
    Succeeds (fieldsShownWithin room fields) ↔ ∀ f ∈ fields, CanShow room f.2
  | _, [] => iff_of_true ⟨_, rfl⟩ (List.forall_mem_nil _)
  | _, (k, v) :: rest => by
      rw [fieldsShownWithin, succeeds_bind_iff_of_forall fun _ => succeeds_bind_pure_iff,
        succeeds_shownWithin_iff v, succeeds_fieldsShownWithin_iff rest, List.forall_mem_cons]

end

/-- A value has a text of its own: a text is one, a thing has one or not, and anything else is
displayed. -/
def HasText : Value → Prop
  | .text _ => True
  | .thing t => Succeeds t.text
  | v => CanShow deepest v

theorem succeeds_shown_iff {v : Value} : Succeeds v.shown ↔ CanShow deepest v :=
  succeeds_shownWithin_iff v

theorem succeeds_asText_iff {v : Value} : Succeeds v.asText ↔ v.HasText := by
  cases v with
  | text s => exact iff_of_true ⟨_, rfl⟩ trivial
  | thing t => exact Iff.rfl
  | _ => exact succeeds_shown_iff

end Value

/-! ## Writing -/

namespace Json

/-- A value can be written in a layout where `room` levels are left. A text that stands for a
value which JSON does not have takes up a level. -/
inductive CanWrite (st : Style) : Nat → Value → Prop where
  | null {room : Nat} : CanWrite st room .null
  | bool {room : Nat} (b : Bool) : CanWrite st room (.bool b)
  | int {room : Nat} {n : Int} : fitsDigits n = true → CanWrite st room (.int n)
  | float {room : Nat} {x : Binary64} :
      st.isLenient = true ∨ x.isFinite = true → CanWrite st room (.float x)
  | text {room : Nat} (s : Text) : CanWrite st room (.text s)
  | list {room : Nat} {items : List Value} :
      (∀ v ∈ items, CanWrite st room v) → CanWrite st (room + 1) (.list items)
  | tuple {room : Nat} {items : List Value} :
      (∀ v ∈ items, CanWrite st room v) → CanWrite st (room + 1) (.tuple items)
  | object {room : Nat} {fields : List (Text × Value)} :
      (∀ f ∈ fields, CanWrite st room f.2) → CanWrite st (room + 1) (.object fields)
  | bytes {room : Nat} (s : String) : st.isLenient = true → CanWrite st (room + 1) (.bytes s)
  | thing {room : Nat} {t : Thing} :
      st.isLenient = true → Succeeds t.text → CanWrite st (room + 1) (.thing t)

variable {st : Style}

theorem textObstacle?_eq_none_iff {room : Nat} {type : String} {text : Except Obstacle Text} :
    textObstacle? st room type text = none ↔
      st.isLenient = true ∧ Succeeds text ∧ room ≠ 0 := by
  unfold textObstacle?
  cases st.isLenient <;> cases text <;> simp

mutual

/-- There is no obstacle to a value exactly if it can be written. -/
theorem obstacle?_eq_none_iff : ∀ {room : Nat} (v : Value),
    obstacle? st room v = none ↔ CanWrite st room v
  | _, .null => iff_of_true (by rw [obstacle?]) .null
  | _, .bool b => iff_of_true (by rw [obstacle?]) (.bool b)
  | room, .int n => by
      have hfits : obstacle? st room (.int n) = none ↔ fitsDigits n = true := by simp [obstacle?]
      exact hfits.trans ⟨.int, fun | .int h => h⟩
  | room, .float x => by
      have hfinite : obstacle? st room (.float x) = none ↔
          st.isLenient = true ∨ x.isFinite = true := by
        cases hlenient : st.isLenient <;> simp [obstacle?, hlenient]
      exact hfinite.trans ⟨.float, fun | .float h => h⟩
  | _, .text s => iff_of_true (by rw [obstacle?]) (.text s)
  | 0, .list items | 0, .tuple items | 0, .object fields =>
      iff_of_false (by simp [obstacle?]) (fun h => nomatch h)
  | room + 1, .list items => by
      rw [obstacle?, itemsObstacle?_eq_none_iff items]
      exact ⟨.list, fun | .list h => h⟩
  | room + 1, .tuple items => by
      rw [obstacle?, itemsObstacle?_eq_none_iff items]
      exact ⟨.tuple, fun | .tuple h => h⟩
  | room + 1, .object fields => by
      rw [obstacle?, fieldsObstacle?_eq_none_iff fields]
      exact ⟨.object, fun | .object h => h⟩
  | 0, .bytes s =>
      iff_of_false (by simp [obstacle?, textObstacle?_eq_none_iff]) (fun h => nomatch h)
  | room + 1, .bytes s => by
      rw [obstacle?, textObstacle?_eq_none_iff]
      exact ⟨fun h => .bytes s h.1, fun | .bytes _ h => ⟨h, ⟨_, rfl⟩, Nat.succ_ne_zero room⟩⟩
  | 0, .thing t =>
      iff_of_false (by simp [obstacle?, textObstacle?_eq_none_iff]) (fun h => nomatch h)
  | room + 1, .thing t => by
      rw [obstacle?, textObstacle?_eq_none_iff]
      exact ⟨fun h => .thing h.1 h.2.1,
        fun | .thing h htext => ⟨h, htext, Nat.succ_ne_zero room⟩⟩

theorem itemsObstacle?_eq_none_iff : ∀ {room : Nat} (items : List Value),
    itemsObstacle? st room items = none ↔ ∀ v ∈ items, CanWrite st room v
  | _, [] => iff_of_true rfl (List.forall_mem_nil _)
  | _, v :: rest => by
      rw [itemsObstacle?, Option.or_eq_none_iff, obstacle?_eq_none_iff v,
        itemsObstacle?_eq_none_iff rest, List.forall_mem_cons]

theorem fieldsObstacle?_eq_none_iff : ∀ {room : Nat} (fields : List (Text × Value)),
    fieldsObstacle? st room fields = none ↔ ∀ f ∈ fields, CanWrite st room f.2
  | _, [] => iff_of_true rfl (List.forall_mem_nil _)
  | _, (k, v) :: rest => by
      rw [fieldsObstacle?, Option.or_eq_none_iff, obstacle?_eq_none_iff v,
        fieldsObstacle?_eq_none_iff rest, List.forall_mem_cons]

end

/-- An obstacle to a row of items is one to some item. -/
theorem exists_of_itemsObstacle? {room : Nat} {o : Obstacle} {items : List Value}
    (h : itemsObstacle? st room items = some o) : ∃ v ∈ items, obstacle? st room v = some o := by
  induction items with
  | nil => cases h
  | cons v rest ih =>
      rw [itemsObstacle?, Option.or_eq_some_iff] at h
      rcases h with hv | ⟨-, hrest⟩
      · exact ⟨v, List.mem_cons_self .., hv⟩
      · obtain ⟨w, hw, ho⟩ := ih hrest
        exact ⟨w, List.mem_cons_of_mem _ hw, ho⟩

@[inherit_doc exists_of_itemsObstacle?]
theorem exists_of_fieldsObstacle? {room : Nat} {o : Obstacle} {fields : List (Text × Value)}
    (h : fieldsObstacle? st room fields = some o) :
    ∃ f ∈ fields, obstacle? st room f.2 = some o := by
  induction fields with
  | nil => cases h
  | cons f rest ih =>
      rw [fieldsObstacle?, Option.or_eq_some_iff] at h
      rcases h with hf | ⟨-, hrest⟩
      · exact ⟨f, List.mem_cons_self .., hf⟩
      · obtain ⟨g, hg, ho⟩ := ih hrest
        exact ⟨g, List.mem_cons_of_mem _ hg, ho⟩

/-! ## Levels -/

mutual

/-- How many levels of the room a value takes up where it is written. -/
def levels : Value → Nat
  | .list items | .tuple items => levelsOfItems items + 1
  | .object fields => levelsOfFields fields + 1
  | .bytes _ | .thing _ => 1
  | _ => 0

def levelsOfItems : List Value → Nat
  | [] => 0
  | v :: rest => max (levels v) (levelsOfItems rest)

def levelsOfFields : List (Text × Value) → Nat
  | [] => 0
  | (_, v) :: rest => max (levels v) (levelsOfFields rest)

end

theorem levelsOfItems_le_iff {room : Nat} {items : List Value} :
    levelsOfItems items ≤ room ↔ ∀ v ∈ items, levels v ≤ room := by
  induction items with
  | nil => simp [levelsOfItems]
  | cons v rest ih => rw [levelsOfItems, Nat.max_le, ih, List.forall_mem_cons]

theorem levelsOfFields_le_iff {room : Nat} {fields : List (Text × Value)} :
    levelsOfFields fields ≤ room ↔ ∀ f ∈ fields, levels f.2 ≤ room := by
  induction fields with
  | nil => simp [levelsOfFields]
  | cons f rest ih => rw [levelsOfFields, Nat.max_le, ih, List.forall_mem_cons]

theorem levels_list_le_iff {room : Nat} {items : List Value} :
    levels (.list items) ≤ room + 1 ↔ ∀ v ∈ items, levels v ≤ room := by
  rw [levels, Nat.succ_le_succ_iff, levelsOfItems_le_iff]

theorem levels_object_le_iff {room : Nat} {fields : List (Text × Value)} :
    levels (.object fields) ≤ room + 1 ↔ ∀ f ∈ fields, levels f.2 ≤ room := by
  rw [levels, Nat.succ_le_succ_iff, levelsOfFields_le_iff]

end Json

end Triage
