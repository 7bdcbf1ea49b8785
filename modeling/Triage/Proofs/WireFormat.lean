import Triage.Problem
import Triage.Value.Part

/-!
# Problems on the wire

A problem is written with those of its fields that have a value. Reading looks for every
field under both of its names, and no name belongs to two fields, so each field is found
again, whichever of its names it stands under, and is missing only where it had no value
(`FieldName.find?_spelled`). Hence nothing of a problem is lost on the wire
(`Problem.payload_loses_nothing`).
-/

namespace Triage

/-! ## Fields under either of their names -/

namespace FieldName

/-- A name whose words stand between underscores, run together: each word but the first
starts with a capital. -/
def runTogether : List Char → List Char
  | [] => []
  | '_' :: c :: rest => c.toUpper :: runTogether rest
  | c :: rest => c :: runTogether rest

/-- The plain name of a field in camel case. -/
def camelCase (n : FieldName) : String := String.ofList (runTogether n.plain.toList)

/-- No name of the one field is a name of the other. -/
def IsApart (n m : FieldName) : Prop :=
  n.wire ≠ m.wire ∧ n.wire ≠ m.plain ∧ n.plain ≠ m.wire ∧ n.plain ≠ m.plain

instance : DecidableRel IsApart := fun n m =>
  inferInstanceAs
    (Decidable (n.wire ≠ m.wire ∧ n.wire ≠ m.plain ∧ n.plain ≠ m.wire ∧ n.plain ≠ m.plain))

/-- The name of a field: the plain one where it is chosen, else the wire name. -/
def under (chosen : FieldName → Bool) (n : FieldName) : String :=
  if chosen n then n.plain else n.wire

/-- Fields under their wire names, with those names that are chosen replaced by the plain
ones. -/
def rename (names : List FieldName) (chosen : FieldName → Bool) (fields : List (Text × Value)) :
    List (Text × Value) :=
  fields.map fun f =>
    match names.find? (fun n => (n.wire : Text) == f.1) with
    | some n => (n.under chosen, f.2)
    | none => f

/-- Every field has one of its names. -/
def IsNaming (name : FieldName → String) : Prop := ∀ n, name n = n.wire ∨ name n = n.plain

/-- Fields that have a value, under the names that `name` gives them. -/
def spelled (name : FieldName → String) (entries : List (FieldName × Option Value)) :
    List (Text × Value) :=
  entries.filterMap fun e => e.2.map fun v => (name e.1, v)

variable {name : FieldName → String} {entries : List (FieldName × Option Value)} {n : FieldName}

theorem spelled_cons (name : FieldName → String) (n : FieldName) (v? : Option Value)
    (entries : List (FieldName × Option Value)) :
    spelled name ((n, v?) :: entries) =
      (v?.map fun v => ((name n : Text), v)).toList ++ spelled name entries := by
  cases v? <;> rfl

theorem lookup?_spelled_eq_none {key : Text} (h : ∀ e ∈ entries, (name e.1 : Text) ≠ key) :
    Value.lookup? key (spelled name entries) = none := by
  induction entries with
  | nil => rfl
  | cons e entries ih =>
      obtain ⟨m, w?⟩ := e
      have hrest := ih fun e he => h e (List.mem_cons_of_mem _ he)
      rw [spelled_cons]
      cases w? with
      | none => exact hrest
      | some w => exact (if_neg (h (m, some w) (List.mem_cons_self ..))).trans hrest

theorem lookup?_spelled_cons_of_ne {m : FieldName} {key : Text} (h : (name m : Text) ≠ key)
    (w? : Option Value) :
    Value.lookup? key (spelled name ((m, w?) :: entries)) =
      Value.lookup? key (spelled name entries) := by
  rw [spelled_cons]
  cases w? with
  | none => rfl
  | some w => exact if_neg h

theorem IsApart.ne (hname : IsNaming name) {m : FieldName} (h : m.IsApart n) :
    (name m : Text) ≠ n.wire ∧ (name m : Text) ≠ n.plain := by
  obtain ⟨hww, hwp, hpw, hpp⟩ := h
  rw [ne_eq, ne_eq, Text.ofString_inj, Text.ofString_inj]
  rcases hname m with hm | hm <;> rw [hm]
  · exact ⟨hww, hwp⟩
  · exact ⟨hpw, hpp⟩

theorem IsApart.symm {m : FieldName} (h : m.IsApart n) : n.IsApart m :=
  ⟨h.1.symm, h.2.2.1.symm, h.2.1.symm, h.2.2.2.symm⟩

/-- **A field is found again under the name it has, if it has a value.** -/
theorem find?_spelled (hname : IsNaming name) (hapart : (entries.map (·.1)).Pairwise IsApart)
    {v? : Option Value} (hmem : (n, v?) ∈ entries) :
    n.find? (spelled name entries) = v?.map fun v => ((name n : Text), v) := by
  induction entries with
  | nil => cases hmem
  | cons e entries ih =>
      obtain ⟨m, w?⟩ := e
      rw [List.map_cons, List.pairwise_cons] at hapart
      rcases List.mem_cons.mp hmem with heq | hrest
      · obtain ⟨rfl, rfl⟩ := Prod.mk.inj heq
        -- The other fields have no name in common with this one.
        have hothers : ∀ e ∈ entries, (name e.1 : Text) ≠ n.wire ∧ (name e.1 : Text) ≠ n.plain :=
          fun e he => (hapart.1 e.1 (List.mem_map_of_mem he)).symm.ne hname
        have hwire := lookup?_spelled_eq_none fun e he => (hothers e he).1
        have hplain := lookup?_spelled_eq_none fun e he => (hothers e he).2
        unfold find?
        rw [spelled_cons]
        cases v? with
        | none => simp [hwire, hplain]
        | some v =>
            by_cases hsame : name n = n.wire
            · simp [Value.lookup?, hsame]
            · have hn := (hname n).resolve_left hsame
              simp [Value.lookup?, hn, hn ▸ hsame, hwire]
      · have hne := (hapart.1 n (List.mem_map_of_mem hrest)).ne hname
        unfold find?
        rw [lookup?_spelled_cons_of_ne hne.1, lookup?_spelled_cons_of_ne hne.2]
        exact ih hapart.2 hrest

theorem isNaming_wire : IsNaming wire := fun _ => Or.inl rfl

theorem isNaming_under (chosen : FieldName → Bool) : IsNaming (under chosen) := by
  intro n
  unfold under
  split
  · exact Or.inr rfl
  · exact Or.inl rfl

theorem find?_wire {names : List FieldName} (hapart : names.Pairwise IsApart) (hn : n ∈ names) :
    names.find? (fun m => (m.wire : Text) == n.wire) = some n := by
  induction names with
  | nil => cases hn
  | cons m names ih =>
      rw [List.pairwise_cons] at hapart
      rcases List.mem_cons.mp hn with rfl | hrest
      · exact List.find?_cons_of_pos (beq_self_eq_true _)
      · have hne : ((m.wire : Text) == n.wire) = false :=
          beq_false_of_ne (Text.ofString_ne (hapart.1 n hrest).1)
        rw [List.find?_cons, hne]
        exact ih hapart.2 hrest

/-- Replacing names in what was written is writing under the other names. -/
theorem rename_spelled {names : List FieldName} (hapart : names.Pairwise IsApart)
    (hnames : ∀ n ∈ entries.map (·.1), n ∈ names) (chosen : FieldName → Bool) :
    rename names chosen (spelled wire entries) = spelled (under chosen) entries := by
  induction entries with
  | nil => rfl
  | cons e entries ih =>
      obtain ⟨m, v?⟩ := e
      have hm := find?_wire hapart (hnames m (List.mem_cons_self ..))
      have hrest := ih fun n hn => hnames n (List.mem_cons_of_mem _ hn)
      unfold rename at hrest
      rw [spelled_cons, spelled_cons, rename, List.map_append, hrest]
      cases v? with
      | none => rfl
      | some v => simp [hm]

/-- Rewriting the value of one field in what was written is writing the rewritten value. -/
theorem map_spelled (name : FieldName → String) (key : Text) (g : Value → Value)
    (entries : List (FieldName × Option Value)) :
    ((spelled name entries).map fun f => if f.1 = key then (f.1, g f.2) else f) =
      spelled name
        (entries.map fun e => (e.1, if (name e.1 : Text) = key then e.2.map g else e.2)) := by
  induction entries with
  | nil => rfl
  | cons e entries ih =>
      obtain ⟨m, v?⟩ := e
      rw [spelled_cons, List.map_append, ih, List.map_cons, spelled_cons]
      cases v? with
      | none => simp
      | some v => by_cases hkey : (name m : Text) = key <;> simp [hkey]

theorem map_fst_spelled_sublist (name : FieldName → String)
    (entries : List (FieldName × Option Value)) :
    ((spelled name entries).map (·.1)).Sublist
      ((entries.map (·.1)).map fun n => (name n : Text)) := by
  induction entries with
  | nil => exact .slnil
  | cons e entries ih =>
      obtain ⟨m, v?⟩ := e
      rw [spelled_cons]
      cases v? with
      | none => exact ih.cons _
      | some v => exact ih.cons_cons _

theorem mem_keys_spelled_iff {key : Text} :
    key ∈ (spelled name entries).map (·.1) ↔
      ∃ n v, (n, some v) ∈ entries ∧ (name n : Text) = key := by
  constructor
  · intro hkey
    obtain ⟨f, hf, rfl⟩ := List.mem_map.mp hkey
    obtain ⟨⟨n, v?⟩, hmem, hv⟩ := List.mem_filterMap.mp hf
    obtain ⟨v, rfl, rfl⟩ := Option.map_eq_some_iff.mp hv
    exact ⟨n, v, hmem, rfl⟩
  · rintro ⟨n, v, hmem, rfl⟩
    exact List.mem_map.mpr ⟨(name n, v), List.mem_filterMap.mpr ⟨_, hmem, rfl⟩, rfl⟩

theorem isPart_spelled {w : Value} (h : Value.IsPart w (.object (spelled name entries))) :
    w = .object (spelled name entries) ∨
      ∃ n v, (n, some v) ∈ entries ∧ Value.IsPart w v := by
  refine (Value.isPart_object_iff.mp h).imp_right ?_
  rintro ⟨f, hf, hw⟩
  obtain ⟨⟨n, v?⟩, hmem, hv⟩ := List.mem_filterMap.mp hf
  obtain ⟨v, rfl, rfl⟩ := Option.map_eq_some_iff.mp hv
  exact ⟨n, v, hmem, hw⟩

/-- What was written for a field is read for it. -/
theorem read_spelled {α : Type} (hname : IsNaming name)
    (hapart : (entries.map (·.1)).Pairwise IsApart) {v? : Option Value} (hmem : (n, v?) ∈ entries)
    {check : Value → Except Flaw α} {default a : α}
    (hcheck : v?.elim (.ok default) check = .ok a) :
    n.read check default (spelled name entries) = ⟨[], a⟩ := by
  unfold read
  rw [find?_spelled hname hapart hmem]
  cases v? with
  | none => exact congrArg _ (Except.ok.inj hcheck)
  | some v =>
      have hv : check v = .ok a := hcheck
      simp [hv]

end FieldName

open FieldName

/-! ## Items -/

namespace FailureItem

/-- The fields of an item, in the order of their declaration. -/
def fieldNames : List FieldName := [
  propertyNameField, errorMessageField, errorCodeField, severityField, attemptedValueField,
  customStateField]

/-- The fields of an item with their values. -/
def entries (item : FailureItem) : List (FieldName × Option Value) := [
  (propertyNameField, some (.text item.propertyName)),
  (errorMessageField, some (.text item.errorMessage)),
  (errorCodeField, some (.text item.errorCode)),
  (severityField, some (.text item.severity.label)),
  (attemptedValueField, some (.text item.attemptedValue)),
  (customStateField, some (.text item.customState))]

/-- An item on the wire with those of its names that are chosen replaced. -/
def renamed (chosen : FieldName → Bool) : Value → Value
  | .object fields => .object (rename fieldNames chosen fields)
  | v => v

theorem pairwise_fieldNames : fieldNames.Pairwise IsApart := by decide

theorem toValue_eq (item : FailureItem) (name : FieldName → String) :
    item.toValue name = .object (spelled name item.entries) :=
  rfl

theorem renamed_toValue (item : FailureItem) (chosen : FieldName → Bool) :
    renamed chosen (item.toValue wire) = item.toValue (under chosen) := by
  have hnames : ∀ n ∈ item.entries.map (·.1), n ∈ fieldNames := fun _ hn => hn
  rw [toValue_eq, toValue_eq, renamed, rename_spelled pairwise_fieldNames hnames]

theorem check_label (s : Severity) : Severity.check (.text s.label) = .ok s := by
  cases s <;> rfl

theorem read_entry {name : FieldName → String} (hname : IsNaming name) (item : FailureItem)
    {α : Type} {n : FieldName} {v : Value} {check : Value → Except Flaw α} {default a : α}
    (hmem : (n, some v) ∈ item.entries) (hcheck : check v = .ok a) :
    n.read check default (spelled name item.entries) = ⟨[], a⟩ := by
  have hapart : (item.entries.map (·.1)).Pairwise IsApart := pairwise_fieldNames
  exact read_spelled hname hapart hmem hcheck

/-- An item is read back, whichever of their names its fields are under. -/
theorem readValue_toValue {name : FieldName → String} (hname : IsNaming name)
    (item : FailureItem) : readValue (item.toValue name) = ⟨[], item⟩ := by
  have htext : ∀ (n : FieldName) (s : Text), (n, some (.text s)) ∈ item.entries →
      n.read Value.checkText "" (spelled name item.entries) = ⟨[], s⟩ :=
    fun _ _ hmem => item.read_entry hname hmem rfl
  have hseverity : severityField.read Severity.check .error (spelled name item.entries) =
      ⟨[], item.severity⟩ :=
    item.read_entry hname (v := .text item.severity.label) (by simp [entries])
      (check_label item.severity)
  rw [toValue_eq, readValue, read,
    htext propertyNameField item.propertyName (by simp [entries]),
    htext errorMessageField item.errorMessage (by simp [entries]),
    htext errorCodeField item.errorCode (by simp [entries]), hseverity,
    htext attemptedValueField item.attemptedValue (by simp [entries]),
    htext customStateField item.customState (by simp [entries])]
  rfl

theorem readFrom_toValue (chosen : Nat → FieldName → Bool) (items : List FailureItem) (i : Nat) :
    readFrom i (items.mapIdx fun j item => item.toValue (under (chosen j))) = ⟨[], items⟩ := by
  induction items generalizing i chosen with
  | nil => rfl
  | cons item items ih =>
      have hrest := ih (fun j => chosen (j + 1)) (i + 1)
      simp [List.mapIdx_cons, readFrom, readValue_toValue (isNaming_under _), hrest]

/-- An item holds nothing but texts. -/
theorem isPart_toValue {w : Value} {item : FailureItem} {name : FieldName → String}
    (h : Value.IsPart w (item.toValue name)) : w = item.toValue name ∨ ∃ s, w = .text s := by
  rw [toValue_eq] at h ⊢
  refine (isPart_spelled h).imp_right ?_
  rintro ⟨n, v, hmem, hw⟩
  have htext : ∃ s, v = .text s := by
    simp only [entries, List.mem_cons, Prod.mk.injEq, Option.some.injEq, List.not_mem_nil,
      or_false] at hmem
    rcases hmem with ⟨-, rfl⟩ | ⟨-, rfl⟩ | ⟨-, rfl⟩ | ⟨-, rfl⟩ | ⟨-, rfl⟩ | ⟨-, rfl⟩ <;>
      exact ⟨_, rfl⟩
  obtain ⟨s, rfl⟩ := htext
  cases hw
  exact ⟨s, rfl⟩

theorem map_wire_fieldNames :
    fieldNames.map (fun n => (n.wire : Text)) = fieldNames.map fun n => (n.camelCase : Text) := by
  decide +kernel

end FailureItem

/-! ## Problems -/

namespace Problem

/-- The fields of a problem, in the order of their declaration. -/
def fieldNames : List FieldName := [
  statusField, titleField, typeField, detailField, instanceField, failuresField, requestIdField]

/-- The list of the failures, which are written as `items`: none where there are no failures. -/
def listed (p : Problem) (items : List Value) : Option Value :=
  if p.failures.isEmpty then none else some (.list items)

/-- The fields of a problem with their values, for failures that are written as `items`. -/
def entries (p : Problem) (items : List Value) : List (FieldName × Option Value) := [
  (statusField, some (.int p.status)),
  (titleField, p.title.map .text),
  (typeField, p.typeUri.map .text),
  (detailField, p.detail.map .text),
  (instanceField, p.instancePath.map .text),
  (failuresField, p.listed items),
  (requestIdField, p.requestId.map .text)]

/-- The items of a list on the wire with the names replaced that are chosen for each. -/
def renamedItems (chosen : Nat → FieldName → Bool) : Value → Value
  | .list items => .list (items.mapIdx fun i v => FailureItem.renamed (chosen i) v)
  | v => v

/-- The fields of a problem on the wire with names replaced: of its own those that `chosen`
holds, and of the item at each place those that `inner` holds there. -/
def renamed (chosen : FieldName → Bool) (inner : Nat → FieldName → Bool)
    (fields : List (Text × Value)) : List (Text × Value) :=
  rename fieldNames chosen
    (fields.map fun f =>
      if f.1 = (failuresField.wire : Text) then (f.1, renamedItems inner f.2) else f)

variable (p : Problem)

theorem pairwise_fieldNames : fieldNames.Pairwise IsApart := by decide

theorem optionalField_eq (n : FieldName) (s : Option Text) :
    optionalField n s = ((s.map Value.text).map fun v => ((n.wire : Text), v)).toList := by
  cases s <;> rfl

theorem wireFields_eq :
    p.wireFields = spelled wire (p.entries (p.failures.map (·.toValue wire))) := by
  simp only [wireFields, entries, spelled_cons, optionalField_eq, listed]
  split <;> simp [spelled]

theorem map_wire_fieldNames :
    fieldNames.map (fun n => (n.wire : Text)) = fieldNames.map fun n => (n.camelCase : Text) := by
  decide +kernel

/-- The failures of a problem as they are written with names replaced item by item. -/
def itemsUnder (inner : Nat → FieldName → Bool) : List Value :=
  p.failures.mapIdx fun i item => item.toValue (under (inner i))

theorem renamedItems_failures (inner : Nat → FieldName → Bool) :
    renamedItems inner (.list (p.failures.map (·.toValue wire))) = .list (p.itemsUnder inner) := by
  refine congrArg Value.list (List.ext_getElem (by simp [itemsUnder]) fun i _ _ => ?_)
  simp [itemsUnder, FailureItem.renamed_toValue]

theorem map_listed (inner : Nat → FieldName → Bool) :
    (p.listed (p.failures.map (·.toValue wire))).map (renamedItems inner) =
      p.listed (p.itemsUnder inner) := by
  unfold listed
  rw [← renamedItems_failures]
  split <;> rfl

/-- Replacing names in the payload is writing the problem under the other names. -/
theorem renamed_wireFields (chosen : FieldName → Bool) (inner : Nat → FieldName → Bool) :
    renamed chosen inner p.wireFields =
      spelled (under chosen) (p.entries (p.itemsUnder inner)) := by
  have hnames : ∀ n ∈ (p.entries (p.itemsUnder inner)).map (·.1), n ∈ fieldNames :=
    fun _ hn => hn
  rw [← rename_spelled pairwise_fieldNames hnames, renamed, wireFields_eq, map_spelled]
  congr 2
  simp +decide [entries, p.map_listed]

theorem itemsUnder_none :
    p.itemsUnder (fun _ _ => false) = p.failures.map (·.toValue wire) := by
  refine List.ext_getElem (by simp [itemsUnder]) fun i _ _ => ?_
  simp only [itemsUnder, List.getElem_mapIdx, List.getElem_map]
  rfl

theorem read_entry {name : FieldName → String} (hname : IsNaming name) {items : List Value}
    {α : Type} {n : FieldName} {v? : Option Value} {check : Value → Except Flaw α} {default a : α}
    (hmem : (n, v?) ∈ p.entries items) (hcheck : v?.elim (.ok default) check = .ok a) :
    n.read check default (spelled name (p.entries items)) = ⟨[], a⟩ := by
  have hapart : ((p.entries items).map (·.1)).Pairwise IsApart := pairwise_fieldNames
  exact read_spelled hname hapart hmem hcheck

/-- Failures are read back; where there are none, none are read. -/
theorem readFailures_spelled {name : FieldName → String} (hname : IsNaming name)
    (inner : Nat → FieldName → Bool) :
    readFailures (spelled name (p.entries (p.itemsUnder inner))) = ⟨[], p.failures⟩ := by
  have hapart : ((p.entries (p.itemsUnder inner)).map (·.1)).Pairwise IsApart :=
    pairwise_fieldNames
  have hmem : (failuresField, p.listed (p.itemsUnder inner)) ∈ p.entries (p.itemsUnder inner) := by
    simp [entries]
  have hfind := find?_spelled hname hapart hmem
  unfold readFailures
  rw [hfind, listed]
  cases hempty : p.failures.isEmpty with
  | true => exact congrArg _ (List.isEmpty_iff.mp hempty).symm
  | false =>
      have hread : FailureItem.readFrom 0 (p.itemsUnder inner) = ⟨[], p.failures⟩ :=
        FailureItem.readFrom_toValue inner p.failures 0
      simp [hread]

/-- A problem is read back, whichever of their names its fields are under. -/
theorem ofFields_spelled {name : FieldName → String} (hname : IsNaming name)
    (inner : Nat → FieldName → Bool) :
    ofFields (spelled name (p.entries (p.itemsUnder inner))) = .ok p := by
  have htext : ∀ (n : FieldName) (s : Option Text),
      (n, s.map Value.text) ∈ p.entries (p.itemsUnder inner) →
      n.read checkOptionalText none (spelled name (p.entries (p.itemsUnder inner))) = ⟨[], s⟩ := by
    intro n s hmem
    exact p.read_entry hname hmem (by cases s <;> rfl)
  have hstatus : statusField.read Value.checkWhole 500
      (spelled name (p.entries (p.itemsUnder inner))) = ⟨[], p.status⟩ := by
    have hmem : (statusField, some (.int p.status)) ∈ p.entries (p.itemsUnder inner) := by
      simp [entries]
    exact p.read_entry hname hmem rfl
  rw [ofFields, read, hstatus,
    htext titleField p.title (by simp [entries]),
    htext typeField p.typeUri (by simp [entries]),
    htext detailField p.detail (by simp [entries]),
    htext instanceField p.instancePath (by simp [entries]),
    p.readFailures_spelled hname inner,
    htext requestIdField p.requestId (by simp [entries])]
  rfl

theorem value_of_mem_entries {items : List Value} {n : FieldName} {v : Value}
    (hmem : (n, some v) ∈ p.entries items) :
    (∃ n, v = .int n) ∨ (∃ s, v = .text s) ∨ v = .list items := by
  have htext : ∀ {s : Option Text}, some v = s.map .text → ∃ s, v = .text s := by
    intro s hv
    obtain ⟨s, -, rfl⟩ := Option.map_eq_some_iff.mp hv.symm
    exact ⟨s, rfl⟩
  have hlisted : some v = p.listed items → v = .list items := by
    intro hv
    unfold listed at hv
    split at hv
    · cases hv
    · exact Option.some.inj hv
  simp only [entries, List.mem_cons, Prod.mk.injEq, List.not_mem_nil, or_false] at hmem
  rcases hmem with ⟨-, hv⟩ | ⟨-, hv⟩ | ⟨-, hv⟩ | ⟨-, hv⟩ | ⟨-, hv⟩ | ⟨-, hv⟩ | ⟨-, hv⟩
  · exact Or.inl ⟨_, Option.some.inj hv⟩
  · exact Or.inr (Or.inl (htext hv))
  · exact Or.inr (Or.inl (htext hv))
  · exact Or.inr (Or.inl (htext hv))
  · exact Or.inr (Or.inl (htext hv))
  · exact Or.inr (Or.inr (hlisted hv))
  · exact Or.inr (Or.inl (htext hv))

/-- Every part of the payload is the payload itself, a number, a text, the list of the items,
or an item. -/
theorem isPart_payload {w : Value} (h : Value.IsPart w p.payload) :
    w = p.payload ∨ (∃ n, w = .int n) ∨ (∃ s, w = .text s) ∨
      w = .list (p.failures.map (·.toValue wire)) ∨ ∃ item ∈ p.failures, w = item.toValue wire := by
  have hpayload : p.payload = .object
      (spelled wire (p.entries (p.failures.map (·.toValue wire)))) :=
    congrArg Value.object p.wireFields_eq
  rw [hpayload] at h ⊢
  refine (isPart_spelled h).imp_right ?_
  rintro ⟨n, v, hmem, hw⟩
  rcases p.value_of_mem_entries hmem with ⟨n, rfl⟩ | ⟨s, rfl⟩ | rfl
  · cases hw
    exact Or.inl ⟨n, rfl⟩
  · cases hw
    exact Or.inr (Or.inl ⟨s, rfl⟩)
  · rcases Value.isPart_list_iff.mp hw with rfl | ⟨u, hu, hw⟩
    · exact Or.inr (Or.inr (Or.inl rfl))
    · obtain ⟨item, hitem, rfl⟩ := List.mem_map.mp hu
      rcases FailureItem.isPart_toValue hw with rfl | htext
      · exact Or.inr (Or.inr (Or.inr ⟨item, hitem, rfl⟩))
      · exact Or.inr (Or.inl htext)

theorem failures_mem_keys_iff :
    (failuresField.wire : Text) ∈ p.wireFields.map (·.1) ↔ p.failures ≠ [] := by
  rw [wireFields_eq, mem_keys_spelled_iff]
  constructor
  · rintro ⟨n, v, hmem, hn⟩ hnone
    have hn : n = failuresField :=
      (by decide : ∀ n ∈ fieldNames, n.wire = failuresField.wire → n = failuresField) n
        (List.mem_map_of_mem (f := (·.1)) hmem) (Text.ofString_inj.mp hn)
    subst hn
    simp +decide [entries, listed, hnone] at hmem
  · intro hsome
    refine ⟨failuresField, .list (p.failures.map (·.toValue wire)), ?_, rfl⟩
    simp [entries, listed, hsome]

/-- What stands on the wire for a problem. -/
structure IsKeptBy (fields : List (Text × Value)) : Prop where
  /-- The problem is read from it. -/
  reads : ofFields fields = .ok p
  /-- It is also read when any names are replaced by plain names, the problem's own and those
  of each item. -/
  readsRenamed : ∀ chosen inner, ofFields (renamed chosen inner fields) = .ok p
  /-- Nothing in it, however deep, is null. -/
  noNull : ¬Value.IsPart .null (.object fields)
  /-- Its keys are declared names in camel case, in the order of the declaration. -/
  keys : (fields.map (·.1)).Sublist (fieldNames.map fun n => (n.camelCase : Text))
  /-- So are those of every object in it; each item has all of its fields. -/
  itemKeys : ∀ inner, Value.IsPart (.object inner) (.object fields) →
    inner = fields ∨
      inner.map (·.1) = FailureItem.fieldNames.map fun n => (n.camelCase : Text)
  /-- The failures are there exactly if there are any. -/
  failures : (failuresField.wire : Text) ∈ fields.map (·.1) ↔ p.failures ≠ []

/-- **Nothing of a problem is lost on the wire.** -/
theorem payload_loses_nothing : ∃ fields, p.payload = .object fields ∧ p.IsKeptBy fields := by
  have hrenamed : ∀ chosen inner, ofFields (renamed chosen inner p.wireFields) = .ok p := by
    intro chosen inner
    rw [renamed_wireFields]
    exact p.ofFields_spelled (isNaming_under chosen) inner
  refine ⟨p.wireFields, rfl, ?_, hrenamed, ?_, ?_, ?_, p.failures_mem_keys_iff⟩
  · rw [wireFields_eq, ← itemsUnder_none]
    exact p.ofFields_spelled isNaming_wire _
  · intro hnull
    rcases p.isPart_payload hnull with h | ⟨n, h⟩ | ⟨s, h⟩ | h | ⟨item, -, h⟩ <;> cases h
  · rw [wireFields_eq, ← map_wire_fieldNames]
    exact map_fst_spelled_sublist wire (p.entries (p.failures.map (·.toValue wire)))
  · intro inner hinner
    rcases p.isPart_payload hinner with h | ⟨n, h⟩ | ⟨s, h⟩ | h | ⟨item, -, h⟩
    · exact Or.inl (Value.object.inj h)
    · cases h
    · cases h
    · cases h
    · rw [Value.object.inj h]
      exact Or.inr FailureItem.map_wire_fieldNames

end Problem

end Triage
