import Mathlib.Data.List.Nodup
import Triage.Value

/-!
# Fields of objects

An object is known by what is found under each name. Where no name is there twice, what is
found is what is there (`lookup?_eq_some_iff`), and that stays so when fields are put in
(`nodup_insertAll`): what was put in goes over what was there (`lookup?_insertAll`).
-/

namespace Triage.Value

variable {fields extras : List (Text × Value)} {name : Text} {v : Value}

theorem lookup?_eq_none_iff : lookup? name fields = none ↔ name ∉ fields.map (·.1) := by
  induction fields with
  | nil => simp [lookup?]
  | cons f fields ih =>
      obtain ⟨k, w⟩ := f
      by_cases hk : k = name
      · simp [lookup?, hk]
      · simp [lookup?, hk, ih, Ne.symm hk]

theorem mem_of_lookup? (h : lookup? name fields = some v) : (name, v) ∈ fields := by
  induction fields with
  | nil => cases h
  | cons f fields ih =>
      obtain ⟨k, w⟩ := f
      by_cases hk : k = name
      · subst hk
        obtain rfl : w = v := by simpa [lookup?] using h
        exact List.mem_cons_self ..
      · exact List.mem_cons_of_mem _ (ih (by simpa [lookup?, hk] using h))

theorem lookup?_eq_some_iff (hdistinct : (fields.map (·.1)).Nodup) :
    lookup? name fields = some v ↔ (name, v) ∈ fields := by
  refine ⟨mem_of_lookup?, fun hmem => ?_⟩
  cases hfound : lookup? name fields with
  | none =>
      exact absurd (List.mem_map_of_mem hmem) (lookup?_eq_none_iff.mp hfound)
  | some w =>
      have hsame := List.inj_on_of_nodup_map hdistinct (mem_of_lookup? hfound) hmem rfl
      rw [(Prod.mk.inj hsame).2]

theorem lookup?_append (name : Text) (fields others : List (Text × Value)) :
    lookup? name (fields ++ others) = (lookup? name fields).or (lookup? name others) := by
  induction fields with
  | nil => rfl
  | cons field rest ih =>
      rw [List.cons_append, lookup?, lookup?]
      split
      · rfl
      · exact ih

/-! ## Fields that are put in -/

/-- What is put in under a name is found there, and nothing else changes. -/
theorem lookup?_insert (fields : List (Text × Value)) (k : Text) (v : Value) (name : Text) :
    lookup? name (insert fields k v) = if k = name then some v else lookup? name fields := by
  induction fields with
  | nil => rfl
  | cons f fields ih =>
      obtain ⟨k', w⟩ := f
      by_cases hk' : k' = k
      · subst hk'
        by_cases hname : k' = name <;> simp [insert, lookup?, hname]
      · by_cases hname : k' = name
        · subst hname
          simp [insert, lookup?, hk', Ne.symm hk']
        · simp [insert, lookup?, hk', hname, ih]

theorem insert_of_notMem (h : name ∉ fields.map (·.1)) (v : Value) :
    insert fields name v = fields ++ [(name, v)] := by
  induction fields with
  | nil => rfl
  | cons f fields ih =>
      obtain ⟨k, w⟩ := f
      rw [List.map_cons, List.mem_cons, not_or] at h
      rw [insert, if_neg (Ne.symm h.1), ih h.2, List.cons_append]

theorem map_fst_insert_of_mem (h : name ∈ fields.map (·.1)) (v : Value) :
    (insert fields name v).map (·.1) = fields.map (·.1) := by
  induction fields with
  | nil => cases h
  | cons f fields ih =>
      obtain ⟨k, w⟩ := f
      by_cases hk : k = name
      · simp [insert, hk]
      · have hrest : name ∈ fields.map (·.1) := (List.mem_cons.mp h).resolve_left (Ne.symm hk)
        simp [insert, hk, ih hrest]

theorem nodup_insert (hdistinct : (fields.map (·.1)).Nodup) (name : Text) (v : Value) :
    ((insert fields name v).map (·.1)).Nodup := by
  by_cases hmem : name ∈ fields.map (·.1)
  · rwa [map_fst_insert_of_mem hmem]
  · rw [insert_of_notMem hmem, List.map_append]
    refine List.nodup_append.mpr ⟨hdistinct, List.nodup_singleton name, ?_⟩
    intro k hk k' hk' heq
    obtain rfl := List.mem_singleton.mp hk'
    exact hmem (heq ▸ hk)

/-- Puts in several fields, one after the other. -/
def insertAll (fields extras : List (Text × Value)) : List (Text × Value) :=
  extras.foldl (fun fs f => insert fs f.1 f.2) fields

theorem insertAll_cons (fields : List (Text × Value)) (f : Text × Value)
    (extras : List (Text × Value)) :
    insertAll fields (f :: extras) = insertAll (insert fields f.1 f.2) extras := rfl

theorem nodup_insertAll (hdistinct : (fields.map (·.1)).Nodup)
    (extras : List (Text × Value)) : ((insertAll fields extras).map (·.1)).Nodup := by
  induction extras generalizing fields with
  | nil => exact hdistinct
  | cons f extras ih => exact ih (nodup_insert hdistinct f.1 f.2)

theorem mem_insert_cases {f : Text × Value} (h : f ∈ insert fields name v) :
    f ∈ fields ∨ f = (name, v) := by
  induction fields with
  | nil => exact Or.inr (List.mem_singleton.mp h)
  | cons g fields ih =>
      obtain ⟨k, w⟩ := g
      by_cases hk : k = name
      · subst hk
        rw [insert, if_pos rfl] at h
        exact (List.mem_cons.mp h).symm.imp_left (List.mem_cons_of_mem _)
      · rw [insert, if_neg hk] at h
        rcases List.mem_cons.mp h with rfl | hrest
        · exact Or.inl (List.mem_cons_self ..)
        · exact (ih hrest).imp_left (List.mem_cons_of_mem _)

/-- A field was there or was put in. -/
theorem mem_insertAll_cases {f : Text × Value} (h : f ∈ insertAll fields extras) :
    f ∈ fields ∨ f ∈ extras := by
  induction extras generalizing fields with
  | nil => exact Or.inl h
  | cons g extras ih =>
      rcases ih h with hmem | hmem
      · rcases mem_insert_cases hmem with hmem | rfl
        · exact Or.inl hmem
        · exact Or.inr (List.mem_cons_self ..)
      · exact Or.inr (List.mem_cons_of_mem _ hmem)

/-- What was put in goes over what was there. -/
theorem lookup?_insertAll (hdistinct : (extras.map (·.1)).Nodup)
    (fields : List (Text × Value)) (name : Text) :
    lookup? name (insertAll fields extras) =
      (lookup? name extras).or (lookup? name fields) := by
  induction extras generalizing fields with
  | nil => rfl
  | cons f extras ih =>
      obtain ⟨k, v⟩ := f
      obtain ⟨hnew, hdistinct⟩ := List.nodup_cons.mp hdistinct
      rw [insertAll_cons, ih hdistinct, lookup?_insert, lookup?]
      by_cases hk : k = name
      · subst hk
        rw [if_pos rfl, if_pos rfl, lookup?_eq_none_iff.mpr hnew]
        rfl
      · rw [if_neg hk, if_neg hk]

/-- Fields of new and distinct names go to the end. -/
theorem insertAll_of_nodup (hdistinct : ((fields ++ extras).map (·.1)).Nodup) :
    insertAll fields extras = fields ++ extras := by
  induction extras generalizing fields with
  | nil => exact (List.append_nil fields).symm
  | cons f extras ih =>
      have hnew : f.1 ∉ fields.map (·.1) := by
        rw [List.map_append, List.map_cons] at hdistinct
        exact fun hmem =>
          (List.nodup_append.mp hdistinct).2.2 f.1 hmem f.1 (List.mem_cons_self ..) rfl
      rw [List.append_cons] at hdistinct
      rw [insertAll_cons, insert_of_notMem hnew, ih hdistinct, List.append_assoc]
      rfl

theorem insertAll_nil (hdistinct : (extras.map (·.1)).Nodup) : insertAll [] extras = extras :=
  insertAll_of_nodup hdistinct

theorem length_insert_of_mem (hmem : name ∈ fields.map (·.1)) (v : Value) :
    (insert fields name v).length = fields.length := by
  have hnames := congrArg List.length (map_fst_insert_of_mem hmem v)
  rwa [List.length_map, List.length_map] at hnames

theorem length_insertAll_le (fields extras : List (Text × Value)) :
    (insertAll fields extras).length ≤ fields.length + extras.length := by
  induction extras generalizing fields with
  | nil => exact Nat.le_refl _
  | cons f extras ih =>
      have hrest := ih (insert fields f.1 f.2)
      rw [insertAll_cons, List.length_cons]
      by_cases hmem : f.1 ∈ fields.map (·.1)
      · rw [length_insert_of_mem hmem] at hrest
        omega
      · rw [insert_of_notMem hmem, List.length_append, List.length_singleton] at hrest
        rw [insert_of_notMem hmem]
        omega

/-- Where every field takes a place of its own, no name is there twice. -/
theorem nodup_of_length_insertAll (hdistinct : (fields.map (·.1)).Nodup)
    (hlength : (insertAll fields extras).length = fields.length + extras.length) :
    ((fields ++ extras).map (·.1)).Nodup := by
  induction extras generalizing fields with
  | nil => rwa [List.append_nil]
  | cons f extras ih =>
      rw [insertAll_cons, List.length_cons] at hlength
      have hle := length_insertAll_le (insert fields f.1 f.2) extras
      by_cases hmem : f.1 ∈ fields.map (·.1)
      · rw [length_insert_of_mem hmem] at hle
        omega
      · have hinserted := nodup_insert hdistinct f.1 f.2
        rw [insert_of_notMem hmem] at hlength hinserted
        have hall := ih hinserted
          (by rw [hlength, List.length_append, List.length_singleton]; omega)
        rwa [List.append_assoc] at hall

theorem insertAll_nil_eq_iff {others : List (Text × Value)}
    (hlength : extras.length = others.length) :
    insertAll [] extras = others ↔ (extras.map (·.1)).Nodup ∧ extras = others := by
  constructor
  · intro h
    have hempty : (([] : List (Text × Value)).map (·.1)).Nodup := List.nodup_nil
    have hplaces : (insertAll [] extras).length = 0 + extras.length := by
      rw [h, hlength, Nat.zero_add]
    have hnodup : (extras.map (·.1)).Nodup := nodup_of_length_insertAll hempty hplaces
    exact ⟨hnodup, (insertAll_nil hnodup).symm.trans h⟩
  · rintro ⟨hnodup, rfl⟩
    exact insertAll_nil hnodup

end Triage.Value
