import Mathlib.Logic.Relation
import Triage.Proofs.Negotiating
import Triage.Proofs.SmallLetters

/-!
# Normal forms of media types

A media type is read off what stands before the first semicolon, from the two sides of the
first slash there, each trimmed and in small letters (`ofChars?_of_slash`). What is read is
in normal form (`isNormal_of_ofChars?`), and written out again it is read back as it is
(`ofChars?_chars`). A text can be spelled in many ways that come to the same media type:
with blanks where they are trimmed, in another case of its letters, with other parameters
(`Respells`).
-/

namespace Triage

open Text

namespace MediaType

variable {a b v w : List Char} {m : MediaType}

/-! ## The two sides of the slash -/

theorem trim_append_slash (a b : List Char) :
    trim (a ++ '/' :: b) = trimStart a ++ '/' :: trimEnd b := by
  have hslash : ¬isBlank '/' = true := by decide
  have hstart : trimStart (a ++ '/' :: b) = trimStart a ++ '/' :: b := by
    unfold trimStart
    rw [List.dropWhile_append]
    split
    · rename_i hblank
      rw [List.isEmpty_iff.mp hblank, List.dropWhile_cons_of_neg hslash, List.nil_append]
    · rfl
  have hend : trimEnd (trimStart a ++ '/' :: b) = trimStart a ++ '/' :: trimEnd b := by
    unfold trimEnd
    rw [List.reverse_append, List.reverse_cons, List.append_assoc, List.singleton_append,
      List.dropWhile_append]
    split
    · rename_i hblank
      rw [List.isEmpty_iff.mp hblank, List.dropWhile_cons_of_neg hslash, List.reverse_cons,
        List.reverse_reverse, List.reverse_nil]
    · simp
  rw [trim, hstart, hend]

theorem trim_trimStart (cs : List Char) : trim (trimStart cs) = trim cs := by
  have hcs : cs = cs.takeWhile isBlank ++ trimStart cs :=
    (List.takeWhile_append_dropWhile ..).symm
  have hblanks : IsBlanks (cs.takeWhile isBlank) := fun c hc => List.mem_takeWhile_imp hc
  rw [congrArg trim hcs, trim_blanks_append hblanks]

theorem trim_trimEnd (cs : List Char) : trim (trimEnd cs) = trim cs := by
  have hcs : cs = trimEnd cs ++ (cs.reverse.takeWhile isBlank).reverse := by
    unfold trimEnd
    rw [← List.reverse_append, List.takeWhile_append_dropWhile, List.reverse_reverse]
  have hblanks : IsBlanks (cs.reverse.takeWhile isBlank).reverse := fun c hc =>
    List.mem_takeWhile_imp (List.mem_reverse.mp hc)
  rw [congrArg trim hcs, trim_append_blanks _ hblanks]

theorem isSeparator_slash : IsSeparator '/' := by
  unfold IsSeparator
  decide

theorem isSeparator_semicolon : IsSeparator ';' := by
  unfold IsSeparator
  decide

theorem slash_mem_essence_iff : '/' ∈ essence v ↔ '/' ∈ v.takeWhile (· != ';') := by
  unfold essence
  rw [← trim_lower, mem_trim_iff (by decide)]
  constructor
  · intro hmem
    exact mem_of_mem_lowerAfter hmem isSeparator_slash
  · intro hmem
    obtain ⟨a, b, hcut⟩ := List.append_of_mem hmem
    rw [hcut, lower_append_separator isSeparator_slash]
    exact List.mem_append_right _ (List.mem_cons_self ..)

theorem ofChars?_of_no_slash (h : '/' ∉ v.takeWhile (· != ';')) : ofChars? v = none := by
  rw [← slash_mem_essence_iff] at h
  rw [Option.eq_none_iff_forall_ne_some]
  intro m hm
  obtain ⟨type, subtype, hessence, -⟩ := ofChars?_eq_some_iff.mp hm
  rw [hessence] at h
  exact h (List.mem_append_right _ (List.mem_cons_self ..))

/-- Each side of the slash is trimmed and lower-cased on its own. -/
theorem essence_of_slash (hcut : v.takeWhile (· != ';') = a ++ '/' :: b) :
    essence v = trimStart (lower a) ++ '/' :: trimEnd (lower b) := by
  rw [essence, hcut, ← trim_lower, lower_append_separator isSeparator_slash, trim_append_slash]

theorem ofChars?_of_slash (hcut : v.takeWhile (· != ';') = a ++ '/' :: b) (ha : '/' ∉ a) :
    ofChars? v =
      if IsBlanks a ∨ IsBlanks b then none else some ⟨lower (trim a), lower (trim b)⟩ := by
  have hstart : '/' ∉ trimStart (lower a) := fun hmem =>
    ha (mem_of_mem_lowerAfter ((List.dropWhile_suffix _).subset hmem) isSeparator_slash)
  have htype : trim (trimStart (lower a)) = lower (trim a) := by rw [trim_trimStart, trim_lower]
  have hsubtype : trim (trimEnd (lower b)) = lower (trim b) := by rw [trim_trimEnd, trim_lower]
  unfold ofChars?
  rw [cutOnce?_eq_some_iff.mpr ⟨essence_of_slash hcut, hstart⟩]
  simp only [htype, hsubtype, Bool.or_eq_true, List.isEmpty_iff, lower_eq_nil_iff, trim_eq_nil_iff]

/-- Before the first semicolon there is no slash, or a first one. -/
theorem no_slash_or_slash (v : List Char) :
    '/' ∉ v.takeWhile (· != ';')
      ∨ ∃ a b, v.takeWhile (· != ';') = a ++ '/' :: b ∧ '/' ∉ a := by
  by_cases hslash : '/' ∈ v.takeWhile (· != ';')
  · exact Or.inr (List.eq_append_cons_of_mem hslash)
  · exact Or.inl hslash

theorem ofChars?_eq_none_iff :
    ofChars? v = none ↔
      '/' ∉ v.takeWhile (· != ';')
        ∨ ∃ a b, v.takeWhile (· != ';') = a ++ '/' :: b ∧ '/' ∉ a
            ∧ (IsBlanks a ∨ IsBlanks b) := by
  constructor
  · intro hnone
    rcases no_slash_or_slash v with hslash | ⟨a, b, hcut, ha⟩
    · exact Or.inl hslash
    · rw [ofChars?_of_slash hcut ha, ite_eq_left_iff] at hnone
      exact Or.inr ⟨a, b, hcut, ha, by_contra fun hfull => nomatch hnone hfull⟩
  · rintro (hslash | ⟨a, b, hcut, ha, hblank⟩)
    · exact ofChars?_of_no_slash hslash
    · rw [ofChars?_of_slash hcut ha, if_pos hblank]

theorem exists_of_ofChars?_eq_some (hm : ofChars? v = some m) :
    ∃ a b, v.takeWhile (· != ';') = a ++ '/' :: b ∧ '/' ∉ a ∧ ¬IsBlanks a ∧ ¬IsBlanks b
      ∧ m = ⟨lower (trim a), lower (trim b)⟩ := by
  rcases no_slash_or_slash v with hslash | ⟨a, b, hcut, ha⟩
  · rw [ofChars?_of_no_slash hslash] at hm
    cases hm
  · rw [ofChars?_of_slash hcut ha, Option.ite_none_left_eq_some, not_or] at hm
    obtain ⟨⟨hblank, hblank'⟩, hm⟩ := hm
    exact ⟨a, b, hcut, ha, hblank, hblank', (Option.some.inj hm).symm⟩

/-! ## Normal form -/

/-- A media type as it is read: both sides of the slash have something to say, are trimmed
and in small letters, and hold nothing that would be read otherwise. -/
structure IsNormal (m : MediaType) : Prop where
  type_ne_nil : m.type ≠ []
  subtype_ne_nil : m.subtype ≠ []
  trim_type : trim m.type = m.type
  trim_subtype : trim m.subtype = m.subtype
  lower_type : lower m.type = m.type
  lower_subtype : lower m.subtype = m.subtype
  semicolon_notMem_type : ';' ∉ m.type
  semicolon_notMem_subtype : ';' ∉ m.subtype
  slash_notMem_type : '/' ∉ m.type

/-- The media type written out. -/
def chars (m : MediaType) : List Char := m.type ++ '/' :: m.subtype

theorem trim_trim (cs : List Char) : trim (trim cs) = trim cs := by
  rw [congrArg trim (trim.eq_1 cs), trim_trimEnd, trim_trimStart]

theorem mem_of_mem_lower_trim {c : Char} {cs : List Char} (hsep : IsSeparator c)
    (hc : isBlank c = false) (hmem : c ∈ lower (trim cs)) : c ∈ cs :=
  (mem_trim_iff hc).mp (mem_of_mem_lowerAfter hmem hsep)

theorem isNormal_of_ofChars? (hm : ofChars? v = some m) : m.IsNormal := by
  obtain ⟨a, b, hcut, ha, hblank, hblank', rfl⟩ := exists_of_ofChars?_eq_some hm
  have hne : ∀ {x : List Char}, ¬IsBlanks x → lower (trim x) ≠ [] := fun hx hnil =>
    hx (trim_eq_nil_iff.mp (lower_eq_nil_iff.mp hnil))
  have htrim : ∀ x, trim (lower (trim x)) = lower (trim x) := fun x => by
    rw [trim_lower, trim_trim]
  have hsemicolon : ';' ∉ a ++ '/' :: b := by
    rw [← hcut]
    intro hmem
    exact absurd (List.mem_takeWhile_imp hmem) (by decide)
  exact {
    type_ne_nil := hne hblank
    subtype_ne_nil := hne hblank'
    trim_type := htrim a
    trim_subtype := htrim b
    lower_type := lower_lower _
    lower_subtype := lower_lower _
    semicolon_notMem_type := fun hmem => hsemicolon (List.mem_append_left _
      (mem_of_mem_lower_trim isSeparator_semicolon (by decide) hmem))
    semicolon_notMem_subtype := fun hmem => hsemicolon (List.mem_append_right _
      (List.mem_cons_of_mem _ (mem_of_mem_lower_trim isSeparator_semicolon (by decide) hmem)))
    slash_notMem_type := fun hmem => ha (mem_of_mem_lower_trim isSeparator_slash (by decide) hmem) }

/-- A normal form is read back as it is. -/
theorem IsNormal.ofChars?_chars (hm : m.IsNormal) : ofChars? m.chars = some m := by
  have hsemicolon : ∀ c ∈ m.chars, (c != ';') = true := by
    refine ne_of_notMem ?_
    rw [chars, List.mem_append, List.mem_cons]
    rintro (hmem | hslash | hmem)
    · exact hm.semicolon_notMem_type hmem
    · cases hslash
    · exact hm.semicolon_notMem_subtype hmem
  have hblank : ∀ {cs : List Char}, cs ≠ [] → trim cs = cs → ¬IsBlanks cs := by
    intro cs hne htrim hblanks
    rw [trim_eq_nil_iff.mpr hblanks] at htrim
    exact hne htrim.symm
  have hstated : ¬(IsBlanks m.type ∨ IsBlanks m.subtype) := not_or.mpr
    ⟨hblank hm.type_ne_nil hm.trim_type, hblank hm.subtype_ne_nil hm.trim_subtype⟩
  have hcut : m.chars.takeWhile (· != ';') = m.type ++ '/' :: m.subtype :=
    List.takeWhile_eq_self_iff.mpr hsemicolon
  rw [ofChars?_of_slash hcut hm.slash_notMem_type, if_neg hstated, hm.trim_type, hm.trim_subtype,
    hm.lower_type, hm.lower_subtype]

/-! ## Other spellings -/

/-- The second text spells the media type of the first in another way. -/
inductive Respells : List Char → List Char → Prop
  | blanksAround {before after : List Char} (v : List Char) :
      IsBlanks before → IsBlanks after → Respells v (before ++ v ++ after)
  | blanksAtSlash {before after a : List Char} (b : List Char) :
      '/' ∉ a → IsBlanks before → IsBlanks after →
        Respells (a ++ '/' :: b) (a ++ before ++ '/' :: (after ++ b))
  | blanksBeforeParameters {blanks a : List Char} (b : List Char) :
      ';' ∉ a → IsBlanks blanks → Respells (a ++ ';' :: b) (a ++ blanks ++ ';' :: b)
  | letterCase {v w : List Char} : v.map Char.toLower = w.map Char.toLower → Respells v w
  | otherParameters {a : List Char} (b c : List Char) :
      ';' ∉ a → Respells (a ++ ';' :: b) (a ++ ';' :: c)

theorem ofChars?_congr (h : essence v = essence w) : ofChars? v = ofChars? w := by
  unfold ofChars?
  rw [h]

theorem takeWhile_append_semicolon (ha : ';' ∉ a) (b : List Char) :
    (a ++ ';' :: b).takeWhile (· != ';') = a := by
  rw [List.takeWhile_append_of_pos (ne_of_notMem ha)]
  simp

theorem notMem_of_isBlanks {c : Char} (hc : isBlank c = false) (ha : IsBlanks a) : c ∉ a := by
  intro hmem
  rw [ha c hmem] at hc
  cases hc

theorem essence_map_toLower (v : List Char) : essence (v.map Char.toLower) = essence v := by
  have hsemicolon : (· != ';') ∘ Char.toLower = (· != ';') := by
    funext c
    have hiff : c.toLower = ';' ↔ c = ';' := by
      rw [← Char.toNat_inj, ← Char.toNat_inj, toNat_toLower]
      have hplace : ';'.toNat = 0x3b := rfl
      split <;> omega
    rw [Function.comp_apply, Bool.eq_iff_iff, bne_iff_ne, bne_iff_ne, Ne, Ne, hiff]
  unfold essence
  rw [List.takeWhile_map, hsemicolon, trim_map_toLower, lower_map_toLower]

/-- Blanks around the first slash go with the sides that they are trimmed off. -/
theorem ofChars?_blanks_at_slash {before after : List Char} (ha : '/' ∉ a)
    (hbefore : IsBlanks before) (hafter : IsBlanks after) (b : List Char) :
    ofChars? (a ++ before ++ '/' :: (after ++ b)) = ofChars? (a ++ '/' :: b) := by
  by_cases hsemicolon : ';' ∈ a
  · -- the slash is among the parameters
    obtain ⟨a, c, rfl, ha'⟩ := List.eq_append_cons_of_mem hsemicolon
    refine ofChars?_congr ?_
    unfold essence
    simp only [List.append_assoc, List.cons_append, takeWhile_append_semicolon ha']
  · have hslash : '/' ∉ a ++ before := fun hmem =>
      (List.mem_append.mp hmem).elim ha (notMem_of_isBlanks (by decide) hbefore)
    have hfront : ';' ∉ a ++ before := fun hmem =>
      (List.mem_append.mp hmem).elim hsemicolon (notMem_of_isBlanks (by decide) hbefore)
    have hcut : (a ++ '/' :: b).takeWhile (· != ';') = a ++ '/' :: b.takeWhile (· != ';') := by
      rw [List.takeWhile_append_of_pos (ne_of_notMem hsemicolon)]
      rfl
    have hcut' : (a ++ before ++ '/' :: (after ++ b)).takeWhile (· != ';') =
        a ++ before ++ '/' :: (after ++ b.takeWhile (· != ';')) := by
      have hback : (after ++ b).takeWhile (· != ';') = after ++ b.takeWhile (· != ';') :=
        List.takeWhile_append_of_pos (ne_of_notMem (notMem_of_isBlanks (by decide) hafter))
      rw [List.takeWhile_append_of_pos (ne_of_notMem hfront), ← hback]
      rfl
    have hstated : (IsBlanks (a ++ before) ∨ IsBlanks (after ++ b.takeWhile (· != ';'))) ↔
        (IsBlanks a ∨ IsBlanks (b.takeWhile (· != ';'))) := by
      simp only [← trim_eq_nil_iff, trim_append_blanks _ hbefore, trim_blanks_append hafter]
    rw [ofChars?_of_slash hcut' hslash, ofChars?_of_slash hcut ha, if_congr hstated rfl rfl,
      trim_append_blanks _ hbefore, trim_blanks_append hafter]

theorem ofChars?_eq_of_respells (h : Respells v w) : ofChars? w = ofChars? v := by
  cases h with
  | blanksAround _ hbefore hafter =>
      refine ofChars?_congr ?_
      rw [← essence_trim, trim_append_blanks _ hafter, trim_blanks_append hbefore, essence_trim]
  | blanksAtSlash b ha hbefore hafter => exact ofChars?_blanks_at_slash ha hbefore hafter b
  | @blanksBeforeParameters blanks a b ha hblanks =>
      have hfront : ';' ∉ a ++ blanks := fun hmem =>
        (List.mem_append.mp hmem).elim ha (notMem_of_isBlanks (by decide) hblanks)
      refine ofChars?_congr ?_
      rw [essence, essence, takeWhile_append_semicolon hfront, takeWhile_append_semicolon ha,
        trim_append_blanks _ hblanks]
  | letterCase hsame =>
      refine ofChars?_congr ?_
      rw [← essence_map_toLower, ← hsame, essence_map_toLower]
  | otherParameters b c ha =>
      refine ofChars?_congr ?_
      rw [essence, essence, takeWhile_append_semicolon ha, takeWhile_append_semicolon ha]

/-- A chain of respellings, forth and back, comes to the same media type. -/
theorem ofChars?_eq_of_eqvGen (h : Relation.EqvGen Respells v w) : ofChars? w = ofChars? v := by
  induction h with
  | rel _ _ hstep => exact ofChars?_eq_of_respells hstep
  | refl => rfl
  | symm _ _ _ ih => exact ih.symm
  | trans _ _ _ _ _ ih ih' => exact ih'.trans ih

/-- **Media types are read in normal form.** What is read is normal, and is read back from its
own text. Nothing is read just if there is no slash before the first semicolon or nothing
but blanks on one side of it. And it is all one how a text is spelled. -/
theorem media_types_are_read_in_normal_form (v : String) :
    (∀ m, ofString? v = some m → m.IsNormal ∧ ofString? (String.ofList m.chars) = some m)
    ∧ (ofString? v = none ↔
        '/' ∉ v.toList.takeWhile (· != ';')
          ∨ ∃ a b, v.toList.takeWhile (· != ';') = a ++ '/' :: b ∧ '/' ∉ a
              ∧ (IsBlanks a ∨ IsBlanks b))
    ∧ ∀ w : String, Relation.EqvGen Respells v.toList w.toList → ofString? w = ofString? v := by
  refine ⟨fun m hm => ?_, ofChars?_eq_none_iff, fun w hw => ofChars?_eq_of_eqvGen hw⟩
  have hnormal := isNormal_of_ofChars? hm
  refine ⟨hnormal, ?_⟩
  rw [ofString?, String.toList_ofList]
  exact hnormal.ofChars?_chars

/-- A preference in capitals and with blanks, and one whose only slash is in a parameter. -/
theorem json_is_read_in_capitals :
    ofString? " Application / JSON" = some json ∧ json.IsNormal
      ∧ ofString? (String.ofList json.chars) = some json
      ∧ ofString? "application; charset=utf/8" = none := by
  obtain ⟨hread, -, hspelled⟩ := media_types_are_read_in_normal_form "application/json"
  obtain ⟨-, hnone, -⟩ := media_types_are_read_in_normal_form "application; charset=utf/8"
  have hjson : ofString? "application/json" = some json := by decide
  have hcapitals : Respells "application/json".toList "Application/JSON".toList :=
    .letterCase (by decide)
  have hblank : IsBlanks [' '] := by decide
  have hslash : Respells "Application/JSON".toList "Application / JSON".toList :=
    .blanksAtSlash "JSON".toList (by decide : '/' ∉ "Application".toList) hblank hblank
  have haround : Respells "Application / JSON".toList " Application / JSON".toList :=
    .blanksAround "Application / JSON".toList hblank (List.forall_mem_nil _)
  obtain ⟨hnormal, hback⟩ := hread json hjson
  refine ⟨?_, hnormal, hback, hnone.mpr (Or.inl (by decide))⟩
  rw [hspelled _ (.trans _ _ _ (.rel _ _ hcapitals) (.trans _ _ _ (.rel _ _ hslash)
    (.rel _ _ haround))), hjson]

end MediaType

end Triage
