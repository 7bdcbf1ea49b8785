import Mathlib.Order.Defs.PartialOrder
import Triage.Accept
import Triage.Proofs.Pieces

/-!
# Media ranges, and what accepts them

A media range is part of another if everything it admits is. Of subtypes, `*` admits all
and `*+suffix` those that end in `+suffix`, itself among them (`Admits`); since no suffix
holds a `*`, two ranges that admit each other are the same, and media ranges are partially
ordered. A preference can only gain by being widened (`takesProblem_mono`), and of a list
of preferences one is enough (`canWriteProblem_iff`), so a caller who widens preferences,
shuffles them or states more of them still gets problems
(`wider_preferences_stay_writable`).
-/

namespace Triage

open Text

/-! ## The order of media ranges -/

namespace MediaType

/-- A subtype, or range of them, admits another. -/
def Admits (wide narrow : List Char) : Prop :=
  wide = ['*'] ∨ wide = narrow
    ∨ ∃ suffix, wide = '*' :: '+' :: suffix ∧ '+' :: suffix <:+ narrow

theorem isSubsetOf_iff {m range : MediaType} :
    m.isSubsetOf range = true ↔
      (range.type = ['*'] ∨ range.type = m.type) ∧ Admits range.subtype m.subtype := by
  unfold isSubsetOf Admits
  rw [Bool.and_eq_true, Bool.or_eq_true, Bool.or_eq_true, Bool.or_eq_true, beq_iff_eq,
    beq_iff_eq, beq_iff_eq, beq_iff_eq, or_assoc]
  refine and_congr_right fun _ => or_congr_right (or_congr_right ?_)
  split
  · rename_i suffix hrange
    simp [hrange]
  · rename_i hrange
    simpa using fun suffix heq => (hrange suffix heq).elim

/-- What begins with a plus sign ends a text with a star in front just if it ends the text. -/
theorem suffix_star_cons_iff {suffix cs : List Char} :
    '+' :: suffix <:+ '*' :: cs ↔ '+' :: suffix <:+ cs := by
  simp [List.suffix_cons_iff]

theorem Admits.trans {wide middle narrow : List Char} (hwide : Admits wide middle)
    (hmiddle : Admits middle narrow) : Admits wide narrow := by
  rcases hwide with rfl | rfl | ⟨suffix, rfl, hsuffix⟩
  · exact Or.inl rfl
  · exact hmiddle
  · refine Or.inr (Or.inr ⟨suffix, rfl, ?_⟩)
    rcases hmiddle with rfl | rfl | ⟨longer, rfl, hlonger⟩
    · -- a full range in the middle does not end in a suffix
      simp [suffix_star_cons_iff] at hsuffix
    · exact hsuffix
    · exact (suffix_star_cons_iff.mp hsuffix).trans hlonger

theorem Admits.antisymm {one other : List Char} (hone : Admits one other)
    (hother : Admits other one) : one = other := by
  rcases hone with rfl | rfl | ⟨suffix, rfl, hsuffix⟩
  · rcases hother with rfl | rfl | ⟨suffix, -, hsuffix⟩
    · rfl
    · rfl
    · simp [suffix_star_cons_iff] at hsuffix
  · rfl
  · rcases hother with rfl | rfl | ⟨suffix', rfl, hsuffix'⟩
    · simp [suffix_star_cons_iff] at hsuffix
    · rfl
    · -- each suffix ends in the other one
      have hback := suffix_star_cons_iff.mp hsuffix'
      rw [hback.eq_of_length_le (suffix_star_cons_iff.mp hsuffix).length_le]

instance : LE MediaType := ⟨fun m range => m.isSubsetOf range = true⟩

theorem le_iff {m range : MediaType} :
    m ≤ range ↔
      (range.type = ['*'] ∨ range.type = m.type) ∧ Admits range.subtype m.subtype :=
  isSubsetOf_iff

instance : PartialOrder MediaType where
  le_refl _ := le_iff.mpr ⟨Or.inr rfl, Or.inr (Or.inl rfl)⟩
  le_trans narrow middle wide hnarrow hwide := by
    obtain ⟨htype, hsubtype⟩ := le_iff.mp hnarrow
    obtain ⟨htype', hsubtype'⟩ := le_iff.mp hwide
    refine le_iff.mpr ⟨?_, hsubtype'.trans hsubtype⟩
    rcases htype' with hstar | heq
    · exact Or.inl hstar
    · exact heq ▸ htype
  le_antisymm one other hone hother := by
    obtain ⟨htype, hsubtype⟩ := le_iff.mp hone
    obtain ⟨htype', hsubtype'⟩ := le_iff.mp hother
    have htypes : one.type = other.type := by
      rcases htype with hstar | heq
      · rcases htype' with hstar' | heq'
        · rw [hstar, hstar']
        · exact heq'
      · exact heq.symm
    cases one
    cases other
    exact (MediaType.mk.injEq ..).mpr ⟨htypes, hsubtype'.antisymm hsubtype⟩

end MediaType

/-! ## Preferences -/

/-- A blank preference is no media range. -/
theorem MediaType.ofString?_of_isBlankText {s : String} (h : isBlankText s = true) :
    ofString? s = none := by
  have hblanks : IsBlanks (s.toList.takeWhile (· != ';')) := fun c hc =>
    List.all_eq_true.mp h c ((List.takeWhile_prefix _).subset hc)
  unfold ofString? ofChars? essence
  rw [trim_eq_nil_iff.mpr hblanks]
  rfl

theorem takesProblem_iff {preference : String} :
    takesProblem preference = true ↔
      ∃ range, MediaType.ofString? preference = some range
        ∧ ∃ m ∈ MediaType.writable, m ≤ range := by
  unfold takesProblem
  cases MediaType.ofString? preference with
  | none => simp
  | some range =>
      simp only [List.any_eq_true, Option.some.injEq, exists_eq_left']
      exact Iff.rfl

theorem takesProblem_mono {preference other : String} {narrow wide : MediaType}
    (hpreference : MediaType.ofString? preference = some narrow)
    (hother : MediaType.ofString? other = some wide) (hle : narrow ≤ wide)
    (htakes : takesProblem preference = true) : takesProblem other = true := by
  obtain ⟨range, hrange, m, hm, hmle⟩ := takesProblem_iff.mp htakes
  obtain rfl : narrow = range := Option.some.inj (hpreference.symm.trans hrange)
  exact takesProblem_iff.mpr ⟨wide, hother, m, hm, hmle.trans hle⟩

/-- One preference is enough, and none at all is as good. -/
theorem canWriteProblem_iff {preferences : List String} :
    canWriteProblem preferences = true ↔
      (∀ p ∈ preferences, isBlankText p = true) ∨ ∃ p ∈ preferences, takesProblem p = true := by
  have hstated : ∀ p, takesProblem p = true → isBlankText p = false := fun p hp => by
    by_contra hblank
    obtain ⟨range, hrange, -⟩ := takesProblem_iff.mp hp
    rw [MediaType.ofString?_of_isBlankText (by simpa using hblank)] at hrange
    cases hrange
  unfold canWriteProblem
  simp only [Bool.or_eq_true, List.isEmpty_iff, List.filter_eq_nil_iff, List.any_eq_true,
    List.mem_filter, Bool.not_eq_true', Bool.not_eq_false]
  refine or_congr_right (exists_congr fun p => and_congr_left fun hp => ?_)
  exact and_iff_left (hstated p hp)

/-- Preferences that are at least as wide, if there is one to begin with. -/
theorem canWriteProblem_of_wider {preferences others : List String}
    (hstated : ∃ p ∈ preferences, isBlankText p = false)
    (hwider : ∀ p ∈ preferences, takesProblem p = true → ∃ q ∈ others, takesProblem q = true)
    (hwrite : canWriteProblem preferences = true) : canWriteProblem others = true := by
  rcases canWriteProblem_iff.mp hwrite with hblank | ⟨p, hp, htakes⟩
  · obtain ⟨p, hp, hsome⟩ := hstated
    rw [hblank p hp] at hsome
    cases hsome
  · exact canWriteProblem_iff.mpr (Or.inr (hwider p hp htakes))

/-- **Wider preferences stay writable.** Media ranges are partially ordered by what they
admit. When a caller who states a preference can be written a problem, the same holds after
one of the ranges is replaced by one that it is part of, after the preferences are put in
another order, and after more of them are stated. -/
theorem wider_preferences_stay_writable :
    (∀ m : MediaType, m.isSubsetOf m = true)
    ∧ (∀ narrow middle wide : MediaType, narrow.isSubsetOf middle = true →
        middle.isSubsetOf wide = true → narrow.isSubsetOf wide = true)
    ∧ (∀ one other : MediaType, one.isSubsetOf other = true → other.isSubsetOf one = true →
        one = other)
    ∧ ∀ preferences : List String, (∃ p ∈ preferences, isBlankText p = false) →
      canWriteProblem preferences = true →
        (∀ before p after q narrow wide, preferences = before ++ p :: after →
          MediaType.ofString? p = some narrow → MediaType.ofString? q = some wide →
          narrow.isSubsetOf wide = true → canWriteProblem (before ++ q :: after) = true)
        ∧ (∀ others, others.Perm preferences → canWriteProblem others = true)
        ∧ ∀ others, preferences.Sublist others → canWriteProblem others = true := by
  refine ⟨fun m => le_refl m, fun narrow middle wide => le_trans (b := middle),
    fun one other => le_antisymm (a := one), ?_⟩
  intro preferences hstated hwrite
  refine ⟨?_, fun others hperm => ?_, fun others hmore => ?_⟩
  · rintro before p after q narrow wide rfl hp hq hle
    refine canWriteProblem_of_wider hstated (fun r hr htakes => ?_) hwrite
    rcases List.mem_append.mp hr with hbefore | hrest
    · exact ⟨r, List.mem_append_left _ hbefore, htakes⟩
    · rcases List.mem_cons.mp hrest with rfl | hafter
      · exact ⟨q, by simp, takesProblem_mono hp hq hle htakes⟩
      · exact ⟨r, by simp [hafter], htakes⟩
  · exact canWriteProblem_of_wider hstated (fun p hp htakes => ⟨p, hperm.mem_iff.mpr hp, htakes⟩)
      hwrite
  · exact canWriteProblem_of_wider hstated (fun p hp htakes => ⟨p, hmore.subset hp, htakes⟩)
      hwrite

/-- A caller of pages and of anything that ends in JSON may as well take everything. -/
theorem suffix_caller_may_take_everything :
    canWriteProblem ["text/html", "*/*;q=0.1"] = true
      ∧ canWriteProblem ["application/*+json", "text/html"] = true
      ∧ canWriteProblem ["text/html", "image/png", "application/*+json", ""] = true := by
  obtain ⟨-, -, -, hwider⟩ := wider_preferences_stay_writable
  obtain ⟨hreplace, hshuffle, hmore⟩ := hwider ["text/html", "application/*+json"]
    ⟨"text/html", by decide, by decide⟩ (by decide)
  refine ⟨?_, hshuffle _ (by decide), hmore _ (by decide)⟩
  exact hreplace ["text/html"] "application/*+json" [] "*/*;q=0.1"
    ⟨"application".toList, "*+json".toList⟩ ⟨['*'], ['*']⟩ rfl (by decide) (by decide) (by decide)

end Triage
