import Mathlib.Data.List.Induction
import Triage.Proofs.Pieces
import Triage.Text.Lowercase

/-!
# Small letters

No small letter of the case table is a capital again, so lower-casing twice is lower-casing
once (`lower_lower`). What a sigma becomes depends on the characters around it, but only up
to the next separator: a blank, a slash or a semicolon. None of these has case, is looked
through or comes of a letter, so texts are lower-cased part by part between separators
(`lower_append_separator`), and it makes no difference whether a text is trimmed before it
is lower-cased or afterwards (`trim_lower`). Nor does the case of its ASCII letters
(`lower_map_toLower`).
-/

namespace Triage.Text

variable {c d : Char} {before cs x y : List Char}

/-! ## The case table -/

/-- Two ranges have nothing in common. -/
def apart (a b : Nat × Nat) : Bool := a.2.blt b.1 || b.2.blt a.1

theorem apart_eq_true_iff {a b : Nat × Nat} : apart a b = true ↔ a.2 < b.1 ∨ b.2 < a.1 := by
  rw [apart, Bool.or_eq_true, Nat.blt_eq, Nat.blt_eq]

theorem inRanges_eq_false_of_apart {ranges : List (Nat × Nat)} {r : Nat × Nat} {n : Nat}
    (hapart : ranges.all (apart r) = true) (hn : r.1 ≤ n ∧ n ≤ r.2) :
    inRanges ranges n = false := by
  rw [← Bool.not_eq_true, inRanges_eq_true_iff]
  rintro ⟨s, hs, hlow, hhigh⟩
  have hrs := apart_eq_true_iff.mp (List.all_eq_true.mp hapart s hs)
  omega

namespace CaseRun

/-- The run has a capital letter at the code point. -/
def Holds (r : CaseRun) (n : Nat) : Prop :=
  r.first ≤ n ∧ n ≤ r.last ∧ (n - r.first) % r.step = 0

instance (r : CaseRun) : DecidablePred r.Holds := fun _ => inferInstanceAs (Decidable (_ ∧ _))

/-- Where the capitals of the run lie. -/
def range (r : CaseRun) : Nat × Nat := (r.first, r.last)

/-- The code point of the small letter of the first capital. -/
def smallFirst (r : CaseRun) : Nat := ((r.first : Int) + r.offset).toNat

/-- Where the small letters of the run lie. -/
def smallRange (r : CaseRun) : Nat × Nat := (r.smallFirst, r.smallFirst + (r.last - r.first))

/-- No small letter of `r` is a capital of `q`: they lie elsewhere, or between the capitals. -/
def misses (r q : CaseRun) : Bool :=
  apart r.smallRange q.range ||
    ((r.step == 2 || r.first == r.last) && q.step == 2 && (r.smallFirst + q.first) % 2 == 1)

theorem not_holds_of_misses {r q : CaseRun} {n : Nat} (hmisses : r.misses q = true)
    (hn : r.Holds n) : ¬q.Holds (r.smallFirst + (n - r.first)) := by
  obtain ⟨hfirst, hlast, hstep⟩ := hn
  rintro ⟨hqfirst, hqlast, hqstep⟩
  simp only [misses, Bool.or_eq_true, Bool.and_eq_true, beq_iff_eq, apart_eq_true_iff,
    smallRange, range] at hmisses
  rcases hmisses with hapart | ⟨⟨htwo | hone, hqtwo⟩, hodd⟩
  · omega
  · rw [htwo] at hstep
    rw [hqtwo] at hqstep
    omega
  · rw [hqtwo] at hqstep
    omega

/-- The small letters of the run are characters. -/
def IsSound (r : CaseRun) : Prop :=
  0 ≤ (r.first : Int) + r.offset ∧
    (r.smallRange.2 < 0xd800 ∨ 0xdfff < r.smallRange.1 ∧ r.smallRange.2 < 0x110000)

instance : DecidablePred IsSound := fun _ => inferInstanceAs (Decidable (_ ∧ _))

end CaseRun

theorem isSound_of_mem : ∀ r ∈ caseRuns, r.IsSound := by
  decide +kernel

/-- A capital letter: one that the case table lists, or the dotted I. -/
def IsCapital (c : Char) : Prop := c = 'İ' ∨ ∃ r ∈ caseRuns, r.Holds c.toNat

/-- The dotted I as a run of its own. -/
def dottedRun : CaseRun := ⟨0x130, 0x130, 1, 0⟩

/-- No small letter of the table is a capital. -/
theorem misses_of_mem : (caseRuns.all fun r => (dottedRun :: caseRuns).all r.misses) = true := by
  decide +kernel

theorem toNat_ofNat_of_isValidChar {n : Nat} (hn : n.isValidChar) : (Char.ofNat n).toNat = n := by
  rw [Char.ofNat, dif_pos hn]
  rfl

/-- A character is no capital of the table and stays as it is, or it is one, and its small
letter lies as far from the first small letter as it lies from the first capital. -/
theorem smallLetter_cases (c : Char) :
    ((∀ r ∈ caseRuns, ¬r.Holds c.toNat) ∧ smallLetter c = c)
      ∨ ∃ r ∈ caseRuns, r.Holds c.toNat
          ∧ (smallLetter c).toNat = r.smallFirst + (c.toNat - r.first) := by
  unfold smallLetter
  cases hrun : caseRuns.find? (fun r => r.first ≤ c.toNat && c.toNat ≤ r.last &&
      (c.toNat - r.first) % r.step == 0) with
  | none =>
      refine Or.inl ⟨?_, rfl⟩
      rintro r hr ⟨hfirst, hlast, hstep⟩
      have hnone := List.find?_eq_none.mp hrun r hr
      simp [hfirst, hlast, hstep] at hnone
  | some r =>
      have hr := List.mem_of_find?_eq_some hrun
      have hinside := List.find?_some hrun
      simp only [Bool.and_eq_true, decide_eq_true_eq, beq_iff_eq] at hinside
      obtain ⟨⟨hfirst, hlast⟩, hstep⟩ := hinside
      obtain ⟨hpositive, hvalid⟩ := isSound_of_mem r hr
      simp only [CaseRun.smallRange, CaseRun.smallFirst] at hvalid
      have hplace : ((c.toNat : Int) + r.offset).toNat =
          ((r.first : Int) + r.offset).toNat + (c.toNat - r.first) := by omega
      refine Or.inr ⟨r, hr, ⟨hfirst, hlast, hstep⟩, ?_⟩
      rw [toNat_ofNat_of_isValidChar]
      · exact hplace
      · rw [hplace]
        simp only [Nat.isValidChar]
        omega

theorem smallLetter_of_not_isCapital (hc : ¬IsCapital c) : smallLetter c = c := by
  rcases smallLetter_cases c with ⟨-, hsame⟩ | ⟨r, hr, hholds, -⟩
  · exact hsame
  · exact absurd (Or.inr ⟨r, hr, hholds⟩) hc

theorem not_isCapital_smallLetter (hc : c ≠ 'İ') : ¬IsCapital (smallLetter c) := by
  rcases smallLetter_cases c with ⟨hnone, hsame⟩ | ⟨r, hr, hholds, hsmall⟩
  · rw [hsame]
    rintro (rfl | ⟨r, hr, hholds⟩)
    · exact hc rfl
    · exact hnone r hr hholds
  · have hmisses := List.all_eq_true.mp (List.all_eq_true.mp misses_of_mem r hr)
    rintro (hdotted | ⟨q, hq, hagain⟩)
    · refine CaseRun.not_holds_of_misses (hmisses dottedRun (List.mem_cons_self ..)) hholds ?_
      rw [← hsmall, hdotted]
      exact ⟨Nat.le_refl _, Nat.le_refl _, rfl⟩
    · refine CaseRun.not_holds_of_misses (hmisses q (List.mem_cons_of_mem _ hq)) hholds ?_
      rwa [← hsmall]

/-! ## Letters of ASCII -/

/-- What holds of every code point below a bound holds of every such character. -/
theorem of_toNat_lt {bound : Nat} {P : Char → Prop} (h : ∀ n : Fin bound, P (Char.ofNat n))
    {c : Char} (hc : c.toNat < bound) : P c := by
  have hn := h ⟨c.toNat, hc⟩
  rwa [Char.ofNat_toNat] at hn

theorem toNat_toLower (c : Char) :
    c.toLower.toNat = if 0x41 ≤ c.toNat ∧ c.toNat ≤ 0x5a then c.toNat + 32 else c.toNat := by
  by_cases hc : c.toNat < 0x80
  · exact of_toNat_lt (P := fun c => c.toLower.toNat =
      if 0x41 ≤ c.toNat ∧ c.toNat ≤ 0x5a then c.toNat + 32 else c.toNat) (by decide +kernel) hc
  · have hnot : ¬(c.val ≥ 'A'.val ∧ c.val ≤ 'Z'.val) := by
      rintro ⟨-, hhigh⟩
      exact hc (Nat.lt_of_le_of_lt (UInt32.le_iff_toNat_le.mp hhigh) (by decide))
    have hsame : c.toLower = c := dif_neg hnot
    rw [if_neg (by omega), hsame]

/-- The run of the letters of ASCII. -/
def asciiRun : CaseRun := ⟨0x41, 0x5a, 1, 32⟩

theorem asciiRun_mem : asciiRun ∈ caseRuns := List.mem_cons_self ..

theorem eq_asciiRun_of_mem : ∀ r ∈ caseRuns, r = asciiRun ∨ 0x80 ≤ r.first := by
  decide +kernel

theorem smallLetter_of_ascii (hc : c.toNat < 0x80) : smallLetter c = c.toLower := by
  rw [← Char.toNat_inj, toNat_toLower]
  rcases smallLetter_cases c with ⟨hnone, hsame⟩ | ⟨r, hr, ⟨hfirst, hlast, -⟩, hsmall⟩
  · have hnot : ¬(0x41 ≤ c.toNat ∧ c.toNat ≤ 0x5a) := fun ⟨hlow, hhigh⟩ =>
      hnone asciiRun asciiRun_mem ⟨hlow, hhigh, Nat.mod_one _⟩
    rw [hsame, if_neg hnot]
  · rcases eq_asciiRun_of_mem r hr with rfl | hbeyond
    · have hplace : asciiRun.smallFirst = 0x61 := rfl
      have hstart : asciiRun.first = 0x41 := rfl
      have hend : asciiRun.last = 0x5a := rfl
      rw [hsmall, if_pos (by omega)]
      omega
    · omega

/-! ## One character -/

/-- What a character becomes between others. -/
def lowerOne (before : List Char) (c : Char) (cs : List Char) : List Char :=
  if c = 'Σ' then (if nextIsCased before && !nextIsCased cs then ['ς'] else ['σ'])
  else if c = 'İ' then ['i', '\u0307']
  else [smallLetter c]

theorem lowerAfter_cons (before : List Char) (c : Char) (cs : List Char) :
    lowerAfter before (c :: cs) = lowerOne before c cs ++ lowerAfter (c :: before) cs := by
  rw [lowerAfter, lowerOne]
  congr 1
  split
  · rfl
  · split
    · rfl
    · split
      · rename_i hc
        rw [smallLetter_of_ascii hc]
      · rfl

theorem lowerOne_ne_nil : lowerOne before c cs ≠ [] := by
  unfold lowerOne
  split
  · split <;> exact List.cons_ne_nil _ _
  · split <;> exact List.cons_ne_nil _ _

theorem lower_eq_nil_iff : lower cs = [] ↔ cs = [] := by
  constructor
  · intro hlower
    cases cs with
    | nil => rfl
    | cons c cs =>
        rw [lower, lowerAfter_cons] at hlower
        exact absurd (List.append_eq_nil_iff.mp hlower).1 lowerOne_ne_nil
  · rintro rfl
    rfl

/-- What a character becomes is its small letter, or part of what an odd letter becomes. -/
theorem mem_lowerOne (hd : d ∈ lowerOne before c cs) :
    d ∈ ['ς', 'σ', 'i', '\u0307'] ∨ (c ≠ 'İ' ∧ d = smallLetter c) := by
  unfold lowerOne at hd
  split at hd
  · left
    split at hd <;> rw [List.mem_singleton.mp hd] <;> decide
  · split at hd
    · left
      have hparts : d = 'i' ∨ d = '\u0307' := by simpa using hd
      rcases hparts with rfl | rfl <;> decide
    · rename_i hdotted
      exact Or.inr ⟨hdotted, List.mem_singleton.mp hd⟩

theorem exists_of_mem_lowerAfter (hd : d ∈ lowerAfter before cs) :
    ∃ before' c cs', c ∈ cs ∧ d ∈ lowerOne before' c cs' := by
  induction cs generalizing before with
  | nil => cases hd
  | cons c cs ih =>
      rw [lowerAfter_cons, List.mem_append] at hd
      rcases hd with hone | hrest
      · exact ⟨before, c, cs, List.mem_cons_self .., hone⟩
      · obtain ⟨before', c', cs', hmem, hone⟩ := ih hrest
        exact ⟨before', c', cs', List.mem_cons_of_mem _ hmem, hone⟩

/-! ## Lower-casing twice -/

theorem lowerAfter_of_not_isCapital (hcs : ∀ c ∈ cs, ¬IsCapital c) : lowerAfter before cs = cs := by
  induction cs generalizing before with
  | nil => rfl
  | cons c cs ih =>
      obtain ⟨hc, hcs⟩ := List.forall_mem_cons.mp hcs
      have hsigma : c ≠ 'Σ' := by
        rintro rfl
        exact hc (Or.inr ⟨⟨0x3a3, 0x3ab, 1, 32⟩, by decide, by decide⟩)
      have hdotted : c ≠ 'İ' := fun h => hc (Or.inl h)
      rw [lowerAfter_cons, lowerOne, if_neg hsigma, if_neg hdotted,
        smallLetter_of_not_isCapital hc, ih hcs, List.singleton_append]

theorem not_isCapital_of_mem_lowerAfter (hd : d ∈ lowerAfter before cs) : ¬IsCapital d := by
  have hodd : ∀ e ∈ ['ς', 'σ', 'i', '\u0307'], e ≠ 'İ' ∧ smallLetter e = e :=
    forall_mem_of_all (by decide +kernel)
  obtain ⟨before', c, cs', -, hone⟩ := exists_of_mem_lowerAfter hd
  rcases mem_lowerOne hone with hmem | ⟨hdotted, rfl⟩
  · obtain ⟨hdotted, hsame⟩ := hodd d hmem
    rw [← hsame]
    exact not_isCapital_smallLetter hdotted
  · exact not_isCapital_smallLetter hdotted

/-- **Lower-casing twice is lower-casing once.** -/
theorem lower_lower (cs : List Char) : lower (lower cs) = lower cs :=
  lowerAfter_of_not_isCapital fun _ hd => not_isCapital_of_mem_lowerAfter hd

/-! ## Separators -/

/-- The blanks, the slash and the semicolon. -/
def separatorRanges : List (Nat × Nat) := (0x2f, 0x2f) :: (0x3b, 0x3b) :: blankRanges

/-- A character between the parts of a text. -/
def IsSeparator (c : Char) : Prop := inRanges separatorRanges c.toNat = true

/-- Where the characters lie that make a difference to letter case. -/
def letterRanges : List (Nat × Nat) :=
  dottedRun.range :: caseRuns.map CaseRun.range ++ caseRuns.map CaseRun.smallRange

/-- Separators have no case, are not looked through and come of no letter. -/
theorem separators_apart : (separatorRanges.all fun s =>
    letterRanges.all (apart s) && casedRanges.all (apart s)
      && caseIgnorableRanges.all (apart s)) = true := by
  decide +kernel

theorem isSeparator_of_isBlank (hc : isBlank c = true) : IsSeparator c := by
  obtain ⟨r, hr, hn⟩ := inRanges_eq_true_iff.mp hc
  exact inRanges_eq_true_iff.mpr ⟨r, List.mem_cons_of_mem _ (List.mem_cons_of_mem _ hr), hn⟩

theorem IsSeparator.apart (hc : IsSeparator c) :
    inRanges letterRanges c.toNat = false ∧ inRanges casedRanges c.toNat = false
      ∧ inRanges caseIgnorableRanges c.toNat = false := by
  obtain ⟨s, hs, hn⟩ := inRanges_eq_true_iff.mp hc
  have hall := List.all_eq_true.mp separators_apart s hs
  rw [Bool.and_eq_true, Bool.and_eq_true] at hall
  exact ⟨inRanges_eq_false_of_apart hall.1.1 hn, inRanges_eq_false_of_apart hall.1.2 hn,
    inRanges_eq_false_of_apart hall.2 hn⟩

theorem smallLetter_of_isSeparator (hc : IsSeparator c) : smallLetter c = c := by
  rcases smallLetter_cases c with ⟨-, hsame⟩ | ⟨r, hr, ⟨hfirst, hlast, -⟩, -⟩
  · exact hsame
  · have hmem : r.range ∈ letterRanges :=
      List.mem_cons_of_mem _ (List.mem_append_left _ (List.mem_map_of_mem hr))
    have hletter := inRanges_eq_true_iff.mpr ⟨r.range, hmem, hfirst, hlast⟩
    rw [hc.apart.1] at hletter
    cases hletter

/-- A separator comes of nothing but itself. -/
theorem eq_of_mem_lowerOne (hd : d ∈ lowerOne before c cs) (hsep : IsSeparator d) : d = c := by
  have hodd : ∀ e ∈ ['ς', 'σ', 'i', '\u0307'], inRanges separatorRanges e.toNat = false :=
    forall_mem_of_all (by decide +kernel)
  rcases mem_lowerOne hd with hmem | ⟨-, rfl⟩
  · have hnot := hodd d hmem
    rw [hsep] at hnot
    cases hnot
  · rcases smallLetter_cases c with ⟨-, hsame⟩ | ⟨r, hr, ⟨hfirst, hlast, -⟩, hsmall⟩
    · exact hsame
    · have hmem : r.smallRange ∈ letterRanges :=
        List.mem_cons_of_mem _ (List.mem_append_right _ (List.mem_map_of_mem hr))
      have hletter : inRanges letterRanges (smallLetter c).toNat = true := by
        refine inRanges_eq_true_iff.mpr ⟨r.smallRange, hmem, ?_⟩
        simp only [CaseRun.smallRange]
        omega
      rw [hsep.apart.1] at hletter
      cases hletter

theorem mem_of_mem_lowerAfter (hd : d ∈ lowerAfter before cs) (hsep : IsSeparator d) : d ∈ cs := by
  obtain ⟨before', c, cs', hmem, hone⟩ := exists_of_mem_lowerAfter hd
  rwa [eq_of_mem_lowerOne hone hsep]

/-- No look goes beyond a separator. -/
theorem nextIsCased_append_separator (hc : IsSeparator c) (x y : List Char) :
    nextIsCased (x ++ c :: y) = nextIsCased x := by
  obtain ⟨-, hcased, hignorable⟩ := hc.apart
  induction x with
  | nil => simp [nextIsCased, hcased, hignorable]
  | cons d x ih =>
      unfold nextIsCased at ih ⊢
      rw [List.cons_append, List.dropWhile_cons, List.dropWhile_cons]
      by_cases hd : inRanges caseIgnorableRanges d.toNat = true
      · rwa [if_pos hd, if_pos hd]
      · rw [if_neg hd, if_neg hd]

theorem lowerAfter_append_before (hc : IsSeparator c) (x before cs : List Char) :
    lowerAfter (x ++ c :: before) cs = lowerAfter x cs := by
  induction cs generalizing x with
  | nil => rfl
  | cons d cs ih =>
      rw [lowerAfter_cons, lowerAfter_cons, lowerOne, lowerOne, nextIsCased_append_separator hc,
        ← List.cons_append, ih]

/-- What stands on either side of a separator is lower-cased on its own. -/
theorem lowerAfter_append_separator (hc : IsSeparator c) (before x y : List Char) :
    lowerAfter before (x ++ c :: y) = lowerAfter before x ++ c :: lower y := by
  induction x generalizing before with
  | nil =>
      have hnot : ∀ e ∈ ['Σ', 'İ'], inRanges separatorRanges e.toNat = false :=
        forall_mem_of_all (by decide +kernel)
      have hne : ∀ e ∈ ['Σ', 'İ'], c ≠ e := by
        rintro e he rfl
        rw [IsSeparator, hnot c he] at hc
        cases hc
      have hafter := lowerAfter_append_before hc [] before y
      rw [List.nil_append, lowerAfter_cons, lowerOne, if_neg (hne _ (by simp)),
        if_neg (hne _ (by simp)), smallLetter_of_isSeparator hc]
      exact congrArg (c :: ·) hafter
  | cons d x ih =>
      rw [List.cons_append, lowerAfter_cons, lowerAfter_cons, lowerOne, lowerOne,
        nextIsCased_append_separator hc, ih, List.append_assoc]

theorem lower_append_separator (hc : IsSeparator c) (x y : List Char) :
    lower (x ++ c :: y) = lower x ++ c :: lower y :=
  lowerAfter_append_separator hc [] x y

/-! ## Lower-casing and trimming -/

theorem isBlank_of_mem_lowerOne (hc : isBlank c = false) :
    ∀ d ∈ lowerOne before c cs, isBlank d = false := by
  intro d hd
  rw [← Bool.not_eq_true]
  intro hblank
  rw [eq_of_mem_lowerOne hd (isSeparator_of_isBlank hblank), hc] at hblank
  cases hblank

theorem trimStart_append_of_not_blank (hx : x ≠ []) (hblank : ∀ c ∈ x, isBlank c = false)
    (y : List Char) : trimStart (x ++ y) = x ++ y := by
  obtain ⟨c, x, rfl⟩ := List.exists_cons_of_ne_nil hx
  exact List.dropWhile_cons_of_neg (by simp [hblank c (List.mem_cons_self ..)])

theorem trimEnd_append_of_not_blank (hy : y ≠ []) (hblank : ∀ c ∈ y, isBlank c = false)
    (x : List Char) : trimEnd (x ++ y) = x ++ y := by
  have hreverse := trimStart_append_of_not_blank (List.reverse_ne_nil_iff.mpr hy)
    (fun c hc => hblank c (List.mem_reverse.mp hc)) x.reverse
  rw [← List.reverse_append] at hreverse
  unfold trimEnd
  unfold trimStart at hreverse
  rw [hreverse, List.reverse_reverse]

theorem trimStart_lower (cs : List Char) : trimStart (lower cs) = lower (trimStart cs) := by
  induction cs with
  | nil => rfl
  | cons c cs ih =>
      cases hc : isBlank c with
      | true =>
          have hlower : lower (c :: cs) = c :: lower cs :=
            lower_append_separator (isSeparator_of_isBlank hc) [] cs
          rw [hlower]
          unfold trimStart at ih ⊢
          rw [List.dropWhile_cons_of_pos hc, List.dropWhile_cons_of_pos hc, ih]
      | false =>
          have hstart : trimStart (c :: cs) = c :: cs :=
            List.dropWhile_cons_of_neg (by simp [hc])
          rw [hstart, lower, lowerAfter_cons]
          exact trimStart_append_of_not_blank lowerOne_ne_nil (isBlank_of_mem_lowerOne hc) _

theorem trimEnd_concat_of_isBlank (hc : isBlank c = true) (cs : List Char) :
    trimEnd (cs ++ [c]) = trimEnd cs := by
  simp [trimEnd, hc]

/-- What becomes of the last character stands last. -/
theorem exists_lowerAfter_concat (before cs : List Char) (c : Char) :
    ∃ front before', lowerAfter before (cs ++ [c]) = front ++ lowerOne before' c [] := by
  induction cs generalizing before with
  | nil => exact ⟨[], before, by rw [List.nil_append, lowerAfter_cons, lowerAfter, List.append_nil,
      List.nil_append]⟩
  | cons d cs ih =>
      obtain ⟨front, before', hrest⟩ := ih (d :: before)
      refine ⟨lowerOne before d (cs ++ [c]) ++ front, before', ?_⟩
      rw [List.cons_append, lowerAfter_cons, hrest, List.append_assoc]

theorem trimEnd_lower (cs : List Char) : trimEnd (lower cs) = lower (trimEnd cs) := by
  induction cs using List.reverseRecOn with
  | nil => rfl
  | append_singleton cs c ih =>
      cases hc : isBlank c with
      | true =>
          have hlower : lower (cs ++ [c]) = lower cs ++ [c] :=
            lower_append_separator (isSeparator_of_isBlank hc) cs []
          rw [hlower, trimEnd_concat_of_isBlank hc, trimEnd_concat_of_isBlank hc, ih]
      | false =>
          have hend : trimEnd (cs ++ [c]) = cs ++ [c] :=
            trimEnd_append_of_not_blank (List.cons_ne_nil _ _) (List.forall_mem_singleton.mpr hc) cs
          obtain ⟨front, before', hlower⟩ := exists_lowerAfter_concat [] cs c
          rw [hend, lower, hlower]
          exact trimEnd_append_of_not_blank lowerOne_ne_nil (isBlank_of_mem_lowerOne hc) front

/-- **Trimming and lower-casing commute.** -/
theorem trim_lower (cs : List Char) : trim (lower cs) = lower (trim cs) := by
  rw [trim, trim, trimStart_lower, trimEnd_lower]

/-! ## The case of ASCII letters -/

/-- A character is its own ASCII small letter, or it and that are letters of ASCII. -/
theorem toLower_cases (c : Char) :
    c.toLower = c ∨ (0x41 ≤ c.toNat ∧ c.toNat ≤ 0x5a)
      ∧ (0x61 ≤ c.toLower.toNat ∧ c.toLower.toNat ≤ 0x7a) := by
  rw [← Char.toNat_inj, toNat_toLower]
  split <;> omega

theorem toLower_toLower (c : Char) : c.toLower.toLower = c.toLower := by
  rw [← Char.toNat_inj, toNat_toLower]
  rcases toLower_cases c with hsame | ⟨-, hlow, -⟩
  · have hplace := toNat_toLower c
    rw [hsame] at hplace ⊢
    omega
  · rw [if_neg (by omega)]

theorem inRanges_toLower {ranges : List (Nat × Nat)}
    (hapart : ([(0x41, 0x5a), (0x61, 0x7a)].all fun r => ranges.all (apart r)) = true) (c : Char) :
    inRanges ranges c.toLower.toNat = inRanges ranges c.toNat := by
  rcases toLower_cases c with hsame | ⟨hcapital, hsmall⟩
  · rw [hsame]
  · have hall := List.all_eq_true.mp hapart
    rw [inRanges_eq_false_of_apart (hall (0x61, 0x7a) (by simp)) hsmall,
      inRanges_eq_false_of_apart (hall (0x41, 0x5a) (by simp)) hcapital]

theorem isBlank_toLower (c : Char) : isBlank c.toLower = isBlank c :=
  inRanges_toLower (by decide) c

theorem toLower_eq_iff_of_not_ascii (hd : 0x80 ≤ d.toNat) : c.toLower = d ↔ c = d := by
  rw [← Char.toNat_inj, ← Char.toNat_inj, toNat_toLower]
  split <;> omega

theorem smallLetter_toLower (c : Char) : smallLetter c.toLower = smallLetter c := by
  by_cases hc : c.toNat < 0x80
  · have hsmall : c.toLower.toNat < 0x80 := by
      rw [toNat_toLower]
      split <;> omega
    rw [smallLetter_of_ascii hc, smallLetter_of_ascii hsmall, toLower_toLower]
  · have hsame : c.toLower = c := by
      rw [← Char.toNat_inj, toNat_toLower, if_neg (by omega)]
    rw [hsame]

theorem nextIsCased_map_toLower (cs : List Char) :
    nextIsCased (cs.map Char.toLower) = nextIsCased cs := by
  have hignorable : ∀ c : Char, inRanges caseIgnorableRanges c.toLower.toNat =
      inRanges caseIgnorableRanges c.toNat := inRanges_toLower (by decide +kernel)
  have hcased : ∀ c : Char,
      inRanges casedRanges c.toLower.toNat = inRanges casedRanges c.toNat := by
    intro c
    rcases toLower_cases c with hsame | ⟨hcapital, hsmall⟩
    · rw [hsame]
    · rw [inRanges_eq_true_iff.mpr ⟨(0x61, 0x7a), by decide, hsmall⟩,
        inRanges_eq_true_iff.mpr ⟨(0x41, 0x5a), by decide, hcapital⟩]
  induction cs with
  | nil => rfl
  | cons c cs ih =>
      unfold nextIsCased at ih ⊢
      rw [List.map_cons, List.dropWhile_cons, List.dropWhile_cons, hignorable]
      by_cases hc : inRanges caseIgnorableRanges c.toNat = true
      · rwa [if_pos hc, if_pos hc]
      · rw [if_neg hc, if_neg hc]
        exact hcased c

theorem lowerOne_map_toLower (before cs : List Char) (c : Char) :
    lowerOne (before.map Char.toLower) c.toLower (cs.map Char.toLower) = lowerOne before c cs := by
  unfold lowerOne
  simp only [nextIsCased_map_toLower, smallLetter_toLower,
    toLower_eq_iff_of_not_ascii (d := 'Σ') (by decide),
    toLower_eq_iff_of_not_ascii (d := 'İ') (by decide)]

theorem lowerAfter_map_toLower (before cs : List Char) :
    lowerAfter (before.map Char.toLower) (cs.map Char.toLower) = lowerAfter before cs := by
  induction cs generalizing before with
  | nil => rfl
  | cons c cs ih =>
      rw [List.map_cons, lowerAfter_cons, lowerAfter_cons, lowerOne_map_toLower,
        ← List.map_cons, ih]

/-- **The case of ASCII letters makes no difference to a lower-cased text.** -/
theorem lower_map_toLower (cs : List Char) : lower (cs.map Char.toLower) = lower cs :=
  lowerAfter_map_toLower [] cs

theorem trim_map_toLower (cs : List Char) :
    trim (cs.map Char.toLower) = (trim cs).map Char.toLower := by
  have hblank : isBlank ∘ Char.toLower = isBlank := funext isBlank_toLower
  unfold trim trimEnd trimStart
  rw [List.dropWhile_map, hblank, ← List.map_reverse, List.dropWhile_map, hblank, List.map_reverse]

end Triage.Text
