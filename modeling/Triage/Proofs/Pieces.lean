import Mathlib.Data.List.TakeWhile
import Triage.Text.Blank
import Triage.Text.Cut

/-!
# Pieces of texts

Cutting a text at every occurrence of a character is the splitting of lists
(`cutAt_eq_splitOn`), so it goes piece by piece over texts that are put together
(`cutAt_intercalate`). The first piece is what stands before the first occurrence; the
others are those that stand between an occurrence and the next one, or the end
(`mem_tail_cutAt`). Trimming takes blanks off both ends and nothing else
(`exists_blanks`), so blanks at the ends do not matter to it.
-/

namespace Triage.Text

/-- A look at every character of a list, and at no other character. -/
theorem forall_mem_of_all {P : Char → Prop} [DecidablePred P] {cs : List Char}
    (h : (cs.all fun c => decide (P c)) = true) : ∀ c ∈ cs, P c :=
  fun c hc => of_decide_eq_true (List.all_eq_true.mp h c hc)

/-! ## Cutting -/

section Cutting

variable {α : Type} [DecidableEq α] {c : α} {cs a b : List α}


theorem cutAt_eq_splitOn (c : α) (cs : List α) : cutAt c cs = cs.splitOn c := by
  induction cs with
  | nil => rfl
  | cons d cs ih =>
      rw [List.splitOn_cons_eq_if_modifyHead, cutAt, ih]
      by_cases hd : d = c
      · rw [if_pos hd, if_pos (beq_iff_eq.mpr hd)]
      · rw [if_neg hd, if_neg (by simpa using hd)]
        cases hcut : cs.splitOn c with
        | nil => exact absurd hcut (List.splitOnP_ne_nil _ _)
        | cons piece pieces => rfl

theorem cutAt_append_cons (c : α) (a b : List α) :
    cutAt c (a ++ c :: b) = cutAt c a ++ cutAt c b := by
  simp only [cutAt_eq_splitOn]
  exact List.splitOnP_append_cons a b (beq_self_eq_true c)

/-- The pieces of texts put together with the character between them are the pieces of
each text in turn. -/
theorem cutAt_intercalate (c : α) {texts : List (List α)} (htexts : texts ≠ []) :
    cutAt c ([c].intercalate texts) = texts.flatMap (cutAt c) := by
  induction texts with
  | nil => exact absurd rfl htexts
  | cons text texts ih =>
      cases texts with
      | nil => simp
      | cons next texts =>
          rw [List.intercalate_cons_cons, List.append_assoc, List.singleton_append,
            cutAt_append_cons, ih (List.cons_ne_nil _ _)]
          exact List.flatMap_cons.symm

theorem cutAt_eq_cons (c : α) (cs : List α) :
    cutAt c cs = cs.takeWhile (· != c) :: (cutAt c cs).tail := by
  induction cs with
  | nil => rfl
  | cons d cs ih =>
      rw [cutAt]
      by_cases hd : d = c
      · subst hd
        simp
      · rw [if_neg hd, ih, List.takeWhile_cons_of_pos (by simpa using hd)]
        rfl

theorem tail_cutAt_cons_self (c : α) (cs : List α) :
    (cutAt c (c :: cs)).tail = cutAt c cs := by
  rw [cutAt, if_pos rfl, List.tail_cons]

theorem tail_cutAt_cons_of_ne {d : α} (hd : d ≠ c) (cs : List α) :
    (cutAt c (d :: cs)).tail = (cutAt c cs).tail := by
  rw [cutAt, if_neg hd]
  cases cutAt c cs <;> rfl

theorem ne_of_notMem (h : c ∉ cs) : ∀ d ∈ cs, (d != c) = true := by
  intro d hd
  rw [bne_iff_ne]
  rintro rfl
  exact h hd

omit [DecidableEq α] in
/-- An occurrence that the front does not have is one of the back. -/
theorem exists_of_append_eq {before rest : List α} (ha : c ∉ a)
    (heq : a ++ b = before ++ c :: rest) :
    ∃ before', before = a ++ before' ∧ b = before' ++ c :: rest := by
  rcases List.append_eq_append_iff.mp heq with ⟨before', hbefore, hb⟩ | ⟨between, rfl, hrest⟩
  · exact ⟨before', hbefore, hb⟩
  · cases between with
    | nil => exact ⟨[], by simp, hrest.symm⟩
    | cons d between =>
        obtain ⟨rfl, -⟩ := List.cons.inj hrest
        exact absurd (by simp) ha

theorem eq_takeWhile_ne_iff {piece : List α} :
    piece = cs.takeWhile (· != c) ↔
      ∃ rest, cs = piece ++ rest ∧ c ∉ piece ∧ ∀ d ∈ rest.head?, d = c := by
  constructor
  · rintro rfl
    refine ⟨cs.dropWhile (· != c), (List.takeWhile_append_dropWhile ..).symm, ?_, ?_⟩
    · intro hmem
      simpa using List.mem_takeWhile_imp hmem
    · intro d hd
      have hstop := List.head?_dropWhile_not (· != c) cs
      rw [Option.mem_def.mp hd] at hstop
      simpa using hstop
  · rintro ⟨rest, rfl, hpiece, hrest⟩
    rw [List.takeWhile_append_of_pos (ne_of_notMem hpiece)]
    cases rest with
    | nil => simp
    | cons d rest => simp [hrest d rfl]

/-- The later pieces stand between an occurrence and the next one, or the end. -/
theorem mem_tail_cutAt {piece : List α} :
    piece ∈ (cutAt c cs).tail ↔
      ∃ before rest, cs = before ++ c :: (piece ++ rest) ∧ c ∉ piece
        ∧ ∀ d ∈ rest.head?, d = c := by
  induction cs with
  | nil => simp [cutAt]
  | cons d cs ih =>
      by_cases hd : d = c
      · -- an occurrence in front makes the first piece of the rest a later one
        subst hd
        rw [tail_cutAt_cons_self, cutAt_eq_cons, List.mem_cons, ih, eq_takeWhile_ne_iff]
        constructor
        · rintro (⟨rest, rfl, hrest⟩ | ⟨before, rest, rfl, hrest⟩)
          · exact ⟨[], rest, rfl, hrest⟩
          · exact ⟨d :: before, rest, rfl, hrest⟩
        · rintro ⟨before, rest, heq, hrest⟩
          rcases List.append_eq_cons_iff.mp heq.symm with ⟨-, hcs⟩ | ⟨before', -, hcs⟩
          · exact Or.inl ⟨rest, (List.cons.inj hcs).2.symm, hrest⟩
          · exact Or.inr ⟨before', rest, hcs, hrest⟩
      · rw [tail_cutAt_cons_of_ne hd, ih]
        constructor
        · rintro ⟨before, rest, rfl, hrest⟩
          exact ⟨d :: before, rest, rfl, hrest⟩
        · rintro ⟨before, rest, heq, hrest⟩
          rcases List.append_eq_cons_iff.mp heq.symm with ⟨-, hcs⟩ | ⟨before', -, hcs⟩
          · exact absurd (List.cons.inj hcs).1.symm hd
          · exact ⟨before', rest, hcs, hrest⟩

theorem intercalate_cutAt (c : α) (cs : List α) : [c].intercalate (cutAt c cs) = cs := by
  rw [cutAt_eq_splitOn, List.intercalate_splitOn]

theorem notMem_of_mem_cutAt {piece : List α} (h : piece ∈ cutAt c cs) : c ∉ piece := by
  rw [cutAt_eq_cons, List.mem_cons] at h
  rcases h with rfl | htail
  · exact fun hmem => by simpa using List.mem_takeWhile_imp hmem
  · obtain ⟨before, rest, -, hpiece, -⟩ := mem_tail_cutAt.mp htail
    exact hpiece

theorem length_cutAt (c : α) (cs : List α) : (cutAt c cs).length = cs.count c + 1 := by
  induction cs with
  | nil => rfl
  | cons d cs ih =>
      rw [cutAt]
      by_cases hd : d = c
      · subst hd
        simp [ih]
      · rw [if_neg hd, List.count_cons_of_ne hd, ← ih, cutAt_eq_cons c cs]
        rfl

theorem cutOnce?_eq_some_iff :
    cutOnce? c cs = some (a, b) ↔ cs = a ++ c :: b ∧ c ∉ a := by
  unfold cutOnce?
  constructor
  · intro h
    have hcs := cs.takeWhile_append_dropWhile (p := (· != c))
    have hstop := List.head?_dropWhile_not (· != c) cs
    cases hdrop : cs.dropWhile (· != c) with
    | nil => rw [hdrop] at h; cases h
    | cons d rest =>
        rw [hdrop] at h hcs hstop
        obtain ⟨rfl, rfl⟩ := Prod.mk.inj (Option.some.inj h)
        obtain rfl : d = c := by simpa using hstop
        exact ⟨hcs.symm, fun hmem => by simpa using List.mem_takeWhile_imp hmem⟩
  · rintro ⟨rfl, ha⟩
    rw [List.dropWhile_append_of_pos (ne_of_notMem ha),
      List.takeWhile_append_of_pos (ne_of_notMem ha)]
    simp

end Cutting

/-! ## Trimming -/

variable {c : Char} {cs a b : List Char}


/-- Nothing but blanks. -/
abbrev IsBlanks (cs : List Char) : Prop := ∀ c ∈ cs, isBlank c = true

instance : DecidablePred IsBlanks := List.decidableBAll fun c => isBlank c = true

theorem trim_append_blanks (a : List Char) (hb : IsBlanks b) : trim (a ++ b) = trim a := by
  have hdrop : b.dropWhile isBlank = [] := List.dropWhile_eq_nil_iff.mpr hb
  have hreverse : ∀ d ∈ b.reverse, isBlank d = true := fun d hd => hb d (List.mem_reverse.mp hd)
  unfold trim trimStart trimEnd
  rw [List.dropWhile_append]
  split
  · -- only blanks in front as well
    rename_i hempty
    rw [hdrop, List.isEmpty_iff.mp hempty]
  · rw [List.reverse_append, List.dropWhile_append_of_pos hreverse]

theorem trim_blanks_append (ha : IsBlanks a) (b : List Char) : trim (a ++ b) = trim b := by
  unfold trim trimStart
  rw [List.dropWhile_append_of_pos ha]

/-- Trimming takes blanks off both ends. -/
theorem exists_blanks (cs : List Char) :
    ∃ before after, cs = before ++ trim cs ++ after ∧ IsBlanks before ∧ IsBlanks after := by
  refine ⟨cs.takeWhile isBlank, ((trimStart cs).reverse.takeWhile isBlank).reverse, ?_,
    fun d hd => List.mem_takeWhile_imp hd,
    fun d hd => List.mem_takeWhile_imp (List.mem_reverse.mp hd)⟩
  have hend : trimStart cs =
      trim cs ++ ((trimStart cs).reverse.takeWhile isBlank).reverse := by
    unfold trim trimEnd
    rw [← List.reverse_append, List.takeWhile_append_dropWhile, List.reverse_reverse]
  rw [List.append_assoc, ← hend]
  exact (List.takeWhile_append_dropWhile ..).symm

theorem trim_eq_nil_iff : trim cs = [] ↔ IsBlanks cs := by
  constructor
  · intro htrim
    obtain ⟨before, after, hcs, hbefore, hafter⟩ := exists_blanks cs
    rw [htrim, List.append_nil] at hcs
    rw [hcs]
    exact fun d hd => (List.mem_append.mp hd).elim (hbefore d) (hafter d)
  · intro hcs
    exact trim_append_blanks [] hcs

theorem mem_trim_iff (hc : isBlank c = false) : c ∈ trim cs ↔ c ∈ cs := by
  obtain ⟨before, after, hcs, hbefore, hafter⟩ := exists_blanks cs
  have hnot : ∀ {blanks : List Char}, IsBlanks blanks → c ∉ blanks := fun hblanks hmem => by
    rw [hblanks c hmem] at hc
    cases hc
  constructor
  · intro hmem
    rw [hcs]
    exact List.mem_append_left _ (List.mem_append_right _ hmem)
  · intro hmem
    rw [hcs] at hmem
    simpa [hnot hbefore, hnot hafter] using hmem

/-- A trimmed text does not end in a blank. -/
theorem isBlank_getLast_trim {cs : List Char} {c : Char} (h : (trim cs).getLast? = some c) :
    isBlank c = false := by
  unfold trim trimEnd at h
  rw [List.getLast?_reverse] at h
  have hstop := List.head?_dropWhile_not isBlank (trimStart cs).reverse
  rw [h] at hstop
  simpa using hstop

theorem trim_of_no_blanks {cs : List Char} (h : ∀ c ∈ cs, isBlank c = false) : trim cs = cs := by
  have hkept : ∀ {ds : List Char}, (∀ c ∈ ds, isBlank c = false) → ds.dropWhile isBlank = ds := by
    intro ds hds
    cases ds with
    | nil => rfl
    | cons d ds => exact List.dropWhile_cons_of_neg (by simp [hds d (List.mem_cons_self ..)])
  unfold trim trimEnd trimStart
  rw [hkept h, hkept fun c hc => h c (List.mem_reverse.mp hc), List.reverse_reverse]

end Triage.Text
