import Mathlib.Data.List.Induction
import Mathlib.Tactic.Linarith
import Mathlib.Tactic.Ring
import Triage.Number.Reading

/-!
# Rows of digits

The digits of a whole number are digits, the first of them is no zero unless it is the only
one, and there are as many of them as the number is long (`pow_le_of_length_decimalDigits`).
A reader finds a row of digits whole where no digit follows (`frontDigits_append`).
-/

namespace Triage.Number

theorem isDigit_digitChar {d : Nat} (h : d < 10) : isDigit (digitChar d) = true := by
  have hall : ∀ d : Fin 10, isDigit (digitChar d) = true := by decide
  exact hall ⟨d, h⟩

theorem digitChar_ne_zero {d : Nat} (hpos : 0 < d) (h : d < 10) : digitChar d ≠ '0' := by
  have hall : ∀ d : Fin 10, 0 < d.val → digitChar d ≠ '0' := by decide
  exact hall ⟨d, h⟩ hpos

theorem isDigit_decimalDigits (n : Nat) : ∀ c ∈ decimalDigits n, isDigit c = true := by
  induction n using Nat.strongRecOn with
  | _ n ih =>
    intro c hc
    by_cases h : n < 10
    · rw [decimalDigits, digitsBefore, if_pos h, List.mem_singleton] at hc
      rw [hc]
      exact isDigit_digitChar h
    · rw [decimalDigits_of_ten_le (by omega), List.mem_append, List.mem_singleton] at hc
      rcases hc with hc | rfl
      · exact ih (n / 10) (by omega) c hc
      · exact isDigit_digitChar (Nat.mod_lt _ (by omega))

/-- The digits of a number that is not zero start with another digit. -/
theorem decimalDigits_of_pos {n : Nat} (hpos : 0 < n) :
    ∃ c cs, decimalDigits n = c :: cs ∧ c ≠ '0' := by
  induction n using Nat.strongRecOn with
  | _ n ih =>
    by_cases h : n < 10
    · refine ⟨digitChar n, [], ?_, digitChar_ne_zero hpos h⟩
      rw [decimalDigits, digitsBefore, if_pos h]
    · obtain ⟨c, cs, hcs, hc⟩ := ih (n / 10) (by omega) (by omega)
      refine ⟨c, cs ++ [digitChar (n % 10)], ?_, hc⟩
      rw [decimalDigits_of_ten_le (by omega), hcs, List.cons_append]

theorem decimalDigits_zero : decimalDigits 0 = ['0'] := by
  rw [decimalDigits, digitsBefore, if_pos (by omega)]
  rfl

theorem decimalDigits_ne_nil (n : Nat) : decimalDigits n ≠ [] := by
  rcases Nat.eq_zero_or_pos n with rfl | hpos
  · rw [decimalDigits_zero]
    exact List.cons_ne_nil _ _
  · obtain ⟨c, cs, hcs, -⟩ := decimalDigits_of_pos hpos
    rw [hcs]
    exact List.cons_ne_nil _ _

/-- The digits at the front are found whole where no digit follows. -/
theorem frontDigits_append {ds : List Char} {rest : List Glyph}
    (hds : ∀ c ∈ ds, isDigit c = true) (hrest : ∀ g ∈ rest.head?, isDigitGlyph g = false) :
    frontDigits (ds.map .char ++ rest) = (ds, rest) := by
  have hglyphs : ∀ g ∈ ds.map Glyph.char, isDigitGlyph g = true := List.forall_mem_map.mpr hds
  have hstop : rest.takeWhile isDigitGlyph = [] ∧ rest.dropWhile isDigitGlyph = rest := by
    cases rest with
    | nil => exact ⟨rfl, rfl⟩
    | cons g gs =>
        have hg := hrest g rfl
        exact ⟨by simp [hg], by simp [hg]⟩
  have hsame : (ds.map Glyph.char).map Glyph.character = ds := by
    simp [Function.comp_def, Glyph.character]
  rw [frontDigits, List.takeWhile_append_of_pos hglyphs, List.dropWhile_append_of_pos hglyphs,
    hstop.1, hstop.2, List.append_nil, hsame]

/-- So many digits are a number at least. -/
theorem pow_le_of_length_decimalDigits {n : Nat} (hn : 0 < n) :
    10 ^ ((decimalDigits n).length - 1) ≤ n := by
  induction n using Nat.strongRecOn with
  | _ n ih =>
    by_cases hten : n < 10
    · rw [decimalDigits, digitsBefore, if_pos hten]
      exact hn
    · have hlast := ih (n / 10) (by omega) (by omega)
      have hlength : 0 < (decimalDigits (n / 10)).length :=
        List.length_pos_iff.mpr (decimalDigits_ne_nil _)
      rw [decimalDigits_of_ten_le (by omega), List.length_append, List.length_singleton,
        Nat.add_sub_cancel]
      calc 10 ^ (decimalDigits (n / 10)).length
          = 10 ^ ((decimalDigits (n / 10)).length - 1) * 10 := by
            rw [← Nat.pow_succ, Nat.succ_eq_add_one, Nat.sub_add_cancel hlength]
        _ ≤ n / 10 * 10 := Nat.mul_le_mul_right 10 hlast
        _ ≤ n := Nat.div_mul_le_self n 10

/-! ## What a row of digits says -/

theorem digitValue_lt {c : Char} (hc : isDigit c = true) : digitValue c < 10 := by
  simp only [isDigit, Bool.and_eq_true, decide_eq_true_eq, Char.le_def,
    UInt32.le_iff_toNat_le] at hc
  have hhigh : c.toNat ≤ 57 := hc.2
  unfold digitValue
  omega

theorem digitValue_pos {c : Char} (hc : isDigit c = true) (hzero : c ≠ '0') : 0 < digitValue c := by
  simp only [isDigit, Bool.and_eq_true, decide_eq_true_eq, Char.le_def,
    UInt32.le_iff_toNat_le] at hc
  have hlow : 48 ≤ c.toNat := hc.1
  have hne : c.toNat ≠ 48 := fun heq => hzero (Char.toNat_inj.mp heq)
  unfold digitValue
  omega

/-- A row behind another one shifts it to the left. -/
theorem ofDigits_append (cs ds : List Char) :
    ofDigits (cs ++ ds) = ofDigits cs * 10 ^ ds.length + ofDigits ds := by
  induction ds using List.reverseRecOn with
  | nil => simp [ofDigits]
  | append_singleton ds d ih =>
      rw [← List.append_assoc, ofDigits_append_singleton, ofDigits_append_singleton, ih,
        List.length_append, List.length_singleton, Nat.pow_succ]
      ring

theorem ofDigits_cons (c : Char) (cs : List Char) :
    ofDigits (c :: cs) = digitValue c * 10 ^ cs.length + ofDigits cs := by
  have happend := ofDigits_append [c] cs
  rwa [List.singleton_append, show ofDigits [c] = digitValue c by simp [ofDigits]] at happend

theorem ofDigits_replicate_zero (n : Nat) : ofDigits (List.replicate n '0') = 0 := by
  induction n with
  | zero => rfl
  | succ n ih =>
      rw [List.replicate_succ, ofDigits_cons, ih]
      simp [digitValue]

theorem ofDigits_dropWhile_zero (cs : List Char) :
    ofDigits (cs.dropWhile (· == '0')) = ofDigits cs := by
  induction cs with
  | nil => rfl
  | cons c cs ih =>
      by_cases hc : c = '0'
      · subst hc
        rw [List.dropWhile_cons_of_pos (by decide), ih, ofDigits_cons]
        simp [digitValue]
      · rw [List.dropWhile_cons_of_neg (by simpa using hc)]

theorem ofDigits_lt {cs : List Char} (hcs : ∀ c ∈ cs, isDigit c = true) :
    ofDigits cs < 10 ^ cs.length := by
  induction cs with
  | nil => decide
  | cons c cs ih =>
      obtain ⟨hc, hcs⟩ := List.forall_mem_cons.mp hcs
      have hdigit := digitValue_lt hc
      have hrest := ih hcs
      rw [ofDigits_cons, List.length_cons, Nat.pow_succ]
      nlinarith

theorem pow_le_ofDigits_cons {c : Char} (hc : isDigit c = true) (hzero : c ≠ '0')
    (cs : List Char) : 10 ^ cs.length ≤ ofDigits (c :: cs) := by
  have hdigit := digitValue_pos hc hzero
  rw [ofDigits_cons]
  exact Nat.le_add_right_of_le (Nat.le_mul_of_pos_left _ hdigit)

/-- The limit for digits counts the digits that would be written. -/
theorem fitsDigits_iff_length {n : Int} :
    fitsDigits n = true ↔ (decimalDigits n.natAbs).length ≤ mostDigits := by
  have htenTo : ∀ k, tenTo k = 10 ^ k := fun _ => rfl
  rw [fitsDigits_iff, htenTo]
  constructor
  · intro hlt
    rcases Nat.eq_zero_or_pos n.natAbs with hzero | hpos
    · rw [hzero, decimalDigits_zero]
      decide
    · have hpow := Nat.lt_of_le_of_lt (pow_le_of_length_decimalDigits hpos) hlt
      have hlength := (Nat.pow_lt_pow_iff_right (by decide)).mp hpow
      omega
  · intro hlength
    have hlt := ofDigits_lt (isDigit_decimalDigits n.natAbs)
    rw [ofDigits_decimalDigits] at hlt
    exact Nat.lt_of_lt_of_le hlt (Nat.pow_le_pow_right (by decide) hlength)

end Triage.Number
