import Mathlib.Algebra.Order.Field.Power
import Mathlib.Algebra.Order.Floor.Semifield
import Mathlib.Data.Int.Log
import Mathlib.Data.Rat.Floor
import Mathlib.Tactic.FieldSimp
import Mathlib.Tactic.Positivity
import Triage.Number.Binary64

/-!
# The nearest number

A ratio of whole numbers is rounded in whole numbers throughout. What comes of it depends on
the value of the ratio alone (`Binary64.ofRatio_eq`), so it can be worked out on the value:
take the unit of the last place, count in it, round to even. A value that is off from a number by
less than half a unit is rounded to that number (`Binary64.nearest_of_near`), where the number
is the least of its magnitude by less than a quarter; and only values of a moderate size are
rounded to a number that is finite and not zero (`Binary64.bounds_of_nearest`).
-/

namespace Triage.Number

/-! ## Powers -/

theorem cast_twoTo (n : Nat) : (twoTo n : ℚ) = 2 ^ n := by
  unfold twoTo
  exact Nat.cast_pow 2 n

theorem cast_tenTo (n : Nat) : (tenTo n : ℚ) = 10 ^ n := by
  unfold tenTo
  exact Nat.cast_pow 10 n

theorem zpow_eq_div {b : ℚ} (hb : b ≠ 0) (e : Int) : b ^ e = b ^ e.toNat / b ^ (-e).toNat := by
  rw [eq_div_iff (pow_ne_zero _ hb), ← zpow_natCast b (-e).toNat, ← zpow_natCast b e.toNat,
    ← zpow_add₀ hb]
  congr 1
  omega

/-! ## Rounding to a whole number -/

/-- The whole number nearest to a value that is not negative; a tie goes to the even one. -/
def nearestWhole (x : ℚ) : Nat :=
  if x - ⌊x⌋₊ < 1 / 2 then ⌊x⌋₊
  else if 1 / 2 < x - ⌊x⌋₊ then ⌊x⌋₊ + 1
  else if ⌊x⌋₊ % 2 = 0 then ⌊x⌋₊ else ⌊x⌋₊ + 1

theorem roundHalfEven_eq (num : Nat) {den : Nat} (hden : 0 < den) :
    roundHalfEven num den = nearestWhole (num / den) := by
  have hpos : (0 : ℚ) < den := Nat.cast_pos.mpr hden
  have hfloor : ⌊(num : ℚ) / den⌋₊ = num / den := Nat.floor_div_eq_div num den
  have hrest : (num : ℚ) / den - (num / den : Nat) = (num % den : Nat) / den := by
    have hdivision : ((den * (num / den) + num % den : Nat) : ℚ) = num := by
      rw [Nat.div_add_mod]
    push_cast at hdivision
    field_simp
    linarith
  have hless : (num : ℚ) / den - (num / den : Nat) < 1 / 2 ↔ 2 * (num % den) < den := by
    rw [hrest, div_lt_div_iff₀ hpos two_pos, ← @Nat.cast_lt ℚ]
    push_cast
    constructor <;> intro h <;> linarith
  have hmore : 1 / 2 < (num : ℚ) / den - (num / den : Nat) ↔ den < 2 * (num % den) := by
    rw [hrest, div_lt_div_iff₀ two_pos hpos, ← @Nat.cast_lt ℚ]
    push_cast
    constructor <;> intro h <;> linarith
  unfold roundHalfEven nearestWhole
  simp only [hfloor, hless, hmore]

/-- The nearest whole number is off by half at most. -/
theorem nearestWhole_near {x : ℚ} (hx : 0 ≤ x) : |x - nearestWhole x| ≤ 1 / 2 := by
  have hlow := Nat.floor_le hx
  have hhigh := Nat.lt_floor_add_one x
  rw [abs_le]
  unfold nearestWhole
  split
  · constructor <;> linarith
  · split
    · push_cast
      constructor <;> linarith
    · split
      · constructor <;> linarith
      · push_cast
        constructor <;> linarith

/-- A value that is off from a whole number by less than half is rounded to it. -/
theorem nearestWhole_of_near {x : ℚ} (hx : 0 ≤ x) {n : Nat} (hn : |x - n| < 1 / 2) :
    nearestWhole x = n := by
  have hnear := nearestWhole_near hx
  rw [abs_lt] at hn
  rw [abs_le] at hnear
  have hbelow : (nearestWhole x : ℚ) < n + 1 := by linarith
  have habove : (n : ℚ) < nearestWhole x + 1 := by linarith
  norm_cast at hbelow habove
  omega

namespace Binary64

/-! ## Rounding to a number -/

/-- The exponent of the unit in which a value is counted: the value has 53 binary digits in
that unit, or the unit is the least one. -/
def unitExponent (x : ℚ) : Int := max minExponent (Int.log 2 x - 52)

/-- The number nearest to `± x`, worked out on the value. -/
def nearest (negative : Bool) (x : ℚ) : Binary64 :=
  if x = 0 then zero negative
  else ofUnits negative (nearestWhole (x / 2 ^ unitExponent x)) (unitExponent x)

theorem lt_zpow_log {x : ℚ} : x < 2 ^ (Int.log 2 x + 1) := by
  have h := Int.lt_zpow_succ_log_self one_lt_two x
  simpa using h

theorem zpow_log_le {x : ℚ} (hx : 0 < x) : 2 ^ Int.log 2 x ≤ x := by
  have h := Int.zpow_log_le_self one_lt_two hx
  simpa using h

theorem log_eq_of_bounds {x : ℚ} {k : Int} (hlow : 2 ^ k ≤ x) (hhigh : x < 2 ^ (k + 1)) :
    Int.log 2 x = k := by
  have hx : 0 < x := lt_of_lt_of_le (by positivity) hlow
  have hle := (Int.zpow_le_iff_le_log one_lt_two (x := k) hx).mp (by simpa using hlow)
  have hlt := (Int.lt_zpow_iff_log_lt one_lt_two (x := k + 1) hx).mp (by simpa using hhigh)
  omega

/-! ## Rounding in whole numbers -/

variable {num den : Nat}

/-- A ratio in units of a power of two is a ratio. -/
theorem ratio_in_units (num den : Nat) (e : Int) :
    ((num * twoTo (-e).toNat : Nat) : ℚ) / (den * twoTo e.toNat : Nat) = num / den / 2 ^ e := by
  rw [zpow_eq_div two_ne_zero e, Nat.cast_mul, Nat.cast_mul, cast_twoTo, cast_twoTo, div_div,
    ← mul_div_assoc, div_div_eq_mul_div]

theorem mantissaAt_eq (num : Nat) (hden : 0 < den) (e : Int) :
    mantissaAt num den e = nearestWhole (num / den / 2 ^ e) := by
  have hpos : 0 < den * twoTo e.toNat := Nat.mul_pos hden (twoTo_pos _)
  exact (roundHalfEven_eq _ hpos).trans (by rw [ratio_in_units])

/-- The first digit of a ratio is as far from the point as its parts are apart in length, or
one place lower. -/
theorem log_ratio (hnum : 0 < num) (hden : 0 < den) :
    Int.log 2 (num / den : ℚ) =
      if (num / den : ℚ) < 2 ^ ((Nat.log2 num : Int) - Nat.log2 den)
      then (Nat.log2 num : Int) - Nat.log2 den - 1 else (Nat.log2 num : Int) - Nat.log2 den := by
  have hpos : (0 : ℚ) < den := Nat.cast_pos.mpr hden
  have hnumLow : (2 : ℚ) ^ (Nat.log2 num : Int) ≤ num := by
    exact_mod_cast Nat.log2_self_le hnum.ne'
  have hnumHigh : (num : ℚ) < 2 ^ ((Nat.log2 num : Int) + 1) := by
    exact_mod_cast Nat.lt_log2_self
  have hdenLow : (2 : ℚ) ^ (Nat.log2 den : Int) ≤ den := by
    exact_mod_cast Nat.log2_self_le hden.ne'
  have hdenHigh : (den : ℚ) < 2 ^ ((Nat.log2 den : Int) + 1) := by
    exact_mod_cast Nat.lt_log2_self
  have hlow : (2 : ℚ) ^ ((Nat.log2 num : Int) - Nat.log2 den - 1) ≤ num / den := by
    rw [le_div_iff₀ hpos]
    calc (2 : ℚ) ^ ((Nat.log2 num : Int) - Nat.log2 den - 1) * den
        ≤ 2 ^ ((Nat.log2 num : Int) - Nat.log2 den - 1) * 2 ^ ((Nat.log2 den : Int) + 1) := by
          gcongr
      _ = 2 ^ (Nat.log2 num : Int) := by
          rw [← zpow_add₀ two_ne_zero]
          congr 1
          omega
      _ ≤ num := hnumLow
  have hhigh : (num / den : ℚ) < 2 ^ ((Nat.log2 num : Int) - Nat.log2 den + 1) := by
    rw [div_lt_iff₀ hpos]
    calc (num : ℚ) < 2 ^ ((Nat.log2 num : Int) + 1) := hnumHigh
      _ = 2 ^ ((Nat.log2 num : Int) - Nat.log2 den + 1) * 2 ^ (Nat.log2 den : Int) := by
          rw [← zpow_add₀ two_ne_zero]
          congr 1
          omega
      _ ≤ 2 ^ ((Nat.log2 num : Int) - Nat.log2 den + 1) * den := by gcongr
  split
  · rename_i hbelow
    exact log_eq_of_bounds hlow (by rwa [sub_add_cancel])
  · rename_i habove
    exact log_eq_of_bounds (not_lt.mp habove) hhigh

theorem fittedExponent_eq (hnum : 0 < num) (hden : 0 < den) :
    fittedExponent num den = Int.log 2 (num / den : ℚ) - 52 := by
  have hbelow : ∀ guess : Int, num * twoTo (-guess).toNat < den * twoTo guess.toNat * twoTo 52 ↔
      (num / den : ℚ) < 2 ^ (guess + 52) := by
    intro guess
    have hpos : (0 : ℚ) < (den * twoTo guess.toNat : Nat) :=
      Nat.cast_pos.mpr (Nat.mul_pos hden (twoTo_pos _))
    have hpower : (2 : ℚ) ^ (guess + 52) = twoTo 52 * 2 ^ guess := by
      rw [cast_twoTo, ← zpow_natCast, ← zpow_add₀ two_ne_zero, add_comm]
      rfl
    rw [hpower, ← div_lt_iff₀ (by positivity), ← ratio_in_units, div_lt_iff₀ hpos,
      mul_comm (twoTo 52 : ℚ), ← Nat.cast_mul, Nat.cast_lt]
  unfold fittedExponent powerOfTwo
  simp only [hbelow, sub_add_cancel, log_ratio hnum hden]
  split <;> omega

/-- **A ratio is rounded by its value alone.** -/
theorem ofRatio_eq (negative : Bool) (num : Nat) (hden : 0 < den) :
    ofRatio negative num den = nearest negative (num / den) := by
  have hpos : (0 : ℚ) < den := Nat.cast_pos.mpr hden
  unfold nearest
  rcases Nat.eq_zero_or_pos num with rfl | hnum
  · rw [Nat.cast_zero, zero_div, if_pos rfl]
    rfl
  · have hne : (num / den : ℚ) ≠ 0 := (div_pos (Nat.cast_pos.mpr hnum) hpos).ne'
    rw [ofRatio, if_neg hnum.ne', if_neg hne, fittedExponent_eq hnum hden]
    simp only [mantissaAt_eq num hden, unitExponent]

variable {negative : Bool} {m : Nat} {e : Int} {x : ℚ}

theorem ofUnits_eq_finite_iff {n : Nat} {u : Int} :
    ofUnits negative n u = .finite negative m e ↔
      e ≤ maxExponent ∧ (n = 2 ^ 53 ∧ m = 2 ^ 52 ∧ e = u + 1 ∨ n ≠ 2 ^ 53 ∧ m = n ∧ e = u) := by
  have hcarried : twoTo 53 = 2 ^ 53 := rfl
  have hhalf : twoTo 52 = 2 ^ 52 := rfl
  have hfits : ∀ k i, (if i > maxExponent then infinite negative else finite negative k i) =
      finite negative m e ↔ e ≤ maxExponent ∧ m = k ∧ e = i := by
    intro k i
    split
    · rename_i hlarge
      refine iff_of_false (fun h => nomatch h) ?_
      rintro ⟨he, -, rfl⟩
      omega
    · rename_i hsmall
      rw [finite.injEq]
      constructor
      · rintro ⟨-, rfl, rfl⟩
        exact ⟨not_lt.mp hsmall, rfl, rfl⟩
      · rintro ⟨-, rfl, rfl⟩
        exact ⟨rfl, rfl, rfl⟩
  unfold ofUnits
  by_cases hcarry : n = 2 ^ 53
  · simp only [hcarried, hhalf, hfits, hcarry, if_true, true_and, ne_eq, not_true_eq_false,
      false_and, or_false]
  · simp only [hcarried, hfits, hcarry, if_false, false_and, ne_eq, not_false_eq_true,
      true_and, false_or]

/-- The sign of a value is the sign of the number. -/
theorem nearest_of_sign {other : Bool} (h : nearest negative x = .finite negative m e) :
    nearest other x = .finite other m e := by
  unfold nearest at h ⊢
  split
  · rename_i hx
    rw [if_pos hx] at h
    obtain ⟨-, rfl, rfl⟩ := Binary64.finite.inj h
    rfl
  · rename_i hx
    rw [if_neg hx] at h
    exact ofUnits_eq_finite_iff.mpr (ofUnits_eq_finite_iff.mp h)

/-! ## Values next to a number -/

/-- A number as it is kept: with 53 binary digits, or fewer where the unit is the least one. -/
def IsCanonical : Binary64 → Prop
  | .finite _ m e => m < 2 ^ 53 ∧ minExponent ≤ e ∧ e ≤ maxExponent ∧ (m < 2 ^ 52 → e = minExponent)
  | _ => True

instance : DecidablePred IsCanonical
  | .finite _ m e => inferInstanceAs (Decidable (m < 2 ^ 53 ∧ minExponent ≤ e ∧ e ≤ maxExponent ∧
      (m < 2 ^ 52 → e = minExponent)))
  | .infinite _ | .nan => .isTrue trivial

theorem isCanonical_ofUnits (negative : Bool) {n : Nat} {u : Int} (hn : n ≤ 2 ^ 53)
    (hu : minExponent ≤ u) (hfull : n < 2 ^ 52 → u = minExponent) :
    (ofUnits negative n u).IsCanonical := by
  have hcarried : twoTo 53 = 2 ^ 53 := rfl
  have hhalf : twoTo 52 = 2 ^ 52 := rfl
  unfold ofUnits
  by_cases hcarry : n = 2 ^ 53
  · simp only [hcarried, hhalf, hcarry, if_true]
    split
    · trivial
    · exact ⟨by norm_num, by omega, by omega, fun hless => absurd hless (lt_irrefl _)⟩
  · simp only [hcarried, hcarry, if_false]
    split
    · trivial
    · exact ⟨lt_of_le_of_ne hn hcarry, hu, by omega, hfull⟩

/-- In its own unit a value has 53 digits at most before the point. -/
theorem div_unit_lt (x : ℚ) : x / 2 ^ unitExponent x < 2 ^ 53 := by
  have hunit : (0 : ℚ) < 2 ^ unitExponent x := by positivity
  rw [div_lt_iff₀ hunit, ← zpow_natCast, ← zpow_add₀ two_ne_zero]
  refine lt_zpow_log.trans_le (zpow_le_zpow_right₀ one_le_two ?_)
  unfold unitExponent
  push_cast
  omega

/-- In its own unit a value has 53 digits before the point, unless the unit is the least one. -/
theorem le_div_unit (hx : 0 < x) (hlarge : unitExponent x ≠ minExponent) :
    2 ^ 52 ≤ x / 2 ^ unitExponent x := by
  have hunit : (0 : ℚ) < 2 ^ unitExponent x := by positivity
  have hfitted : unitExponent x = Int.log 2 x - 52 := by
    unfold unitExponent at hlarge ⊢
    omega
  rw [le_div_iff₀ hunit, hfitted, ← zpow_natCast, ← zpow_add₀ two_ne_zero]
  push_cast
  rw [add_sub_cancel]
  exact zpow_log_le hx

/-- **What is rounded to is a number as it is kept.** -/
theorem isCanonical_nearest (negative : Bool) (hx : 0 ≤ x) : (nearest negative x).IsCanonical := by
  unfold nearest
  split
  · cases negative <;> decide
  · rename_i hne
    have hpos : 0 < x := lt_of_le_of_ne hx (Ne.symm hne)
    have hnear := abs_le.mp (nearestWhole_near (x := x / 2 ^ unitExponent x) (by positivity))
    have hmost := div_unit_lt x
    refine isCanonical_ofUnits negative ?_ (le_max_left _ _) fun hless => ?_
    · have hcount : (nearestWhole (x / 2 ^ unitExponent x) : ℚ) < 2 ^ 53 + 1 := by linarith
      exact_mod_cast Nat.lt_succ_iff.mp (by exact_mod_cast hcount)
    · by_contra hlarge
      have hleast := le_div_unit hpos hlarge
      have hcount : (2 : ℚ) ^ 52 < nearestWhole (x / 2 ^ unitExponent x) + 1 := by linarith
      have hcount' : 2 ^ 52 < nearestWhole (x / 2 ^ unitExponent x) + 1 := by exact_mod_cast hcount
      omega

theorem isCanonical_ofRatio (negative : Bool) (num : Nat) {den : Nat} (hden : 0 < den) :
    (ofRatio negative num den).IsCanonical := by
  rw [ofRatio_eq negative num hden]
  exact isCanonical_nearest negative (by positivity)

theorem unitExponent_of_full (he : minExponent ≤ e) (hlow : 2 ^ (e + 52) ≤ x)
    (hhigh : x < 2 ^ (e + 53)) : unitExponent x = e := by
  have hlog : Int.log 2 x = e + 52 := log_eq_of_bounds hlow (by rwa [add_assoc])
  rw [unitExponent, hlog]
  omega

theorem unitExponent_of_small (hx : 0 < x) (hhigh : x < 2 ^ (minExponent + 53)) :
    unitExponent x = minExponent := by
  have hlog := (Int.lt_zpow_iff_log_lt one_lt_two (x := minExponent + 53) hx).mp
    (by simpa using hhigh)
  rw [unitExponent]
  omega

/-- A value in units that is off from a whole number by less than half. -/
theorem nearestWhole_in_units (hx : 0 ≤ x) (hnear : |x - m * 2 ^ e| < 2 ^ e / 2) :
    nearestWhole (x / 2 ^ e) = m := by
  have hunit : (0 : ℚ) < 2 ^ e := by positivity
  refine nearestWhole_of_near (div_nonneg hx hunit.le) ?_
  have hscaled : x / 2 ^ e - m = (x - m * 2 ^ e) / 2 ^ e := by field_simp
  rw [hscaled, abs_div, abs_of_pos hunit, div_lt_iff₀ hunit]
  linarith

/-- A value is counted in its own unit. -/
theorem nearest_in_units (hx : 0 < x) (hown : unitExponent x = e)
    (hnear : |x - m * 2 ^ e| < 2 ^ e / 2) : nearest negative x = ofUnits negative m e := by
  rw [nearest, if_neg hx.ne', hown, nearestWhole_in_units hx.le hnear]

theorem two_zpow_add (e : Int) (k : Nat) : (2 : ℚ) ^ (e + k) = 2 ^ k * 2 ^ e := by
  rw [zpow_add₀ two_ne_zero, zpow_natCast, mul_comm]

/-- Below the least number with 53 digits the units are half as large. A value there that is off
by less than a quarter of a unit comes to `2 ^ 53` of them, so it is rounded up to the number. -/
theorem nearest_below_full (hmin : minExponent < e) (hmax : e ≤ maxExponent)
    (hbelow : x < 2 ^ (e + 52)) (hnear : |x - 2 ^ 52 * 2 ^ e| < 2 ^ e / 4) :
    nearest negative x = .finite negative (2 ^ 52) e := by
  have hpos : (0 : ℚ) < 2 ^ (e - 1) := by positivity
  have hhalf : (2 : ℚ) ^ e = 2 * 2 ^ (e - 1) := by
    rw [zpow_sub_one₀ two_ne_zero]
    ring
  have hnear' : |x - (2 ^ 53 : Nat) * 2 ^ (e - 1)| < 2 ^ (e - 1) / 2 := by
    rw [hhalf, abs_lt] at hnear
    push_cast
    rw [abs_lt]
    constructor <;> linarith [hnear.1, hnear.2]
  have hlow := (abs_lt.mp hnear').1
  push_cast at hlow
  have hleast : (2 : ℚ) ^ (e - 1 + 52) ≤ x := by
    have hpower := two_zpow_add (e - 1) 52
    push_cast at hpower
    rw [hpower]
    linarith
  have hown : unitExponent x = e - 1 :=
    unitExponent_of_full (by omega) hleast (by rwa [sub_add_eq_add_sub, add_sub_assoc])
  rw [nearest_in_units (by linarith) hown hnear']
  exact ofUnits_eq_finite_iff.mpr ⟨hmax, Or.inl ⟨rfl, rfl, (sub_add_cancel e 1).symm⟩⟩

/-- What is less than half a unit off from a number is rounded to it; where the number is the
least with 53 digits, the units below are half as large. -/
theorem nearest_of_near (hcanonical : (finite negative m e).IsCanonical) (hm : 0 < m)
    (hnear : |x - m * 2 ^ e| < 2 ^ e / 2)
    (hleast : m = 2 ^ 52 → |x - m * 2 ^ e| < 2 ^ e / 4) :
    nearest negative x = .finite negative m e := by
  obtain ⟨hdigits, hmin, hmax, hsmall⟩ := hcanonical
  have hunit : (0 : ℚ) < 2 ^ e := by positivity
  have hone : (1 : ℚ) ≤ m := by exact_mod_cast hm
  have hmost : (m : ℚ) + 1 ≤ 2 ^ 53 := by exact_mod_cast hdigits
  obtain ⟨hlow, hhigh⟩ := abs_lt.mp hnear
  have hx : 0 < x := by nlinarith
  have hbelow : x < 2 ^ (e + 53) := by
    have hpower := two_zpow_add e 53
    push_cast at hpower
    rw [hpower]
    nlinarith
  have hstay : unitExponent x = e → nearest negative x = .finite negative m e := by
    intro hown
    rw [nearest_in_units hx hown hnear]
    exact ofUnits_eq_finite_iff.mpr ⟨hmax, Or.inr ⟨hdigits.ne, rfl, rfl⟩⟩
  rcases le_or_gt ((2 : ℚ) ^ (e + 52)) x with hfull | hless
  · exact hstay (unitExponent_of_full hmin hfull hbelow)
  by_cases hbottom : e = minExponent
  · subst hbottom
    exact hstay (unitExponent_of_small hx hbelow)
  have hfull : 2 ^ 52 ≤ m := not_lt.mp fun hfew => hbottom (hsmall hfew)
  obtain rfl : m = 2 ^ 52 := by
    have hpower := two_zpow_add e 52
    push_cast at hpower
    have hclose : (m : ℚ) < 2 ^ 52 + 1 := by
      rw [hpower] at hless
      nlinarith
    have hclose' : m < 2 ^ 52 + 1 := by exact_mod_cast hclose
    omega
  have hquarter := hleast rfl
  push_cast at hquarter
  exact nearest_below_full (by omega) hmax hless hquarter

theorem two_zpow_le_ten_zpow : (2 : ℚ) ^ (1024 : Int) ≤ 10 ^ (400 : Int) := by
  rw [zpow_ofNat, zpow_ofNat]
  calc (2 : ℚ) ^ 1024 = (2 ^ 64) ^ 16 := by rw [← pow_mul]
    _ ≤ (10 ^ 25) ^ 16 := by gcongr; norm_num
    _ = 10 ^ 400 := by rw [← pow_mul]

theorem ten_zpow_le_two_zpow : (10 : ℚ) ^ (-400 : Int) ≤ 2 ^ (-1075 : Int) := by
  rw [zpow_neg, zpow_neg, zpow_ofNat, zpow_ofNat]
  refine inv_anti₀ (by positivity) ?_
  calc (2 : ℚ) ^ 1075 = (2 ^ 43) ^ 25 := by rw [← pow_mul]
    _ ≤ (10 ^ 16) ^ 25 := by gcongr; norm_num
    _ = 10 ^ 400 := by rw [← pow_mul]

/-- Only what is neither very large nor very small is rounded to a number that is finite and
not zero. -/
theorem bounds_of_nearest (hx : 0 ≤ x) (hm : m ≠ 0)
    (h : nearest negative x = .finite negative m e) :
    10 ^ (-400 : Int) ≤ x ∧ x < 10 ^ (400 : Int) := by
  have hne : x ≠ 0 := by
    rintro rfl
    rw [nearest, if_pos rfl, zero] at h
    exact hm (Binary64.finite.inj h).2.1.symm
  have hpos : 0 < x := lt_of_le_of_ne hx hne.symm
  rw [nearest, if_neg hne] at h
  obtain ⟨hmax, hcarried⟩ := ofUnits_eq_finite_iff.mp h
  have hdigits : nearestWhole (x / 2 ^ unitExponent x) ≠ 0 := by omega
  have hunit : (0 : ℚ) < 2 ^ unitExponent x := by positivity
  have hleast : minExponent ≤ unitExponent x := le_max_left ..
  have hlog : Int.log 2 x - 52 ≤ unitExponent x := le_max_right ..
  constructor
  · have hone : (1 : ℚ) ≤ nearestWhole (x / 2 ^ unitExponent x) := by
      exact_mod_cast Nat.one_le_iff_ne_zero.mpr hdigits
    have hnear := (abs_le.mp (nearestWhole_near (div_nonneg hx hunit.le))).1
    have hhalf : 1 / 2 ≤ x / 2 ^ unitExponent x := by linarith
    rw [le_div_iff₀ hunit] at hhalf
    calc (10 : ℚ) ^ (-400 : Int) ≤ 2 ^ (minExponent - 1) := ten_zpow_le_two_zpow
      _ = 1 / 2 * 2 ^ minExponent := by
          rw [zpow_sub_one₀ two_ne_zero, mul_comm, one_div]
      _ ≤ 1 / 2 * 2 ^ unitExponent x := by gcongr; exact one_le_two
      _ ≤ x := hhalf
  · calc x < 2 ^ (Int.log 2 x + 1) := lt_zpow_log
      _ ≤ 2 ^ (1024 : Int) := by
          refine zpow_le_zpow_right₀ one_le_two ?_
          unfold maxExponent at hmax
          omega
      _ ≤ 10 ^ (400 : Int) := two_zpow_le_ten_zpow

end Binary64

end Triage.Number
