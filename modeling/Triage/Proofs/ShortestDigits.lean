import Mathlib.Data.Nat.Cast.Order.Field
import Triage.Number.Shortest
import Triage.Proofs.Digits
import Triage.Proofs.NearestNumbers

/-!
# The fewest digits read back

The digits that a number is written with are looked for on finer and finer grids of decimals,
seventeen of them. On the last one at the latest the search is over: the grid is finer than the
numbers are apart, so one of the two neighbours on it is near enough
(`Binary64.readsBack_neighbour`). Hence what the search finds is always read back
(`Binary64.nearest_shortest`), not only where the last grid happens to do.
-/

namespace Triage.Number

/-! ## Decimals -/

/-- The value of a decimal. -/
def Scaled.value (x : Scaled) : ℚ := x.digits * 10 ^ x.exponent

theorem ratio_in_tens (num den : Nat) (e : Int) :
    ((num * tenTo (-e).toNat : Nat) : ℚ) / (den * tenTo e.toNat : Nat) = num / den / 10 ^ e := by
  rw [zpow_eq_div (by norm_num) e, Nat.cast_mul, Nat.cast_mul, cast_tenTo, cast_tenTo, div_div,
    ← mul_div_assoc, div_div_eq_mul_div]

theorem Scaled.ratio_eq (x : Scaled) : (x.ratio.1 : ℚ) / x.ratio.2 = x.value := by
  unfold ratio powerOfTen value
  rw [zpow_eq_div (by norm_num) x.exponent, Nat.cast_mul, cast_tenTo, cast_tenTo, mul_div_assoc]

theorem Scaled.ratio_snd_pos (x : Scaled) : 0 < x.ratio.2 := tenTo_pos _

theorem Scaled.value_stripZeros (fuel : Nat) (x : Scaled) :
    (stripZeros fuel x).value = x.value := by
  induction fuel generalizing x with
  | zero => rfl
  | succ fuel ih =>
      unfold stripZeros
      split
      · rename_i hzeros
        have hten : x.digits = x.digits / 10 * 10 := by omega
        rw [ih, value, value, zpow_add_one₀ (by norm_num), congrArg (Nat.cast (R := ℚ)) hten]
        push_cast
        ring
      · rfl

/-! ## The first digit -/

theorem le_raiseToUnit (fuel : Nat) (num den j : Nat) (henough : den ≤ num * 10 ^ fuel) :
    j ≤ raiseToUnit fuel num den j ∧ den ≤ num * 10 ^ (raiseToUnit fuel num den j - j) := by
  induction fuel generalizing num j with
  | zero =>
      rw [raiseToUnit, Nat.sub_self]
      exact ⟨Nat.le_refl j, henough⟩
  | succ fuel ih =>
      rw [raiseToUnit]
      split
      · rename_i hunit
        rw [Nat.sub_self, pow_zero, Nat.mul_one]
        exact ⟨Nat.le_refl j, hunit⟩
      · obtain ⟨hle, hraised⟩ := ih (num * 10) (j + 1) (by rwa [mul_assoc, ← pow_succ'])
        refine ⟨by omega, ?_⟩
        rw [mul_assoc, ← pow_succ'] at hraised
        rwa [show raiseToUnit fuel (num * 10) den (j + 1) - j =
          raiseToUnit fuel (num * 10) den (j + 1) - (j + 1) + 1 by omega]

/-- A ratio is its first digit's power of ten at least, unless it is tiny. -/
theorem zpow_leadingPower_le {num den : Nat} (hden : 0 < den)
    (henough : (10 : ℚ) ^ (-400 : Int) ≤ num / den) :
    (10 : ℚ) ^ leadingPower num den ≤ num / den := by
  have hpos : (0 : ℚ) < den := Nat.cast_pos.mpr hden
  have hunit : den ≤ num * 10 ^ 400 := by
    rw [zpow_neg, zpow_ofNat, le_div_iff₀ hpos, inv_mul_le_iff₀ (by positivity),
      mul_comm] at henough
    exact_mod_cast henough
  unfold leadingPower
  split
  · rename_i hwhole
    have hquotient : 0 < num / den := Nat.div_pos hwhole hden
    have hlength : 0 < (decimalDigits (num / den)).length :=
      List.length_pos_iff.mpr (decimalDigits_ne_nil _)
    have hcast : ((decimalDigits (num / den)).length - 1 : Int) =
        ((decimalDigits (num / den)).length - 1 : Nat) := by omega
    rw [hcast, zpow_natCast]
    calc (10 : ℚ) ^ ((decimalDigits (num / den)).length - 1) ≤ (num / den : Nat) := by
          exact_mod_cast pow_le_of_length_decimalDigits hquotient
      _ ≤ num / den := Nat.cast_div_le
  · obtain ⟨-, hraised⟩ := le_raiseToUnit 400 num den 0 hunit
    rw [Nat.sub_zero] at hraised
    rw [zpow_neg, zpow_natCast, le_div_iff₀ hpos, inv_mul_le_iff₀ (by positivity), mul_comm]
    exact_mod_cast hraised

namespace Binary64

variable {m k fuel : Nat} {e p : Int}

theorem ratio_eq (m : Nat) (e : Int) : ((ratio m e).1 : ℚ) / (ratio m e).2 = m * 2 ^ e := by
  unfold ratio powerOfTwo
  rw [zpow_eq_div two_ne_zero e, Nat.cast_mul, cast_twoTo, cast_twoTo, mul_div_assoc]

theorem ratio_snd_pos (m : Nat) (e : Int) : 0 < (ratio m e).2 := twoTo_pos _

theorem readsBack_iff {x : Scaled} :
    readsBack m e x = true ↔ nearest false x.value = .finite false m e := by
  unfold readsBack
  rw [beq_iff_eq, ofRatio_eq false _ x.ratio_snd_pos, x.ratio_eq]

/-! ## The grids -/

theorem digits_gridFloor (m : Nat) (e p : Int) :
    (gridFloor m e p).digits = ⌊(m * 2 ^ e / 10 ^ p : ℚ)⌋₊ := by
  have hfloor := Nat.floor_div_eq_div (K := ℚ) ((ratio m e).1 * tenTo (-p).toNat)
    ((ratio m e).2 * tenTo p.toNat)
  rw [ratio_in_tens, ratio_eq] at hfloor
  exact hfloor.symm

/-- A number lies between its neighbours on a grid. -/
theorem gridFloor_near (m : Nat) (e p : Int) :
    (gridFloor m e p).value ≤ m * 2 ^ e ∧
      (m * 2 ^ e : ℚ) < (gridFloor m e p).value + 10 ^ p := by
  have hunit : (0 : ℚ) < 10 ^ p := by positivity
  have hcount : (0 : ℚ) ≤ m * 2 ^ e / 10 ^ p := by positivity
  have hvalue : (gridFloor m e p).value = ⌊(m * 2 ^ e / 10 ^ p : ℚ)⌋₊ * 10 ^ p := by
    rw [Scaled.value, digits_gridFloor]
    rfl
  have hlow := Nat.floor_le hcount
  have hhigh := Nat.lt_floor_add_one (m * 2 ^ e / 10 ^ p : ℚ)
  rw [le_div_iff₀ hunit] at hlow
  rw [div_lt_iff₀ hunit] at hhigh
  rw [hvalue]
  exact ⟨hlow, by linarith⟩

/-- The upper neighbour of a number on a grid. -/
def gridCeiling (m : Nat) (e p : Int) : Scaled := ⟨(gridFloor m e p).digits + 1, p⟩

theorem value_gridCeiling (m : Nat) (e p : Int) :
    (gridCeiling m e p).value = (gridFloor m e p).value + 10 ^ p := by
  have hunit : (gridFloor m e p).exponent = p := rfl
  rw [gridCeiling, Scaled.value, Scaled.value, hunit]
  push_cast
  ring

/-- On a grid of seventeen digits a decimal is near enough if it is off by half a unit at most. -/
theorem readsBack_of_near (hcanonical : (finite false m e).IsCanonical) (hm : 0 < m)
    (hfirst : (10 : ℚ) ^ p ≤ m * 2 ^ e) {x : Scaled}
    (hx : |x.value - m * 2 ^ e| ≤ 10 ^ (p - 16) / 2) : readsBack m e x = true := by
  have hunit : (0 : ℚ) < 2 ^ e := by positivity
  have hspacing : (10 : ℚ) ^ (p - 16) = 10 ^ p / 10 ^ 16 := by
    rw [zpow_sub₀ (by norm_num)]
    norm_num
  have hdigits : (m : ℚ) < 2 ^ 53 := by exact_mod_cast hcanonical.1
  have hfine : (10 : ℚ) ^ (p - 16) ≤ m / 10 ^ 16 * 2 ^ e := by
    rw [hspacing, div_mul_eq_mul_div]
    gcongr
  refine readsBack_iff.mpr (nearest_of_near hcanonical hm ?_ fun hleast => ?_)
  · have hless : (m : ℚ) / 10 ^ 16 < 1 := by
      rw [div_lt_one (by positivity)]
      exact hdigits.trans (by norm_num)
    nlinarith
  · have hless : (m : ℚ) / 10 ^ 16 < 1 / 2 := by
      rw [hleast]
      norm_num
    nlinarith

/-- **Seventeen digits are enough**: one of the neighbours reads back. -/
theorem readsBack_neighbour (hcanonical : (finite false m e).IsCanonical) (hm : 0 < m)
    (hfirst : (10 : ℚ) ^ p ≤ m * 2 ^ e) :
    readsBack m e (gridFloor m e (p - 16)) = true
      ∨ readsBack m e (gridCeiling m e (p - 16)) = true := by
  obtain ⟨hlow, hhigh⟩ := gridFloor_near m e (p - 16)
  have habove := value_gridCeiling m e (p - 16)
  rcases le_or_gt ((m * 2 ^ e : ℚ) - (gridFloor m e (p - 16)).value) (10 ^ (p - 16) / 2) with h | h
  · refine Or.inl (readsBack_of_near hcanonical hm hfirst ?_)
    rw [abs_le]
    constructor <;> linarith
  · refine Or.inr (readsBack_of_near hcanonical hm hfirst ?_)
    rw [habove, abs_le]
    constructor <;> linarith

/-! ## The search -/

/-- The search goes on until a neighbour reads back, on the seventeenth grid at the latest. -/
theorem readsBack_shortestFrom
    (hlast : readsBack m e (gridFloor m e (p - 16)) = true
      ∨ readsBack m e (gridCeiling m e (p - 16)) = true)
    (hk : k ≤ 17) (hfuel : 17 < k + fuel) : readsBack m e (shortestFrom m e p fuel k) = true := by
  induction fuel generalizing k with
  | zero => omega
  | succ fuel ih =>
      unfold shortestFrom
      simp only
      split
      · assumption
      · assumption
      · split
        · assumption
        · assumption
        · split <;> assumption
      · rename_i hbelow habove
        refine ih ?_ (by omega)
        by_contra hover
        obtain rfl : k = 17 := by omega
        have hgrid : p - (17 : Nat) + 1 = p - 16 := by omega
        rw [hgrid] at hbelow habove
        rcases hlast with h | h
        · rw [hbelow] at h
          cases h
        · exact absurd (h.symm.trans habove) (by decide)

theorem not_tiny (hcanonical : (finite false m e).IsCanonical) (hm : 0 < m) :
    (10 : ℚ) ^ (-400 : Int) ≤ m * 2 ^ e := by
  have hone : (1 : ℚ) ≤ m := by exact_mod_cast hm
  calc (10 : ℚ) ^ (-400 : Int) ≤ 2 ^ (-1075 : Int) := ten_zpow_le_two_zpow
    _ ≤ 2 ^ e := by
        refine zpow_le_zpow_right₀ one_le_two ?_
        have hleast := hcanonical.2.1
        unfold minExponent at hleast
        omega
    _ ≤ m * 2 ^ e := le_mul_of_one_le_left (by positivity) hone

/-- **The digits that a number is written with are read back as that number.** -/
theorem nearest_shortest (hcanonical : (finite false m e).IsCanonical) (hm : 0 < m) :
    nearest false (shortest m e).value = .finite false m e := by
  have hfirst : (10 : ℚ) ^ leadingPower (ratio m e).1 (ratio m e).2 ≤ m * 2 ^ e := by
    have htiny := not_tiny hcanonical hm
    rw [← ratio_eq] at htiny ⊢
    exact zpow_leadingPower_le (ratio_snd_pos m e) htiny
  have hfound : readsBack m e (shortestFrom m e (leadingPower (ratio m e).1 (ratio m e).2) 17 1) =
      true :=
    readsBack_shortestFrom (readsBack_neighbour hcanonical hm hfirst) (by omega) (by omega)
  unfold shortest
  rw [if_neg hm.ne']
  simp only [Scaled.value_stripZeros]
  exact readsBack_iff.mp hfound

end Binary64

end Triage.Number
