/-!
# Rounding a ratio to a whole number
-/

namespace Triage.Number

/-- The whole number nearest to `num / den`; a tie goes to the even one. -/
def roundHalfEven (num den : Nat) : Nat :=
  let q := num / den
  let r := num % den
  if 2 * r < den then q
  else if den < 2 * r then q + 1
  else if q % 2 = 0 then q else q + 1

/-- Rounding is off by half a unit at most. -/
theorem roundHalfEven_near (num den : Nat) (h : 0 < den) :
    2 * num ≤ 2 * (roundHalfEven num den * den) + den ∧
      2 * (roundHalfEven num den * den) ≤ 2 * num + den := by
  have hdiv := Nat.div_add_mod num den
  have hlt := Nat.mod_lt num h
  rw [Nat.mul_comm] at hdiv
  have hsucc : (num / den + 1) * den = num / den * den + den := by
    rw [Nat.add_mul, Nat.one_mul]
  simp only [roundHalfEven]
  split
  · omega
  · split
    · rw [hsucc]; omega
    · split
      · omega
      · rw [hsucc]; omega

theorem roundHalfEven_mul (n den : Nat) (h : 0 < den) : roundHalfEven (n * den) den = n := by
  simp [roundHalfEven, Nat.mul_div_cancel _ h, h]

end Triage.Number
