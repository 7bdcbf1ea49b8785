import Triage.Number.Power

/-!
# Whole numbers in decimal digits
-/

namespace Triage.Number

/-- The digit for a number below ten. -/
def digitChar (d : Nat) : Char := Char.ofNat (48 + d)

def digitValue (c : Char) : Nat := c.toNat - 48

/-- The digits of a number in front of others. -/
def digitsBefore (n : Nat) (rest : List Char) : List Char :=
  if n < 10 then digitChar n :: rest else digitsBefore (n / 10) (digitChar (n % 10) :: rest)

/-- The digits of a number, without leading zeros. -/
def decimalDigits (n : Nat) : List Char := digitsBefore n []

theorem digitsBefore_eq (n : Nat) (rest : List Char) :
    digitsBefore n rest = decimalDigits n ++ rest := by
  induction n using Nat.strongRecOn generalizing rest with
  | _ n ih =>
    unfold decimalDigits digitsBefore
    split
    · rfl
    · rw [ih (n / 10) (by omega), ih (n / 10) (by omega) [_], List.append_assoc]
      rfl

/-- The last digit stands behind the digits of the tenth part. -/
theorem decimalDigits_of_ten_le {n : Nat} (h : 10 ≤ n) :
    decimalDigits n = decimalDigits (n / 10) ++ [digitChar (n % 10)] := by
  rw [decimalDigits, digitsBefore, if_neg (by omega), digitsBefore_eq]

/-- The number written by a row of digits; nothing at all is zero. -/
def ofDigits (cs : List Char) : Nat := cs.foldl (fun n c => 10 * n + digitValue c) 0

theorem ofDigits_append_singleton (cs : List Char) (c : Char) :
    ofDigits (cs ++ [c]) = 10 * ofDigits cs + digitValue c := by
  simp [ofDigits]

theorem digitValue_digitChar {d : Nat} (h : d < 10) : digitValue (digitChar d) = d := by
  have : ∀ d : Fin 10, digitValue (digitChar d) = d := by decide
  exact this ⟨d, h⟩

/-- What is written reads back. -/
theorem ofDigits_decimalDigits (n : Nat) : ofDigits (decimalDigits n) = n := by
  induction n using Nat.strongRecOn with
  | _ n ih =>
    by_cases h : n < 10
    · rw [decimalDigits, digitsBefore, if_pos h]
      simp [ofDigits, digitValue_digitChar h]
    · rw [decimalDigits_of_ten_le (by omega), ofDigits_append_singleton, ih (n / 10) (by omega),
        digitValue_digitChar (by omega)]
      omega

/-- A whole number of either sign in decimal digits, however many these are. -/
def decimalText (n : Int) : String :=
  match n with
  | .ofNat k => String.ofList (decimalDigits k)
  | .negSucc k => String.ofList ('-' :: decimalDigits (k + 1))

/-! ## The limit for digits -/

/-- The most digits of a whole number that are read or written. -/
def mostDigits : Nat := 4300

/-- Whether a whole number has no more digits than are written. The bound is never worked out
in a proof. -/
@[irreducible]
def fitsDigits (n : Int) : Bool := n.natAbs < tenTo mostDigits

theorem fitsDigits_iff {n : Int} : fitsDigits n = true ↔ n.natAbs < tenTo mostDigits := by
  unfold fitsDigits
  exact decide_eq_true_iff

/-- A number of no more than nineteen digits is written. -/
theorem fitsDigits_of_natAbs_lt {n : Int} (h : n.natAbs < 10000000000000000000) :
    fitsDigits n = true :=
  fitsDigits_iff.mpr (Nat.lt_of_lt_of_le h (tenTo_le (by decide : 19 ≤ mostDigits)))

/-- At least `width` digits, filled with zeros from the left. -/
def paddedDigits (width n : Nat) : List Char :=
  let ds := decimalDigits n
  List.replicate (width - ds.length) '0' ++ ds

end Triage.Number
