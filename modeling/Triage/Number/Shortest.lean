import Triage.Number.Binary64
import Triage.Number.Decimal

/-!
# The fewest digits that read back

A finite number is written with the fewest significant digits that still round
to it. On each decimal grid only the two neighbours of the number can do; the
first grid where one of them reads back decides, and of two that do the nearer
one is taken.
-/

namespace Triage.Number

/-- `digits · 10^exponent`. -/
structure Scaled where
  digits : Nat
  exponent : Int
  deriving DecidableEq, Repr

namespace Scaled

/-- Ten to the power `e`, as a ratio. -/
def powerOfTen (e : Int) : Nat × Nat := (tenTo e.toNat, tenTo (-e).toNat)

def ratio (x : Scaled) : Nat × Nat :=
  let (up, down) := powerOfTen x.exponent
  (x.digits * up, down)

/-- Drops trailing zeros from the digits; `fuel` bounds how many. -/
def stripZeros : Nat → Scaled → Scaled
  | 0, x => x
  | fuel + 1, x =>
    if x.digits ≠ 0 ∧ x.digits % 10 = 0 then
      stripZeros fuel ⟨x.digits / 10, x.exponent + 1⟩
    else x

end Scaled

/-- The least `j` from `j` on with `den ≤ num · 10^j`; `fuel` bounds the search. -/
def raiseToUnit : Nat → Nat → Nat → Nat → Nat
  | 0, _, _, j => j
  | fuel + 1, num, den, j => if den ≤ num then j else raiseToUnit fuel (num * 10) den (j + 1)

/-- The power of ten of the first significant digit of `num / den`. -/
def leadingPower (num den : Nat) : Int :=
  if den ≤ num then (decimalDigits (num / den)).length - 1
  else -(raiseToUnit 400 num den 0 : Int)

namespace Binary64

/-- Whether the ratio of a decimal reads back as the positive number given. -/
def readsBack (mantissa : Nat) (exponent : Int) (x : Scaled) : Bool :=
  let (n, d) := x.ratio
  ofRatio false n d == .finite false mantissa exponent

/-- The lower neighbour of a number on the grid of decimals in units of `10^e`. -/
def gridFloor (mantissa : Nat) (exponent e : Int) : Scaled :=
  let (n, d) := ratio mantissa exponent
  let (up, down) := Scaled.powerOfTen e
  ⟨n * down / (d * up), e⟩

/-- Where a number stands relative to the middle between `k` and `k + 1` units of `10^e`. -/
def compareMiddle (mantissa : Nat) (exponent : Int) (k : Nat) (e : Int) : Ordering :=
  let (n, d) := ratio mantissa exponent
  let (up, down) := Scaled.powerOfTen e
  compare (2 * n * down) ((2 * k + 1) * (d * up))

/-- Tries the grid with `k` digits and then finer ones, `fuel` of them; `power`
is the power of ten of the first digit. -/
def shortestFrom (mantissa : Nat) (exponent : Int) (power : Int) : Nat → Nat → Scaled
  | 0, k => gridFloor mantissa exponent (power - k + 1)
  | fuel + 1, k =>
    let below := gridFloor mantissa exponent (power - k + 1)
    let above : Scaled := ⟨below.digits + 1, below.exponent⟩
    match readsBack mantissa exponent below, readsBack mantissa exponent above with
    | true, false => below
    | false, true => above
    | true, true =>
      match compareMiddle mantissa exponent below.digits below.exponent with
      | .lt => below
      | .gt => above
      | .eq => if below.digits % 2 = 0 then below else above
    | false, false => shortestFrom mantissa exponent power fuel (k + 1)

/-- The fewest digits that read back as a finite positive number. -/
def shortest (mantissa : Nat) (exponent : Int) : Scaled :=
  if mantissa = 0 then ⟨0, 0⟩
  else
    let (n, d) := ratio mantissa exponent
    Scaled.stripZeros 400 (shortestFrom mantissa exponent (leadingPower n d) 17 1)

end Binary64

end Triage.Number
