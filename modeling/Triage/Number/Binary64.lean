import Triage.Number.Power
import Triage.Number.Rounding

/-!
# Binary64 numbers, exactly

A floating-point number is kept as the sign, mantissa and exponent it stands
for, so that its order, its rounding and its decimal text are plain arithmetic
on whole numbers. Every finite number made here has its mantissa below `2^53`;
one below `2^52` has the least exponent, so equal representations are equal
numbers and the other way round, the two zeros apart.
-/

namespace Triage.Number

/-- A binary64 number: `± mantissa · 2^exponent`, an infinity, or no number. -/
inductive Binary64 where
  | finite (negative : Bool) (mantissa : Nat) (exponent : Int)
  | infinite (negative : Bool)
  | nan
  deriving DecidableEq, Repr, Inhabited

namespace Binary64

def minExponent : Int := -1074

def maxExponent : Int := 971

def zero (negative : Bool) : Binary64 := .finite negative 0 minExponent

/-- Two to the power `e`, as a ratio. -/
def powerOfTwo (e : Int) : Nat × Nat := (twoTo e.toNat, twoTo (-e).toNat)

/-- The ratio `num / den` counted in units of `2^e`, rounded to nearest, ties to even. -/
def mantissaAt (num den : Nat) (e : Int) : Nat :=
  let (up, down) := powerOfTwo e
  roundHalfEven (num * down) (den * up)

/-- The exponent of the unit in which `num / den` has 53 binary digits before the point. -/
def fittedExponent (num den : Nat) : Int :=
  let guess : Int := (Nat.log2 num : Int) - Nat.log2 den - 52
  let (up, down) := powerOfTwo guess
  if num * down < den * up * twoTo 52 then guess - 1 else guess

/-- A number of so many units: of twice the unit where that is one binary digit too
many, and infinite where the unit is too large. -/
def ofUnits (negative : Bool) (m : Nat) (e : Int) : Binary64 :=
  let (m, e) := if m = twoTo 53 then (twoTo 52, e + 1) else (m, e)
  if e > maxExponent then .infinite negative else .finite negative m e

/-- The number nearest to `± num / den`; a tie goes to the even mantissa, and
what is too large goes to infinity. -/
def ofRatio (negative : Bool) (num den : Nat) : Binary64 :=
  if num = 0 then zero negative
  else
    let e := max minExponent (fittedExponent num den)
    ofUnits negative (mantissaAt num den e) e

/-- The number nearest to a whole number. -/
def ofInt (n : Int) : Binary64 := ofRatio (n < 0) n.natAbs 1

/-- The size of a finite number as a ratio. -/
def ratio (mantissa : Nat) (exponent : Int) : Nat × Nat :=
  let (up, down) := powerOfTwo exponent
  (mantissa * up, down)

/-- Whether the number is neither infinite nor no number at all. -/
def isFinite : Binary64 → Bool
  | .finite .. => true
  | _ => false

def isZero : Binary64 → Bool
  | .finite _ 0 _ => true
  | _ => false

/-- The finite number as a signed ratio. -/
def signedRatio (negative : Bool) (mantissa : Nat) (exponent : Int) : Int × Nat :=
  let (n, d) := ratio mantissa exponent
  (if negative then -n else n, d)

/-- Where the number stands relative to a whole number; no number stands nowhere. -/
def compareInt (x : Binary64) (n : Int) : Option Ordering :=
  match x with
  | .nan => none
  | .infinite negative => some (if negative then .lt else .gt)
  | .finite s m e =>
    let (num, den) := signedRatio s m e
    some (compare num (n * den))

/-- Whether two numbers are equal as numbers: the zeros are, and nothing equals `nan`. -/
def sameNumber (x y : Binary64) : Bool :=
  match x, y with
  | .finite s m e, .finite s' m' e' =>
    let (a, b) := signedRatio s m e
    let (c, d) := signedRatio s' m' e'
    a * d == c * b
  | .infinite s, .infinite s' => s == s'
  | _, _ => false

/-- The part before the point, without the sign. -/
def wholePart (mantissa : Nat) (exponent : Int) : Nat :=
  let (n, d) := ratio mantissa exponent
  n / d

/-- The whole number next to zero from here: what stands before the point. -/
def truncate? : Binary64 → Option Int
  | .finite s m e => some (if s then -(wholePart m e : Int) else wholePart m e)
  | _ => none

/-- Whether a finite number has nothing after the point. -/
def isWhole : Binary64 → Bool
  | .finite _ m e => let (n, d) := ratio m e; n % d == 0
  | _ => false

/-- A finite number times a million, in millionths: the whole part exactly, the
rest multiplied as a binary64 number, and the sum rounded with ties to even. -/
def millionths? : Binary64 → Option Int
  | .finite s m e =>
    let (n, d) := ratio m e
    let whole := n / d
    let part := ofRatio false ((n % d) * 1000000) d
    let size := match part with
      | .finite _ pm pe =>
        let (pn, pd) := ratio pm pe
        roundHalfEven (whole * 1000000 * pd + pn) pd
      | _ => whole * 1000000
    some (if s then -(size : Int) else size)
  | _ => none

end Binary64

end Triage.Number
