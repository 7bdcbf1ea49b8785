import Triage.Number.Text

/-!
# Numbers with a given number of places

A number is rounded to so many places after the point, or to so many digits
altogether, to nearest with ties to even.
-/

namespace Triage.Number

/-- Digits with a point before the last `places` of them. The point stands only
where digits follow, unless `point` asks for it. -/
def withPoint (point : Bool) (places : Nat) (ds : List Char) : List Char :=
  let whole := ds.take (ds.length - places)
  let rest := ds.drop (ds.length - places)
  if rest.isEmpty && !point then whole else whole ++ '.' :: rest

/-- How many of `places` are worked out when the ratio is exact after `enough`: the
others are zeros. -/
def workedOut (places enough : Nat) ( isExact : Bool) : Nat :=
  if enough < places && isExact then enough else places

/-- The ratio `num / den` with `places` digits after the point. Below a power of two
there are no more digits than its exponent says. -/
def fixedPlaces (point : Bool) (places num den : Nat) : List Char :=
  let enough := den.log2
  let kept := workedOut places enough (num * tenTo enough % den == 0)
  let ds := paddedDigits (kept + 1) (roundHalfEven (num * tenTo kept) den)
  withPoint point places (ds ++ List.replicate (places - kept) '0')

/-- A ratio in units of a power of ten, rounded. -/
def roundedAt (num den : Nat) (power : Int) : Nat :=
  roundHalfEven (num * tenTo (-power).toNat) (den * tenTo power.toNat)

/-- Whether a ratio is a whole number of units of a power of ten. -/
def isExactAt (num den : Nat) (power : Int) : Bool :=
  num * tenTo (-power).toNat % (den * tenTo power.toNat) == 0

/-- The first `places + 1` digits of a ratio, and the power of ten of the first of
them. Below a power of two there are no more digits than above and below it. -/
def leadingDigits (places num den : Nat) : List Char × Int :=
  if num = 0 then (List.replicate (places + 1) '0', 0)
  else
    let power := leadingPower num den
    let enough := num.log2 + den.log2 + 1
    let kept := workedOut places enough (isExactAt num den (power - enough))
    let n := roundedAt num den (power - kept)
    let (n, power) := if n = tenTo (kept + 1) then (tenTo kept, power + 1) else (n, power)
    (paddedDigits (kept + 1) n ++ List.replicate (places - kept) '0', power)

/-- The ratio with one digit before the point, `places` after it, and an exponent. -/
def scientificPlaces (point : Bool) (places num den : Nat) : List Char :=
  let (ds, power) := leadingDigits places num den
  withPoint point places ds ++ exponentText numberLayout power

/-- Drops the zeros at the end of a fraction, and the point if nothing is left behind it. -/
def dropTrailingZeros (cs : List Char) : List Char :=
  if cs.contains '.' then
    let kept := (cs.reverse.dropWhile (· == '0')).reverse
    match kept.reverse with
    | '.' :: rest => rest.reverse
    | _ => kept
  else cs

/-- The ratio with `digits` digits in all: in places while the exponent is
small enough for that, otherwise with an exponent. `full` keeps zeros at the end. -/
def generalPlaces (full : Bool) (digits num den : Nat) : List Char :=
  let digits := max 1 digits
  let (ds, power) := leadingDigits (digits - 1) num den
  let trim := fun (cs : List Char) => if full then cs else dropTrailingZeros cs
  if -4 ≤ power ∧ power < digits then
    trim (fixedPlaces full (digits - 1 - power).toNat num den)
  else trim (withPoint full (digits - 1) ds) ++ exponentText numberLayout power

end Triage.Number
