import Triage.Number.Shortest

/-!
# Numbers as text

A number is written with the fewest digits that read back. Between `10^-4` and
`10^16` the digits stand in their places, with a point and at least one digit
after it; outside, an exponent of at least two digits follows.
-/

namespace Triage.Number

/-- Where the layout of a number's digits changes. -/
structure NumberLayout where
  /-- The least power of ten whose numbers have their digits in their places. -/
  placesFrom : Int
  /-- The greatest such power. -/
  placesTo : Int
  /-- The least number of digits of an exponent. -/
  exponentDigits : Nat

/-- The layout of all number texts. -/
def numberLayout : NumberLayout := ⟨-4, 15, 2⟩

/-- An exponent with its sign. -/
def exponentText (l : NumberLayout) (power : Int) : List Char :=
  'e' :: (if power < 0 then '-' else '+') :: paddedDigits l.exponentDigits power.natAbs

/-- The digits `ds`, the first one standing for `10^power`. -/
def layOut (l : NumberLayout) (ds : List Char) (power : Int) : List Char :=
  if l.placesFrom ≤ power ∧ power ≤ l.placesTo then
    if power < 0 then
      '0' :: '.' :: List.replicate (-power - 1).toNat '0' ++ ds
    else
      let before := power.toNat + 1
      let whole := ds.take before ++ List.replicate (before - ds.length) '0'
      let rest := ds.drop before
      whole ++ '.' :: (if rest.isEmpty then ['0'] else rest)
  else
    match ds with
    | [] => []
    | [d] => d :: exponentText l power
    | d :: rest => d :: '.' :: rest ++ exponentText l power

/-- The text of a finite number of size `mantissa · 2^exponent`. -/
def finiteText (negative : Bool) (mantissa : Nat) (exponent : Int) : String :=
  let x := Binary64.shortest mantissa exponent
  let ds := decimalDigits x.digits
  let body := layOut numberLayout ds (ds.length - 1 + x.exponent)
  String.ofList (if negative then '-' :: body else body)

/-- The three texts for what is no finite number. -/
structure SpecialTexts where
  nan : String
  infinite : String
  negativeInfinite : String

def Binary64.textWith (special : SpecialTexts) : Binary64 → String
  | .finite s m e => finiteText s m e
  | .infinite false => special.infinite
  | .infinite true => special.negativeInfinite
  | .nan => special.nan

/-- A number in a displayed value. -/
def Binary64.text (x : Binary64) : String := x.textWith ⟨"nan", "inf", "-inf"⟩

end Triage.Number
