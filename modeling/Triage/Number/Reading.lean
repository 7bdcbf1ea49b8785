import Triage.Text.Blank
import Triage.Number.Binary64
import Triage.Number.Decimal

/-!
# Reading numbers

Decimal texts are read digit by digit into a whole number and a power of ten,
and rounded once.
-/

namespace Triage.Number

/-- Whether a character is one of the ten digits. -/
def isDigit (c : Char) : Bool := '0' ≤ c && c ≤ '9'

/-- The longest row of digits at the front, and the rest. -/
def spanDigits (cs : List Char) : List Char × List Char :=
  (cs.takeWhile isDigit, cs.dropWhile isDigit)

/-- Whether a glyph is one of the ten digits. -/
def isDigitGlyph : Glyph → Bool
  | .char c => isDigit c
  | .half _ => false

/-- The longest row of digits at the front of what may hold more than characters, and the rest. -/
def frontDigits (gs : List Glyph) : List Char × List Glyph :=
  ((gs.takeWhile isDigitGlyph).map Glyph.character, gs.dropWhile isDigitGlyph)

/-- The number `± 0.whole fraction · 10^exponent` with the point after `whole`,
rounded to nearest. Powers far beyond the range are not worked out. -/
def Binary64.ofDecimal (negative : Bool) (whole fraction : List Char) (exponent : Int) :
    Binary64 :=
  let significant := (whole ++ fraction).dropWhile (· == '0')
  let e := exponent - fraction.length
  let power : Int := significant.length + e
  if significant.isEmpty then .zero negative
  else if power > 400 then .infinite negative
  else if power < -400 then .zero negative
  else
    .ofRatio negative (ofDigits significant * tenTo e.toNat) (tenTo (-e).toNat)

/-- Reads an exponent, `e` with an optional sign and at least one digit, to the end of the text. -/
def readExponent? : List Char → Option Int
  | [] => some 0
  | c :: rest =>
    if c = 'e' ∨ c = 'E' then
      let (negative, digits) := match rest with
        | '-' :: ds => (true, ds)
        | '+' :: ds => (false, ds)
        | ds => (false, ds)
      if digits.isEmpty ∨ !digits.all isDigit then none
      else
        let n : Int := ofDigits digits
        some (if negative then -n else n)
    else none

/-- Reads an unsigned decimal number that takes up the whole text. -/
def readUnsigned? (negative : Bool) (cs : List Char) : Option Binary64 :=
  let (whole, rest) := spanDigits cs
  let (fraction, rest) := match rest with
    | '.' :: ds => spanDigits ds
    | other => ([], other)
  if whole.isEmpty ∧ fraction.isEmpty then none
  else (readExponent? rest).map (Binary64.ofDecimal negative whole fraction)

/-- Reads a number without blanks around it: an optional sign, then a decimal
number or one of the names `inf`, `infinity` and `nan` in any letter case. -/
def readBare? (cs : List Char) : Option Binary64 :=
  let (negative, body) := match cs with
    | '-' :: rest => (true, rest)
    | '+' :: rest => (false, rest)
    | other => (false, other)
  let name := String.ofList (body.map Char.toLower)
  if name = "inf" ∨ name = "infinity" then some (.infinite negative)
  else if name = "nan" then some .nan
  else readUnsigned? negative body

/-- Reads a number with blanks around it. -/
def Binary64.read? (s : String) : Option Binary64 := readBare? (Text.trim s.toList)

/-- Blanks as a number's surroundings know them: the information separators are not among them. -/
def isPadding (c : Char) : Bool := Text.isBlank c && !(0x1c ≤ c.toNat && c.toNat ≤ 0x1f)

/-- The text without the padding at both ends. -/
def unpad (cs : List Char) : List Char :=
  ((cs.dropWhile isPadding).reverse.dropWhile isPadding).reverse

/-- Drops underscores that each stand alone inside the text; fails on any other. -/
def dropUnderscores? : List Char → Option (List Char)
  | [] => some []
  | '_' :: _ => none
  | [c] => some [c]
  | c :: '_' :: rest =>
    match rest with
    | [] => none
    | d :: tail => if d = '_' then none else (dropUnderscores? (d :: tail)).map (c :: ·)
  | c :: d :: rest => (dropUnderscores? (d :: rest)).map (c :: ·)
termination_by cs => cs.length

/-- Reads a number in a setting: one with padding around it, or else one with
single underscores inside it and no padding. -/
def Binary64.readSetting? (s : String) : Option Binary64 :=
  match readBare? (unpad s.toList) with
  | some x => some x
  | none => (dropUnderscores? s.toList).bind readBare?

/-! ## Whole numbers

A whole number may be dressed with padding, a plus sign, zeros in front and a
fraction of zeros, and single underscores may stand inside it. -/

/-- Drops zeros, and the underscores among them, up to a digit that counts or to a
minus sign; `last` is the character before. The last zero stays where nothing or
a point follows it. -/
def dropMoreZeros? (last : Char) : List Char → Option (List Char)
  | [] => some [last]
  | c :: rest =>
    if c = '0' ∨ c = '_' then dropMoreZeros? c rest
    else if c = '.' then some (last :: c :: rest)
    else if isDigit c ∨ c = '-' then some (c :: rest)
    else none

/-- Drops the zeros in front of a number, which starts with a digit or a minus sign. -/
def dropZeros? : List Char → Option (List Char)
  | [] => none
  | c :: rest =>
    if c = '0' then dropMoreZeros? c rest
    else if isDigit c ∨ c = '-' then some (c :: rest)
    else none

/-- Cuts off a fraction of zeros; fails on any other fraction. -/
def dropZeroFraction? (cs : List Char) : Option (List Char) :=
  match cs.dropWhile (· != '.') with
  | [] => some cs
  | _ :: fraction =>
    if fraction.isEmpty ∨ !fraction.all (· == '0') then none else some (cs.takeWhile (· != '.'))

/-- A whole number without what it may be dressed with. -/
def undressed? (cs : List Char) : Option (List Char) :=
  let body := match unpad cs with
    | '+' :: '-' :: _ => none
    | '+' :: rest => some rest
    | other => some other
  ((body.bind dropZeros?).bind dropZeroFraction?).bind dropUnderscores?

/-- What comes of reading a whole number. -/
inductive WholeReading where
  | number (n : Int)
  | unreadable
  /-- There are more digits than are read. -/
  | oversized
  deriving DecidableEq, Repr

/-- Reads a whole number that is not dressed. -/
def readUndressed (cs : List Char) : WholeReading :=
  let (negative, body) := match cs with
    | '-' :: rest => (true, rest)
    | other => (false, other)
  let (digits, rest) := spanDigits body
  if digits.isEmpty ∨ (digits.head? = some '0' ∧ digits.length ≠ 1) then .unreadable
  else if digits.length > mostDigits then .oversized
  else if !rest.isEmpty then .unreadable
  else
    let n : Int := ofDigits digits
    .number (if negative then -n else n)

def readWhole (s : String) : WholeReading :=
  match undressed? s.toList with
  | some cs => readUndressed cs
  | none => .unreadable

end Triage.Number
