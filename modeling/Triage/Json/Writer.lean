import Triage.Value
import Triage.Number.Text
import Triage.Text.Quoted

/-!
# Writing JSON

A value is written without any choice left to the caller but four: whether
characters beyond ASCII are escaped, what separates items and keys from what
follows, and whether what JSON does not have is written all the same: numbers
that it cannot hold by their names, and values of types that it does not know as
their texts. Fields keep their order. `obstacle?` tells what stands in the way
of a text, and `write` is the text where nothing does.
-/

namespace Triage.Json

open Number Text

/-- How a JSON text is laid out. -/
structure Style where
  /-- Whether every character beyond the printable ASCII ones is escaped. -/
  asciiOnly : Bool
  itemSeparator : List Glyph
  keySeparator : List Glyph
  /-- Whether what JSON does not have is written all the same. -/
  isLenient : Bool
  deriving Repr, DecidableEq

/-- The names of the numbers that JSON cannot hold. -/
def specialNames : SpecialTexts := ⟨"NaN", "Infinity", "-Infinity"⟩

/-- A sixteen-bit unit as an escape. -/
def unitEscape (n : Nat) : List Glyph := '\\' :: 'u' :: (hexDigits 4 n).map .char

/-- A code point as an escape: one unit, or a surrogate pair beyond U+FFFF. -/
def numberEscape (n : Nat) : List Glyph :=
  if n < 0x10000 then unitEscape n
  else unitEscape (0xd800 + (n - 0x10000) / 0x400) ++ unitEscape (0xdc00 + (n - 0x10000) % 0x400)

/-- What stands inside a JSON string for a character or for half of a pair. -/
def escapeGlyph (asciiOnly : Bool) (g : Glyph) : List Glyph :=
  if g = '"' then ['\\', '"']
  else if g = '\\' then ['\\', '\\']
  else if g = '\n' then ['\\', 'n']
  else if g = '\r' then ['\\', 'r']
  else if g = '\t' then ['\\', 't']
  else if g = '\x08' then ['\\', 'b']
  else if g = '\x0c' then ['\\', 'f']
  else if g.toNat < 0x20 then unitEscape g.toNat
  else if g.toNat < 0x7f then [g]
  else if asciiOnly then numberEscape g.toNat
  else [g]

def writeString (asciiOnly : Bool) (t : Text) : List Glyph :=
  Glyph.char '"' :: t.toList.flatMap (escapeGlyph asciiOnly) ++ [Glyph.char '"']

mutual

/-- A value as JSON, where there is no obstacle to it. -/
def write (st : Style) : Value → List Glyph
  | .null => ("null" : Text).toList
  | .bool b => (if b then "true" else "false" : Text).toList
  | .int n => (decimalText n : Text).toList
  | .float x => (x.textWith specialNames : Text).toList
  | .text s => writeString st.asciiOnly s
  | .list items => Glyph.char '[' :: writeItems st items ++ [Glyph.char ']']
  | .tuple items => Glyph.char '[' :: writeItems st items ++ [Glyph.char ']']
  | .object fields => Glyph.char '{' :: writeFields st fields ++ [Glyph.char '}']
  | .bytes s => writeString st.asciiOnly (quotedBytes s)
  | .thing t => writeString st.asciiOnly (t.text.toOption.getD "")

/-- Items with separators between them. -/
def writeItems (st : Style) : List Value → List Glyph
  | [] => []
  | v :: rest =>
    write st v ++ (match rest with | [] => [] | _ => st.itemSeparator) ++ writeItems st rest

/-- Fields with separators between them. -/
def writeFields (st : Style) : List (Text × Value) → List Glyph
  | [] => []
  | (k, v) :: rest =>
    writeString st.asciiOnly k ++ st.keySeparator ++ write st v ++
      (match rest with | [] => [] | _ => st.itemSeparator) ++ writeFields st rest

end

/-! ## What stands in the way -/

/-- What keeps a value of a type that JSON does not have from being written as a
text, which takes up a level of its own. -/
def textObstacle? (st : Style) (room : Nat) (type : String) (text : Except Obstacle Text) :
    Option Obstacle :=
  if st.isLenient then
    match text with
    | .error o => some o
    | .ok _ => if room = 0 then some .tooDeepToWrite else none
  else some (.unknownToJson type)

mutual

/-- The first obstacle to writing a value, where `room` levels are left. -/
def obstacle? (st : Style) (room : Nat) : Value → Option Obstacle
  | .null | .bool _ | .text _ => none
  | .int n => if fitsDigits n then none else some .tooManyDigits
  | .float x => if st.isLenient || x.isFinite then none else some .notFinite
  | .list items | .tuple items =>
    match room with
    | 0 => some .tooDeepToWrite
    | room + 1 => itemsObstacle? st room items
  | .object fields =>
    match room with
    | 0 => some .tooDeepToWrite
    | room + 1 => fieldsObstacle? st room fields
  | .bytes s => textObstacle? st room (Value.bytes s).typeName (.ok (quotedBytes s))
  | .thing t => textObstacle? st room t.type t.text

def itemsObstacle? (st : Style) (room : Nat) : List Value → Option Obstacle
  | [] => none
  | v :: rest => (obstacle? st room v).or (itemsObstacle? st room rest)

def fieldsObstacle? (st : Style) (room : Nat) : List (Text × Value) → Option Obstacle
  | [] => none
  | (_, v) :: rest => (obstacle? st room v).or (fieldsObstacle? st room rest)

end

end Triage.Json
