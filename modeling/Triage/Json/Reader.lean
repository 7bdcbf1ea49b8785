import Triage.Value
import Triage.Number.Reading

/-!
# Reading JSON

A reader for the grammar of RFC 8259. It keeps the order of fields; a name that
comes twice keeps its first place and takes its last value. What is refused is
reported with the place in the text. The wide dialect reads the names that
stand for infinite numbers and for no number as well. The bounded one does so
too, but refuses numbers that are too long and values that are nested too deep.
-/

namespace Triage.Json

open Number

/-- What is wrong with a text. -/
inductive Complaint where
  | value
  | name
  | colon
  | comma
  | unterminated
  | control
  | escape
  | unicodeEscape
  | extra
  /-- A whole number has too many digits. -/
  | longNumber
  /-- A list stands too deep inside others. -/
  | deepList
  /-- An object stands too deep inside others. -/
  | deepObject
  deriving DecidableEq, Repr

def Complaint.message : Complaint → String
  | .value => "Expecting value"
  | .name => "Expecting property name enclosed in double quotes"
  | .colon => "Expecting ':' delimiter"
  | .comma => "Expecting ',' delimiter"
  | .unterminated => "Unterminated string starting at"
  | .control => "Invalid control character at"
  | .escape => "Invalid \\escape"
  | .unicodeEscape => "Invalid \\uXXXX escape"
  | .extra => "Extra data"
  | .longNumber => "Exceeds the limit for whole numbers"
  | .deepList =>
    "maximum recursion depth exceeded while decoding a JSON array from a unicode string"
  | .deepObject =>
    "maximum recursion depth exceeded while decoding a JSON object from a unicode string"

/-- Whether a complaint says that a text is no JSON, rather than too much of it. -/
def Complaint.isSyntax : Complaint → Bool
  | .longNumber | .deepList | .deepObject => false
  | _ => true

/-- A complaint and the number of characters from its place to the end. -/
structure Mistake where
  complaint : Complaint
  remaining : Nat
  deriving DecidableEq, Repr

/-- A value read from the front, and what follows it. -/
abbrev Parsed (α : Type) := Except Mistake (α × List Glyph)

/-- Which texts are read. -/
structure Dialect where
  /-- Whether `NaN`, `Infinity` and `-Infinity` are numbers. -/
  specialNumbers : Bool
  /-- The most digits of a whole number, where there is a limit. -/
  digitLimit : Option Nat := none
  /-- The most lists and objects around a value, where there is a limit. -/
  depthLimit : Option Nat := none
  deriving Repr

/-- The grammar of RFC 8259. -/
def strict : Dialect := { specialNumbers := false }

/-- The grammar with the special numbers. -/
def wide : Dialect := { specialNumbers := true }

/-- The grammar with the special numbers and with limits. -/
def bounded : Dialect :=
  { specialNumbers := true, digitLimit := some mostDigits, depthLimit := some deepest }

/-- Whether a size is beyond a limit. -/
def exceeds (limit : Option Nat) (n : Nat) : Bool :=
  match limit with
  | some most => most < n
  | none => false

/-- White space between tokens. -/
def isSpace (g : Glyph) : Bool := g == ' ' || g == '\t' || g == '\n' || g == '\r'

def skipSpace (gs : List Glyph) : List Glyph := gs.dropWhile isSpace

def hexValue? : Glyph → Option Nat
  | .half _ => none
  | .char c =>
    if '0' ≤ c ∧ c ≤ '9' then some (c.toNat - 48)
    else if 'a' ≤ c ∧ c ≤ 'f' then some (c.toNat - 87)
    else if 'A' ≤ c ∧ c ≤ 'F' then some (c.toNat - 55)
    else none

/-- The unit written by four hexadecimal digits. -/
def unit? (a b c d : Glyph) : Option Nat := do
  let a ← hexValue? a
  let b ← hexValue? b
  let c ← hexValue? c
  let d ← hexValue? d
  return ((a * 16 + b) * 16 + c) * 16 + d

/-- Whether a unit is the first of a surrogate pair. -/
def isHighSurrogate (n : Nat) : Bool := 0xd800 ≤ n && n < 0xdc00

/-- Whether a unit is the second of a surrogate pair. -/
def isLowSurrogate (n : Nat) : Bool := 0xdc00 ≤ n && n < 0xe000

/-- The character that an escape letter stands for. -/
def simpleEscape? (g : Glyph) : Option Char :=
  if g = '"' then some '"'
  else if g = '\\' then some '\\'
  else if g = '/' then some '/'
  else if g = 'b' then some '\x08'
  else if g = 'f' then some '\x0c'
  else if g = 'n' then some '\n'
  else if g = 'r' then some '\r'
  else if g = 't' then some '\t'
  else none

/-- Reads the unit after `\u`: four digits that are not the last of the text. -/
def readUnit (gs : List Glyph) : Parsed Nat :=
  match gs with
  | a :: b :: c :: d :: e :: rest =>
    match unit? a b c d with
    | some n => .ok (n, e :: rest)
    | none => .error ⟨.unicodeEscape, gs.length + 1⟩
  | _ => .error ⟨.unicodeEscape, gs.length + 1⟩

/-- Reads what an escape after `\u` stands for, a surrogate pair as one character. -/
def readUnicode (gs : List Glyph) : Parsed Glyph :=
  match readUnit gs with
  | .error m => .error m
  | .ok (n, rest) =>
    if isHighSurrogate n then
      match rest with
      | .char '\\' :: .char 'u' :: more =>
        if more.length < 5 then .ok (Glyph.ofNat n, rest)
        else
          match readUnit more with
          | .error m => .error m
          | .ok (low, after) =>
            if isLowSurrogate low then
              .ok (Char.ofNat (0x10000 + (n - 0xd800) * 0x400 + (low - 0xdc00)), after)
            else .ok (Glyph.ofNat n, rest)
      | _ => .ok (Glyph.ofNat n, rest)
    else .ok (Glyph.ofNat n, rest)

/-- Reads the rest of a string after its opening quote; `start` counts the
characters from that quote on, and `fuel` those that may still be read. -/
def readString (start : Nat) : Nat → List Glyph → Parsed (List Glyph)
  | 0, _ => .error ⟨.unterminated, start⟩
  | fuel + 1, gs =>
    match gs with
    | [] => .error ⟨.unterminated, start⟩
    | .char '"' :: rest => .ok ([], rest)
    | .char '\\' :: rest =>
      match rest with
      | [] => .error ⟨.unterminated, start⟩
      | .char 'u' :: digits =>
        match readUnicode digits with
        | .error m => .error m
        | .ok (g, after) =>
          match readString start fuel after with
          | .error m => .error m
          | .ok (text, after) => .ok (g :: text, after)
      | e :: after =>
        match simpleEscape? e with
        | none => .error ⟨.escape, gs.length⟩
        | some c =>
          match readString start fuel after with
          | .error m => .error m
          | .ok (text, after) => .ok (.char c :: text, after)
    | g :: rest =>
      if g.toNat < 0x20 then .error ⟨.control, gs.length⟩
      else
        match readString start fuel rest with
        | .error m => .error m
        | .ok (text, after) => .ok (g :: text, after)

def readText (gs : List Glyph) : Parsed Text :=
  match readString (gs.length + 1) (gs.length + 1) gs with
  | .error m => .error m
  | .ok (text, rest) => .ok (.ofList text, rest)

/-- The digits before the point: one zero, or a row that starts with another digit. -/
def spanWhole? : List Glyph → Option (List Char × List Glyph)
  | .char '0' :: rest => some (['0'], rest)
  | gs =>
    let (ds, rest) := frontDigits gs
    if ds.isEmpty then none else some (ds, rest)

/-- The digits after a point, when there are any. -/
def spanFraction : List Glyph → Option (List Char) × List Glyph
  | .char '.' :: rest =>
    let (ds, after) := frontDigits rest
    if ds.isEmpty then (none, .char '.' :: rest) else (some ds, after)
  | gs => (none, gs)

/-- The exponent, when there is one. -/
def spanExponent (gs : List Glyph) : Option Int × List Glyph :=
  match gs with
  | e :: rest =>
    if e = 'e' ∨ e = 'E' then
      let (negative, body) := match rest with
        | .char '-' :: ds => (true, ds)
        | .char '+' :: ds => (false, ds)
        | ds => (false, ds)
      let (ds, after) := frontDigits body
      if ds.isEmpty then (none, gs)
      else
        let n : Int := ofDigits ds
        (some (if negative then -n else n), after)
    else (none, gs)
  | [] => (none, [])

/-- Reads a number, if there is one: whole unless it has a fraction or an exponent. -/
def readNumber (d : Dialect) (negative : Bool) (gs : List Glyph) : Option (Parsed Value) :=
  match spanWhole? gs with
  | none => none
  | some (whole, rest) =>
    let (fraction, rest) := spanFraction rest
    let (exponent, rest) := spanExponent rest
    match fraction, exponent with
    | none, none =>
      if exceeds d.digitLimit whole.length then some (.error ⟨.longNumber, gs.length⟩)
      else
        let n : Int := ofDigits whole
        some (.ok (.int (if negative then -n else n), rest))
    | _, _ =>
      some (.ok (.float (.ofDecimal negative whole (fraction.getD []) (exponent.getD 0)), rest))

/-- What follows `word`, when the text starts with it. -/
def after? (word : String) (gs : List Glyph) : Option (List Glyph) :=
  if (word : Text).toList.isPrefixOf gs then some (gs.drop word.length) else none

/-- Reads a value that is neither a string, a list nor an object. -/
def readScalar (d : Dialect) (gs : List Glyph) : Parsed Value :=
  let words : List (String × Value) := [
    ("null", .null), ("true", .bool true), ("false", .bool false)]
  let special : List (String × Value) := [
    ("NaN", .float .nan), ("Infinity", .float (.infinite false)),
    ("-Infinity", .float (.infinite true))]
  let known := if d.specialNumbers then words ++ special else words
  match known.findSome? (fun w => (after? w.1 gs).map fun rest => (w.2, rest)) with
  | some r => .ok r
  | none =>
    let number := match gs with
      | .char '-' :: rest => readNumber d true rest
      | gs => readNumber d false gs
    number.getD (.error ⟨.value, gs.length⟩)

mutual

/-- Reads a value from the front, inside `depth` others; `fuel` bounds the steps. -/
def readValue (d : Dialect) : Nat → Nat → List Glyph → Parsed Value
  | 0, _, gs => .error ⟨.value, gs.length⟩
  | fuel + 1, depth, gs =>
    match gs with
    | .char '"' :: rest =>
      match readText rest with
      | .error m => .error m
      | .ok (s, after) => .ok (.text s, after)
    | .char '[' :: rest =>
      if exceeds d.depthLimit (depth + 1) then .error ⟨.deepList, gs.length⟩
      else
        match skipSpace rest with
        | .char ']' :: after => .ok (.list [], after)
        | items =>
          match readItems d fuel (depth + 1) items with
          | .error m => .error m
          | .ok (vs, after) => .ok (.list vs, after)
    | .char '{' :: rest =>
      if exceeds d.depthLimit (depth + 1) then .error ⟨.deepObject, gs.length⟩
      else
        match skipSpace rest with
        | .char '}' :: after => .ok (.object [], after)
        | fields =>
          match readFields d fuel (depth + 1) [] fields with
          | .error m => .error m
          | .ok (fs, after) => .ok (.object fs, after)
    | gs => readScalar d gs

/-- Reads the items of a list that is not empty. -/
def readItems (d : Dialect) : Nat → Nat → List Glyph → Parsed (List Value)
  | 0, _, gs => .error ⟨.value, gs.length⟩
  | fuel + 1, depth, gs =>
    match readValue d fuel depth gs with
    | .error m => .error m
    | .ok (v, rest) =>
      match skipSpace rest with
      | .char ']' :: after => .ok ([v], after)
      | .char ',' :: more =>
        match readItems d fuel depth (skipSpace more) with
        | .error m => .error m
        | .ok (vs, after) => .ok (v :: vs, after)
      | other => .error ⟨.comma, other.length⟩

/-- Reads the fields of an object that is not empty, after those already read. -/
def readFields (d : Dialect) : Nat → Nat → List (Text × Value) → List Glyph →
    Parsed (List (Text × Value))
  | 0, _, _, gs => .error ⟨.name, gs.length⟩
  | fuel + 1, depth, read, gs =>
    match gs with
    | .char '"' :: rest =>
      match readText rest with
      | .error m => .error m
      | .ok (name, rest) =>
        match skipSpace rest with
        | .char ':' :: rest =>
          match readValue d fuel depth (skipSpace rest) with
          | .error m => .error m
          | .ok (v, rest) =>
            let read := Value.insert read name v
            match skipSpace rest with
            | .char '}' :: after => .ok (read, after)
            | .char ',' :: more => readFields d fuel depth read (skipSpace more)
            | other => .error ⟨.comma, other.length⟩
        | other => .error ⟨.colon, other.length⟩
    | gs => .error ⟨.name, gs.length⟩

end

/-- Reads a whole text: one value with nothing but white space around it. -/
def read (d : Dialect) (t : Text) : Except Mistake Value :=
  let gs := t.toList
  match readValue d (2 * gs.length + 2) 0 (skipSpace gs) with
  | .error m => .error m
  | .ok (v, rest) =>
    match skipSpace rest with
    | [] => .ok v
    | rest => .error ⟨.extra, rest.length⟩

/-- The place of a mistake, counted in characters from the start. -/
def Mistake.position (m : Mistake) (gs : List Glyph) : Nat := gs.length - m.remaining

end Triage.Json
