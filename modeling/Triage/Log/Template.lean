import Triage.Number.Places
import Triage.Trouble

/-!
# Message templates

A template is a text with directives, each of which is replaced by an argument:
`%s` by its text, `%d` by a whole number, `%(name)s` by the argument of a name,
with flags, a width and a precision before the last letter.
-/

namespace Triage.Log

open Number Text

/-- A directive of a template. -/
structure Directive where
  left : Bool := false
  plus : Bool := false
  blank : Bool := false
  alternate : Bool := false
  zero : Bool := false
  width : Nat := 0
  precision : Option Nat := none
  letter : Glyph := 's'
  deriving Repr

/-- What is left of the arguments. -/
structure Arguments where
  /-- The arguments that are taken one after the other. -/
  row : List Value
  /-- The value that arguments are taken from by name, if there is one. -/
  named : Option Value
  deriving Repr

namespace Arguments

/-- The arguments that a value provides: the items of a tuple, or the value itself. -/
def ofValue : Value → Arguments
  | .tuple items => ⟨items, none⟩
  | .object fields => ⟨[.object fields], some (.object fields)⟩
  | .list items => ⟨[.list items], some (.list items)⟩
  | v => ⟨[v], none⟩

def next (a : Arguments) : Except Trouble (Value × Arguments) :=
  match a.row with
  | v :: rest => .ok (v, { a with row := rest })
  | [] => .error .tooFewForTemplate

def select (a : Arguments) (name : Text) : Except Trouble Arguments :=
  match a.named with
  | none => .error .wantsMapping
  | some v =>
    match v with
    | .object fields =>
      match Value.lookup? name fields with
      | some w => .ok { a with row := [w] }
      | none => .error (.missingKey name)
    | v => .error (.notByName v.typeName)

end Arguments

/-! ## Reading a directive -/

/-- Reads a name up to its closing parenthesis; parentheses inside it nest. -/
def readName (depth : Nat) : List Glyph → Option (List Glyph × List Glyph)
  | [] => none
  | .char ')' :: rest =>
    match depth with
    | 0 => some ([], rest)
    | depth + 1 => (readName depth rest).map fun r => (.char ')' :: r.1, r.2)
  | .char '(' :: rest => (readName (depth + 1) rest).map fun r => (.char '(' :: r.1, r.2)
  | g :: rest => (readName depth rest).map fun r => (g :: r.1, r.2)

def readFlags (d : Directive) : List Glyph → Directive × List Glyph
  | .char '-' :: rest => readFlags { d with left := true } rest
  | .char '+' :: rest => readFlags { d with plus := true } rest
  | .char ' ' :: rest => readFlags { d with blank := true } rest
  | .char '#' :: rest => readFlags { d with alternate := true } rest
  | .char '0' :: rest => readFlags { d with zero := true } rest
  | gs => (d, gs)

/-- A limit for numbers in directives: what to report when a number in the
template or an argument is beyond it. -/
structure SizeLimit where
  /-- The least number that is too great; its opposite is the least one that is taken. -/
  bound : Nat
  inTemplate : Trouble
  inArgument : Trouble

def widthLimit : SizeLimit := ⟨0x8000000000000000, .widthTooBig, .widthArgumentTooBig⟩

def precisionLimit : SizeLimit := ⟨0x80000000, .precisionTooBig, .durationUncountable⟩

/-- Reads a number that stands in the template or is the next argument. -/
def readSize (limit : SizeLimit) (a : Arguments) (gs : List Glyph) :
    Except Trouble (Option Int × Arguments × List Glyph) :=
  match gs with
  | .char '*' :: rest =>
    match a.next with
    | .error t => .error t
    | .ok (.int n, a) =>
      if -limit.bound ≤ n ∧ n < limit.bound then .ok (some n, a, rest) else .error limit.inArgument
    | .ok (.bool b, a) => .ok (some (if b then 1 else 0), a, rest)
    | .ok _ => .error .starWantsWhole
  | gs =>
    let (ds, rest) := frontDigits gs
    if ds.isEmpty then .ok (none, a, gs)
    else if limit.bound ≤ ofDigits ds then .error limit.inTemplate
    else .ok (some (ofDigits ds), a, rest)

/-- The width that a number stands for: its size. The least number of all has no
opposite, and stands for no width. -/
def widthOf (n : Int) : Nat := if n = -widthLimit.bound then 0 else n.natAbs

/-- Reads a width; a negative one stands for the left side. -/
def readWidth (d : Directive) (a : Arguments) (gs : List Glyph) :
    Except Trouble (Directive × Arguments × List Glyph) :=
  match readSize widthLimit a gs with
  | .error t => .error t
  | .ok (none, a, rest) => .ok (d, a, rest)
  | .ok (some n, a, rest) =>
    .ok ({ d with width := widthOf n, left := d.left || n < 0 }, a, rest)

/-- Reads a precision after its point; no digits at all stand for zero. -/
def readPrecision (d : Directive) (a : Arguments) (gs : List Glyph) :
    Except Trouble (Directive × Arguments × List Glyph) :=
  match gs with
  | .char '.' :: gs =>
    match readSize precisionLimit a gs with
    | .error t => .error t
    | .ok (n, a, rest) => .ok ({ d with precision := some (n.getD 0).toNat }, a, rest)
  | gs => .ok (d, a, gs)

/-- Reads the part of a directive after its sign: an optional name, flags, width,
precision, an idle size letter, and the letter that says what to write. -/
def readDirective (a : Arguments) (gs : List Glyph) :
    Except Trouble (Directive × Arguments × List Glyph) := do
  let (a, gs) ← match gs with
    | .char '(' :: rest =>
      if a.named.isNone then throw .wantsMapping
      else
        match readName 0 rest with
        | none => throw .incompleteKey
        | some (name, rest) => do
          let a ← a.select (.ofList name)
          pure (a, rest)
    | gs => pure (a, gs)
  let (d, gs) := readFlags {} gs
  let (d, a, gs) ← readWidth d a gs
  let (d, a, gs) ← readPrecision d a gs
  let gs := match gs with
    | g :: rest => if g = 'h' ∨ g = 'l' ∨ g = 'L' then rest else g :: rest
    | [] => []
  match gs with
  | [] => throw .incompleteDirective
  | letter :: rest => pure ({ d with letter }, a, rest)

/-! ## Writing an argument -/

/-- Digits in base sixteen or eight. -/
def digitsInBase (base n : Nat) : List Char := Nat.toDigits base n

/-- What is written for a number: its sign, the mark of its base, and its digits. -/
structure Written where
  negative : Bool
  mark : List Char := []
  body : List Char
  deriving Repr

/-- The whole number that a value is cut down to. -/
def cutDown (d : Directive) (v : Value) : Except Trouble Int :=
  match v with
  | .int n => .ok n
  | .bool b => .ok (if b then 1 else 0)
  | .float x =>
    match x.truncate? with
    | some n => .ok n
    | none => .error (if x = .nan then .durationNotANumber else .durationInfinite)
  | v => .error (.directiveWantsReal d.letter v.typeName)

/-- The whole number that a value is. -/
def exactWhole (d : Directive) (v : Value) : Except Trouble Int :=
  match v with
  | .int n => .ok n
  | .bool b => .ok (if b then 1 else 0)
  | v => .error (.directiveWantsWhole d.letter v.typeName)

/-- Digits filled with zeros up to the precision. -/
def precise (d : Directive) (ds : List Char) : List Char :=
  List.replicate (d.precision.getD 0 - ds.length) '0' ++ ds

/-- The greatest precision for whole numbers. -/
def wholePrecisionLimit : Nat := 0x7ffffffc

/-- A whole number with a precision within the limit. -/
def checkPrecision (d : Directive) (n : Int) : Except Trouble Int :=
  if wholePrecisionLimit < d.precision.getD 0 then .error .precisionTooLarge else .ok n

/-- A whole number with no more digits than are written. -/
def checkDigits (n : Int) : Except Trouble Int :=
  if fitsDigits n then .ok n else .error (.obstacle .tooManyDigits)

/-- A whole number, in the base that the letter stands for. Only decimal digits have a limit. -/
def writeWhole (d : Directive) (v : Value) : Except Trouble Written :=
  let inBase (base : Nat) (mark : List Char) : Except Trouble Written :=
    match (exactWhole d v).bind (checkPrecision d) with
    | .error t => .error t
    | .ok n =>
      let ds := digitsInBase base n.natAbs
      let ds := if d.letter = 'X' then ds.map Char.toUpper else ds
      .ok ⟨n < 0, if d.alternate then mark else [], precise d ds⟩
  if d.letter = 'x' then inBase 16 ['0', 'x']
  else if d.letter = 'X' then inBase 16 ['0', 'X']
  else if d.letter = 'o' then inBase 8 ['0', 'o']
  else
    match ((cutDown d v).bind (checkPrecision d)).bind checkDigits with
    | .error t => .error t
    | .ok n => .ok ⟨n < 0, [], precise d (decimalDigits n.natAbs)⟩

/-- The floating-point number that a value is. -/
def realOf (v : Value) : Except Trouble Binary64 :=
  let ofWhole (n : Int) : Except Trouble Binary64 :=
    match Binary64.ofInt n with
    | .infinite _ => .error .realTooLarge
    | x => .ok x
  match v with
  | .float x => .ok x
  | .int n => ofWhole n
  | .bool b => ofWhole (if b then 1 else 0)
  | v => .error (.notReal v.typeName)

/-- A floating-point number. -/
def writeReal (d : Directive) (v : Value) : Except Trouble Written :=
  match realOf v with
  | .error t => .error t
  | .ok x =>
    let letter := d.letter.character
    let capital := letter.isUpper
    let places := d.precision.getD 6
    let dress := fun (cs : List Char) => if capital then cs.map Char.toUpper else cs
    match x with
    | .nan => .ok ⟨false, [], dress ['n', 'a', 'n']⟩
    | .infinite negative => .ok ⟨negative, [], dress ['i', 'n', 'f']⟩
    | .finite negative m e =>
      let (num, den) := Binary64.ratio m e
      let body :=
        if letter.toLower = 'f' then fixedPlaces d.alternate places num den
        else if letter.toLower = 'e' then scientificPlaces d.alternate places num den
        else generalPlaces d.alternate places num den
      .ok ⟨negative, [], dress body⟩

/-- Fills a number up to the width: with zeros after its sign, or with blanks. -/
def placeNumber (d : Directive) (w : Written) : List Glyph :=
  let sign :=
    if w.negative then ['-'] else if d.plus then ['+'] else if d.blank then [' '] else []
  let fill := d.width - (sign.length + w.mark.length + w.body.length)
  let placed :=
    if d.left then sign ++ w.mark ++ w.body ++ List.replicate fill ' '
    else if d.zero then sign ++ w.mark ++ List.replicate fill '0' ++ w.body
    else List.replicate fill ' ' ++ sign ++ w.mark ++ w.body
  placed.map .char

/-- Fills a text up to the width with blanks. -/
def placeText (d : Directive) (gs : List Glyph) : List Glyph :=
  let fill := List.replicate (d.width - gs.length) (Glyph.char ' ')
  if d.left then gs ++ fill else fill ++ gs

/-- The text cut down to the precision. -/
def cutText (d : Directive) (gs : List Glyph) : List Glyph :=
  match d.precision with
  | some n => gs.take n
  | none => gs

/-- A displayed value in ASCII characters only. -/
def asciiOf (shown : Text) : List Glyph :=
  shown.toList.flatMap fun g =>
    if g.toNat < 0x80 then [g] else (numberedPoint g.toNat).map .char

/-- One character, by itself or by its number. -/
def writeCharacter (v : Value) : Except Trouble (List Glyph) :=
  let ofNumber (n : Int) : Except Trouble (List Glyph) :=
    if 0 ≤ n ∧ n < 0x110000 then .ok [Glyph.ofNat n.toNat] else .error .directiveWantsCodePoint
  match v with
  | .text s => if s.length = 1 then .ok s.toList else .error .directiveWantsCharacter
  | .int n => ofNumber n
  | .bool b => ofNumber (if b then 1 else 0)
  | _ => .error .directiveWantsCharacter

/-- The greatest width for which there is room. -/
def roomLimit : Nat := 0x80000000

/-- What is written for a directive, put into its place where there is room for it. -/
def inPlace {α : Type} (d : Directive) (place : Directive → α → List Glyph)
    (own : Except Trouble α) : Except Trouble (List Glyph) :=
  match own with
  | .error t => .error t
  | .ok a => if roomLimit < d.width then .error .noMemory else .ok (place d a)

/-- A text as far as the precision lets it stand. -/
def writeWords (d : Directive) (words : Except Obstacle Text)
    (spelled : Text → List Glyph := Text.toList) : Except Trouble (List Glyph) :=
  (Trouble.ofWords words).map fun s => cutText d (spelled s)

/-- What a directive at `position` writes for a value. -/
def Directive.write (d : Directive) (position : Nat) (v : Value) : Except Trouble (List Glyph) :=
  match d.letter with
  | .char 's' => inPlace d placeText (writeWords d v.asText)
  | .char 'r' => inPlace d placeText (writeWords d v.shown)
  | .char 'a' => inPlace d placeText (writeWords d v.shown asciiOf)
  | .char 'd' | .char 'i' | .char 'u' | .char 'o' | .char 'x' | .char 'X' =>
    inPlace d placeNumber (writeWhole d v)
  | .char 'e' | .char 'E' | .char 'f' | .char 'F' | .char 'g' | .char 'G' =>
    inPlace d placeNumber (writeReal d v)
  | .char 'c' => inPlace d placeText (writeCharacter v)
  | other => .error (.unknownDirective other position)

/-! ## Filling in a template -/

/-- Fills in the rest of a template of `length` characters; `fuel` bounds the steps. -/
def fillIn (length : Nat) : Nat → Arguments → List Glyph → Except Trouble (List Glyph)
  | 0, _, gs => .ok gs
  | fuel + 1, a, gs =>
    match gs with
    | [] => if a.named.isNone && !a.row.isEmpty then .error .tooManyForTemplate else .ok []
    | .char '%' :: .char '%' :: rest => do return .char '%' :: (← fillIn length fuel a rest)
    | .char '%' :: rest => do
      let (d, a, after) ← readDirective a rest
      let (v, a) ← a.next
      let own ← d.write (length - after.length - 1) v
      return own ++ (← fillIn length fuel a after)
    | g :: rest => do return g :: (← fillIn length fuel a rest)

/-- The template with the arguments that a value provides. -/
def filledIn (template : Text) (arguments : Value) : Except Trouble Text :=
  let gs := template.toList
  match fillIn gs.length (gs.length + 1) (.ofValue arguments) gs with
  | .ok filled => .ok (.ofList filled)
  | .error t => .error t

end Triage.Log
