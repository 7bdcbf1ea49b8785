import Triage.Error
import Triage.Trouble

/-!
# Errors in words

The text of an error follows from its class and what it was made with; there is
none where there is an obstacle to a value that goes into it. Its message is what
a caller may read: the attribute of that name when it is a text, the bare key of
a missing key, and otherwise the text. The report on an invalid record always has
a text: something stands for what cannot be displayed.
-/

namespace Triage

open Number Text

namespace ReportLine

/-- The most bytes of an input that are displayed. -/
def inputLimit : Nat := 50

/-- How many bytes something at one place of a text takes up. -/
def sizeOf (g : Glyph) : Nat := g.character.utf8Size

/-- How many bytes a row of such things takes up. -/
def sizeOfAll (gs : List Glyph) : Nat := gs.foldl (fun n g => n + sizeOf g) 0

/-- The longest front of a text within a number of bytes. -/
def frontWithin (limit : Nat) : List Glyph → List Glyph
  | [] => []
  | g :: gs => if sizeOf g ≤ limit then g :: frontWithin (limit - sizeOf g) gs else []

/-- A text cut down to its front and its end when it is too long. -/
def shortened (t : Text) : Text :=
  if sizeOfAll t.toList ≤ inputLimit then t
  else
    let gs := t.toList
    let front := frontWithin ((inputLimit + 1) / 2) gs
    let back := (frontWithin ((inputLimit + 1) / 2 - 1) gs.reverse).reverse
    .ofList front ++ "..." ++ .ofList back

/-- A detail inside a message. A whole number stands there with all its digits. -/
def detailText : Value → Text
  | .bool b => if b then "1" else "0"
  | .int n => decimalText n
  | v => v.wordsOr v.asText

/-- Whether `pattern` starts `gs`, and what follows. -/
def dropFront? (pattern gs : List Glyph) : Option (List Glyph) :=
  if pattern.isPrefixOf gs then some (gs.drop pattern.length) else none

/-- Replaces every occurrence of a text that is not empty; `fuel` bounds the steps. -/
def replaceAll (pattern substitute : List Glyph) : Nat → List Glyph → List Glyph
  | 0, gs => gs
  | fuel + 1, gs =>
    match dropFront? pattern gs with
    | some rest => substitute ++ replaceAll pattern substitute fuel rest
    | none =>
      match gs with
      | [] => []
      | g :: rest => g :: replaceAll pattern substitute fuel rest

/-- The message of a line: the template with its details filled in, one after the other. -/
def message (l : ReportLine) : Text :=
  (l.details.getD []).foldl
    (fun (text : Text) (name, v) =>
      let pattern := Glyph.char '\x7b' :: name.toList ++ [Glyph.char '\x7d']
      .ofList (replaceAll pattern (detailText v).toList (text.length + 1) text.toList))
    l.template

def entry (l : ReportLine) : Value :=
  .object (("type", .text l.code) :: ("loc", .tuple l.place) :: ("msg", .text l.message) ::
    ("input", l.input) ::
    match l.details with
    | some details => [("ctx", .object details)]
    | none => [])

/-- A step of a place in a report; one with a point inside stands in backquotes. -/
def stepText : Value → Text
  | .text s => if s.toList.contains (Glyph.char '.') then "`" ++ s ++ "`" else s
  | .int n => decimalText n
  | v => v.wordsOr v.asText

/-- Where codes are explained. -/
def handbookHost : String := "errors.pydantic.dev"

/-- The edition of the explanations. -/
def handbookEdition : String := "2.14"

/-- The address at which a code is explained. -/
def handbookAddress (code : String) : String :=
  "https" ++ "://" ++ "/".intercalate [handbookHost, handbookEdition, "v", code]

/-- A line as text, with its place on a line of its own. -/
def text (l : ReportLine) : Text :=
  (if l.place.isEmpty then ("" : Text) else joined "." (l.place.map stepText) ++ "\n") ++
    "  " ++ l.message ++ " [type=" ++ l.code ++ ", input_value=" ++
    shortened (l.input.wordsOr l.input.shown) ++ ", input_type=" ++ l.input.typeName ++ "]" ++
    if l.isExplained then "\n    For further information visit " ++ handbookAddress l.code else ""

end ReportLine

/-- A number of errors in words. -/
def errorCount (n : Nat) : String :=
  decimalText n ++ (if n = 1 then " validation error" else " validation errors")

/-! ## Pieces of a text -/

/-- A piece of a text about values. -/
inductive Piece where
  | words (s : Text)
  /-- A value as a text of its own. -/
  | own (v : Value)
  /-- A value as it is displayed inside others. -/
  | displayed (v : Value)
  deriving Repr

namespace Piece

def text : Piece → Except Obstacle Text
  | .words s => .ok s
  | .own v => v.asText
  | .displayed v => v.shown

/-- Pieces one after the other. -/
def say : List Piece → Except Obstacle Text
  | [] => .ok ""
  | [p] => p.text
  | p :: rest => do return (← p.text) ++ (← say rest)

end Piece

namespace Form

/-- An error that was made with a row of arguments. -/
def argumentsPieces : List Value → List Piece
  | [] => []
  | [v] => [.own v]
  | vs => [.displayed (.tuple vs)]

/-- The files that a system error names, of the names that it was made with: the second one
stands behind a number that is not shown. -/
def shownFiles : List Value → List Value
  | [] => []
  | file :: rest =>
    if file.isNull then []
    else
      match rest with
      | [_, other] => if other.isNull then [file] else [file, other]
      | _ => [file]

/-- Names of files, with an arrow between them. -/
def filePieces : List Value → List Piece
  | [] => []
  | file :: rest =>
    .words ": " :: .displayed file :: rest.flatMap fun other => [.words " -> ", .displayed other]

/-- A system error: its number, its words, and up to two names of files. -/
def systemPieces : List Value → List Piece
  | n :: words :: names =>
    if names.length > 3 then argumentsPieces (n :: words :: names)
    else
      .words "[Errno " :: .own n :: .words "] " :: .own words :: filePieces (shownFiles names)
  | vs => argumentsPieces vs

/-- Whether a value counts something where a name of a file would be expected. -/
def isCount : Value → Bool
  | .int _ | .bool _ => true
  | _ => false

/-- What the text of an error is put together from. -/
def pieces : Form → List Piece
  | .common .keyError [key] => [.displayed key]
  | .common .blockingIOError (n :: words :: v :: rest) =>
    if isCount v ∧ rest.length ≤ 2 then systemPieces [n, words]
    else systemPieces (n :: words :: v :: rest)
  | .common cls arguments =>
    if cls.isSystem then systemPieces arguments else argumentsPieces arguments
  | .service _ message => [.own message]
  | .http _ status detail _ => [.own (.int status), .words ": ", .own detail]
  | .requestValidation entries endpoint =>
    .words (errorCount entries.length ++ ":\n") ::
      (entries.flatMap fun v => [.words "  ", .own v, .words "\n"]) ++
      match endpoint with
      | some place => [.words ("\n  Endpoint: " ++ place)]
      | none => []
  | .modelValidation title lines =>
    [.words (errorCount lines.length ++ " for " ++ title ++ "\n" ++
      joined "\n" (lines.map ReportLine.text))]

/-- The text of an error; that about a request ends with no blanks. -/
def text (f : Form) : Except Obstacle Text :=
  match f with
  | .requestValidation .. => do return trimmedEnd (← Piece.say f.pieces)
  | f => Piece.say f.pieces

/-- The arguments that an error keeps: a system error does not keep names of files. -/
def keptArguments (cls : CommonClass) (arguments : List Value) : List Value :=
  match arguments with
  | n :: words :: v :: rest =>
    if cls.isSystem ∧ rest.length ≤ 2 then
      match cls, v with
      | _, .null => arguments
      | .blockingIOError, v => if isCount v then arguments else [n, words]
      | _, _ => [n, words]
    else arguments
  | _ => arguments

/-- A row of arguments as it is displayed. -/
def rowPieces : List Value → List Piece
  | [v] => [.words "(", .displayed v, .words ")"]
  | vs => [.displayed (.tuple vs)]

/-- What an error of a form is displayed as inside others, under a name: what it was made with
follows the name, and the report on an invalid record shows itself. -/
def shownPieces (name : String) : Form → List Piece
  | .common cls arguments => .words name :: rowPieces (keptArguments cls arguments)
  | .service _ message => .words name :: rowPieces [message]
  | .http _ status detail _ => [
      .words (name ++ "(status_code="), .displayed (.int status), .words ", detail=",
      .displayed detail, .words ")"]
  | .requestValidation entries _ => .words name :: rowPieces [.list entries]
  | .modelValidation title lines => pieces (.modelValidation title lines)

end Form

/-- The part of a name after its last point. -/
def afterPoint (name : String) : String :=
  String.ofList (name.toList.reverse.takeWhile (· != '.')).reverse

namespace Error

def text (e : Error) : Except Obstacle Text := e.form.text

/-- An error as it is displayed inside others. -/
def shown (e : Error) : Except Obstacle Text :=
  Piece.say (e.form.shownPieces (afterPoint e.className))

/-! ## Messages -/

/-- The text attached to an error as its message. -/
def attachedMessage? (e : Error) : Option Text :=
  match e.form with
  | .service _ message => (Attribute.value message).text?
  | _ => (attribute? "message" e.attributes).bind Attribute.text?

/-- The attribute that stands for what an error was made with. -/
def argumentsAttribute : String := "args"

/-- The text of an error, for whoever depends on it. -/
def ownText (e : Error) : Except Trouble Text := Trouble.ofWords e.text

/-- The first part of an attribute, as a text. -/
def firstPart (a : Attribute) : Except Trouble Text :=
  match a.memberTexts? with
  | some (first :: _) => Trouble.ofWords first
  | some [] => .error (.partBeyond a.typeName)
  | none =>
    match a with
    | .value (.object _) => .error (.missingPart 0)
    | a => .error (.notDivisible a.typeName)

/-- The message of an error about a missing key: the bare key. -/
def keyMessage (e : Error) (arguments : List Value) : Except Trouble Text :=
  match attribute? argumentsAttribute e.attributes with
  | some a => if a.isPresent then firstPart a else e.ownText
  | none =>
    match arguments with
    | key :: _ => Trouble.ofWords key.asText
    | [] => e.ownText

/-- The message of an error. What stands for a key may have no parts to take it from, and
there may be an obstacle to what is shown. -/
def message (e : Error) : Except Trouble Text :=
  match e.attachedMessage? with
  | some s => .ok s
  | none =>
    match e.form with
    | .common .keyError arguments => e.keyMessage arguments
    | _ => e.ownText

end Error

end Triage
