import Triage.Value.Shown
import Triage.Number.Reading

/-!
# Checking values

A field takes what can be read as its type without loss. What it does not take
is an issue: where the value stood, what is wrong with it, and the value itself.
-/

namespace Triage

open Number
open Text (joined)

/-- What is wrong with a value. -/
inductive Flaw where
  | missing
  | notText
  | notUnicode
  | notWhole
  | unreadableWhole
  | oversizedWhole
  | fractional
  | notFinite
  | notReal
  | unreadableReal
  | notList
  | notObject
  | notRecord (record : String)
  | notFields
  | notAmong (choices : List String)
  | notJson
  deriving DecidableEq, Repr

namespace Flaw

def code : Flaw → String
  | .missing => "missing"
  | .notText => "string_type"
  | .notUnicode => "string_unicode"
  | .notWhole => "int_type"
  | .unreadableWhole => "int_parsing"
  | .oversizedWhole => "int_parsing_size"
  | .fractional => "int_from_float"
  | .notFinite => "finite_number"
  | .notReal => "float_type"
  | .unreadableReal => "float_parsing"
  | .notList => "list_type"
  | .notObject => "dict_type"
  | .notRecord _ => "model_type"
  | .notFields => "model_attributes_type"
  | .notAmong _ => "enum"
  | .notJson => "json_invalid"

/-- Choices as they are listed: the last one after an `or`. -/
def choiceList (choices : List String) : Text :=
  let shown := choices.map fun (choice : String) => Text.quoted choice
  match shown.reverse with
  | last :: before :: rest => joined ", " ((before :: rest).reverse) ++ " or " ++ last
  | _ => joined ", " shown

def message : Flaw → Text
  | .missing => "Field required"
  | .notText => "Input should be a valid string"
  | .notUnicode => "Input should be a valid string, unable to parse raw data as a unicode string"
  | .notWhole => "Input should be a valid integer"
  | .unreadableWhole => "Input should be a valid integer, unable to parse string as an integer"
  | .oversizedWhole => "Unable to parse input string as an integer, exceeded maximum size"
  | .fractional => "Input should be a valid integer, got a number with a fractional part"
  | .notFinite => "Input should be a finite number"
  | .notReal => "Input should be a valid number"
  | .unreadableReal => "Input should be a valid number, unable to parse string as a number"
  | .notList => "Input should be a valid list"
  | .notObject => "Input should be a valid dictionary"
  | .notRecord record => "Input should be a valid dictionary or instance of " ++ record
  | .notFields => "Input should be a valid dictionary or object to extract fields from"
  | .notAmong choices => "Input should be " ++ choiceList choices
  | .notJson => "JSON decode error"

end Flaw

/-- A step into a value. -/
inductive Step where
  | key (name : Text)
  | index (i : Nat)
  deriving DecidableEq, Repr

namespace Step

def text : Step → Text
  | .key name => name
  | .index i => decimalText i

def value : Step → Value
  | .key name => .text name
  | .index i => .int i

end Step

/-- A value that was not taken. -/
structure Issue where
  place : List Step
  flaw : Flaw
  input : Value
  deriving Repr

namespace Issue

def placeText (i : Issue) : Text := joined "." (i.place.map Step.text)

/-- An issue in short: its place and its code. -/
def summary (i : Issue) : Text := i.placeText ++ ":" ++ i.flaw.code

/-- An issue seen from further out. -/
def within (steps : List Step) (i : Issue) : Issue := { i with place := steps ++ i.place }

end Issue

/-! ## Reading a value as a type -/

/-- A value as a text: only a text is one. -/
def Value.checkText : Value → Except Flaw Text
  | .text s => .ok s
  | _ => .error .notText

/-- Where whole numbers read from a number end, on both sides of zero. -/
def wholeLimit : Int := 0x8000000000000000

/-- A number as a whole number: finite, without a fraction, and within 64 bits. -/
def Number.Binary64.checkWhole (x : Binary64) : Except Flaw Int :=
  match x.truncate? with
  | none => .error .notFinite
  | some n =>
    if !x.isWhole then .error .fractional
    else if -wholeLimit < n ∧ n < wholeLimit then .ok n
    else .error .oversizedWhole

def Value.checkWhole : Value → Except Flaw Int
  | .bool b => .ok (if b then 1 else 0)
  | .int n => .ok n
  | .float x => x.checkWhole
  | .text s =>
    if !s.isWhole then .error .notUnicode
    else
      match readWhole s.string with
      | .number n => .ok n
      | .unreadable => .error .unreadableWhole
      | .oversized => .error .oversizedWhole
  | _ => .error .notWhole

end Triage
