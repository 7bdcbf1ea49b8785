import Triage.Json.Reader
import Triage.Text.Cut
import Triage.Text.Lowercase
import Triage.Text.Wide

/-!
# Bodies of requests

A body whose content type says so is read as JSON; any other one is handed on as
it came. The bytes of JSON are UTF-8, perhaps after a mark, unless zero bytes at
the front show that its characters are wider.
-/

namespace Triage.Web

open Text

/-! ## Content types -/

/-- The two parts of a content type without its parameters, in small letters. -/
def mediaParts? (contentType : String) : Option (List Char × List Char) :=
  let bare := lower (trim (contentType.toList.takeWhile (· != ';')))
  match cutAt '/' bare with
  | [type, subtype] => some (type, subtype)
  | _ => none

/-- The ending of subtypes whose bodies are JSON. -/
def jsonSuffix : List Char := ['+', 'j', 's', 'o', 'n']

/-- Whether a content type says that a body is JSON. -/
def saysJson (contentType : String) : Bool :=
  match mediaParts? contentType with
  | some (type, subtype) =>
    type == "application".toList && (subtype == "json".toList || jsonSuffix.isSuffixOf subtype)
  | none => false

/-! ## Reading -/

/-- Why a body cannot be read as JSON. -/
inductive BodyFault where
  /-- It is none: the text of the body, and the mistake in it. -/
  | notJson (t : Text) (m : Json.Mistake)
  /-- It is no text, or too much of one. -/
  | unreadable

/-- The mark that may stand before a text. -/
def byteOrderMark : Char := '\ufeff'

/-- The text of a body that is to be read as JSON. -/
def bodyText? (body : String) : Option Text :=
  match body.toList with
  | c :: cs =>
    if c = byteOrderMark then some (String.ofList cs)
    else
      let bytes := body.toUTF8.toList.map UInt8.toNat
      match wideLayout? bytes with
      | some layout => layout.decode? bytes
      | none => some body
  | [] => some ""

def readJson (body : String) : Except BodyFault Value :=
  match bodyText? body with
  | none => .error .unreadable
  | some t =>
    match Json.read Json.bounded t with
    | .ok v => .ok v
    | .error m => .error (if m.complaint.isSyntax then .notJson t m else .unreadable)

/-- The body of a request as a value, if there is one. -/
def bodyValue? (contentType : Option String) (body : String) : Except BodyFault (Option Value) :=
  if body.isEmpty then .ok none
  else if (contentType.map saysJson).getD false then (readJson body).map some
  else .ok (some (.bytes body))

end Triage.Web
