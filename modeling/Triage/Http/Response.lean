import Triage.Http.Headers
import Triage.Http.Status
import Triage.Json.Writer

/-!
# Responses

A response with a body of known size says how long the body is, unless its
status rules out a body. A content type comes after it, and a text type without
a character set gets one.
-/

namespace Triage.Http

open Number Text

structure Response where
  status : Int
  headers : Headers
  body : String
  deriving DecidableEq, Repr, Inhabited

namespace Response

/-- The content type that is written for a media type. -/
def contentType (mediaType : String) : String :=
  if "text/".toList.isPrefixOf mediaType.toList &&
      !(containsText "charset=".toList (lower mediaType.toList)) then
    mediaType ++ "; charset=utf-8"
  else mediaType
where
  /-- Whether a text has another one inside. -/
  containsText (pattern : List Char) : List Char → Bool
    | [] => pattern.isEmpty
    | c :: cs => pattern.isPrefixOf (c :: cs) || containsText pattern cs

/-- The headers that describe a body. -/
def framing (status : Int) (size : Nat) (mediaType : Option String) : Except Trouble Headers :=
  let length := if isBodiless status then [] else [("content-length", decimalText size)]
  match mediaType with
  | none => .ok length
  | some m =>
    match headerText (contentType m) with
    | .error t => .error t
    | .ok m => .ok (length ++ [("content-type", m)])

/-- A text as it may be sent in a body. -/
def checkBody (body : Text) : Except Trouble String :=
  match unpaired? body with
  | none => .ok body.string
  | some run => .error (.unpaired run)

def make (status : Int) (body : Text) (mediaType : Option String) : Except Trouble Response :=
  match checkBody body with
  | .error t => .error t
  | .ok body =>
    match framing status body.utf8ByteSize mediaType with
    | .error t => .error t
    | .ok headers => .ok ⟨status, headers, body⟩

/-- A response whose headers start with given ones, which take the place of
those that would describe the body. -/
def makeWith (status : Int) (given : List (String × Text)) (body : String)
    (mediaType : Option String) : Except Trouble Response :=
  match Headers.appendAll [] given with
  | .error t => .error t
  | .ok given =>
    match framing status body.utf8ByteSize mediaType with
    | .error t => .error t
    | .ok own =>
      .ok ⟨status, given ++ own.filter fun header => (given.values header.1).isEmpty, body⟩

end Response

/-- How bodies are written as JSON. -/
structure BodyFormat where
  contentType : String := "application/problem+json"
  asciiOnly : Bool := false
  deriving DecidableEq, Repr

namespace BodyFormat

/-- The layout of bodies: no white space between tokens, and nothing but what JSON has. -/
def style (f : BodyFormat) : Json.Style := ⟨f.asciiOnly, [','], [':'], false⟩

/-- The body that holds a value, where `room` levels are left to go into it. -/
def writeWithin (room : Nat) (f : BodyFormat) (v : Value) : Except Trouble String :=
  match Json.obstacle? f.style room v with
  | some o => .error (.obstacle o)
  | none => Response.checkBody (.ofList (Json.write f.style v))

/-- The body that holds a value. -/
def write (f : BodyFormat) (v : Value) : Except Trouble String := f.writeWithin deepest v

end BodyFormat

def jsonMediaType : String := "application/json"

def Response.json (status : Int) (given : List (String × Text)) (v : Value) :
    Except Trouble Response :=
  match BodyFormat.write {} v with
  | .error t => .error t
  | .ok body => Response.makeWith status given body (some jsonMediaType)

end Triage.Http
