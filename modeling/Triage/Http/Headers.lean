import Triage.Trouble
import Triage.Text.Lowercase

/-!
# Headers

The headers of a response in order. Names are kept in small letters; names and
values are Latin-1.
-/

namespace Triage.Http

open Text

abbrev Headers := List (String × String)

/-- A text as it may stand in a header. -/
def headerText (t : Text) : Except Trouble String :=
  match beyondLatin? t with
  | none => .ok t.string
  | some run => .error (.notLatin run)

namespace Headers

/-- The values of all headers of a name, which is in small letters. -/
def values (h : Headers) (name : String) : List String :=
  (h.filter fun header => header.1 == name).map (·.2)

/-- A header as it is kept. -/
def checked (name : String) (value : Text) : Except Trouble (String × String) :=
  match headerText (lowered name) with
  | .error t => .error t
  | .ok name =>
    match headerText value with
    | .error t => .error t
    | .ok value => .ok (name, value)

def append (h : Headers) (name : String) (value : Text) : Except Trouble Headers :=
  match checked name value with
  | .error t => .error t
  | .ok header => .ok (h ++ [header])

/-- Puts a header in the place of the first one of its name and drops the others
of that name; without one, adds it at the end. -/
def put (h : Headers) (header : String × String) : Headers :=
  match h with
  | [] => [header]
  | other :: rest =>
    if other.1 = header.1 then header :: rest.filter (·.1 != header.1)
    else other :: put rest header

def set (h : Headers) (name : String) (value : Text) : Except Trouble Headers :=
  match checked name value with
  | .error t => .error t
  | .ok header => .ok (h.put header)

def appendAll (h : Headers) : List (String × Text) → Except Trouble Headers
  | [] => .ok h
  | (name, value) :: rest =>
    match h.append name value with
    | .error t => .error t
    | .ok h => h.appendAll rest

end Headers

end Triage.Http
