import Triage.Error.Make
import Triage.Reading
import Triage.Web.Body

/-!
# What an endpoint is called with

Parameters of a path are whole numbers. A body is an object with the fields that
the endpoint names. All that does not fit is reported together, in entries that
say where it stood; a body that is no JSON is reported first and alone.
-/

namespace Triage.Web

open Number

inductive FieldType where
  | text
  | whole
  deriving DecidableEq, Repr

def FieldType.check (t : FieldType) (v : Value) : Except Flaw Value :=
  match t with
  | .text => v.checkText.map .text
  | .whole => v.checkWhole.map .int

/-- A body: the name of its parameter, and its fields. -/
structure BodyShape where
  name : String
  fields : List (String × FieldType)
  deriving Repr

/-- The parameters of an endpoint. -/
structure Parameters where
  /-- Names of parameters of the path. -/
  wholes : List String := []
  body : Option BodyShape := none
  deriving Repr

/-- The values of parameters. -/
abbrev Arguments := List (String × Value)

def bodyStep : Step := .key "body"

def pathStep : Step := .key "path"

def readPathParameter (name text : String) : Reading Value :=
  match (Value.text text).checkWhole with
  | .ok n => ⟨[], .int n⟩
  | .error flaw => ⟨[⟨[pathStep, .key name], flaw, .text text⟩], .null⟩

def readBodyField (given : List (Text × Value)) (name : String) (t : FieldType) :
    Reading Value :=
  let place := [bodyStep, .key name]
  match Value.lookup? name given with
  | none => ⟨[⟨place, .missing, .object given⟩], .null⟩
  | some v =>
    match t.check v with
    | .ok w => ⟨[], w⟩
    | .error flaw => ⟨[⟨place, flaw, v⟩], .null⟩

/-- Reads a body; nothing at all stands for a missing one. -/
def readBody (shape : BodyShape) (v : Option Value) : Reading Value :=
  match v with
  | none => ⟨[⟨[bodyStep], .missing, .null⟩], .null⟩
  | some (.object given) =>
    let fields := shape.fields.map fun f => (f.1, readBodyField given f.1 f.2)
    ⟨fields.flatMap (·.2.issues), .object (fields.map fun f => (f.1, f.2.value))⟩
  | some v => ⟨[⟨[bodyStep], .notFields, v⟩], .null⟩

/-- The entry for a body that is no JSON. -/
def jsonEntry (t : Text) (m : Json.Mistake) : Value := .object [
  ("type", .text Flaw.notJson.code),
  ("loc", .tuple [bodyStep.value, .int (m.position t.toList)]),
  ("msg", .text Flaw.notJson.message),
  ("input", .object []),
  ("ctx", .object [("error", .text m.complaint.message)])]

/-- Reads the arguments of an endpoint, or reports every entry that does not fit. -/
def Parameters.read (p : Parameters) (captures : List (String × String))
    (body : Option Value) : Except (List Value) Arguments :=
  let wholes := p.wholes.filterMap fun name =>
    (captures.find? (·.1 == name)).map fun c => (name, readPathParameter name c.2)
  let bodies := p.body.toList.map fun shape => (shape.name, readBody shape body)
  let readings := wholes ++ bodies
  let issues := readings.flatMap (·.2.issues)
  if issues.isEmpty then .ok (readings.map fun r => (r.1, r.2.value))
  else .error (issues.map Issue.entry)

end Triage.Web
