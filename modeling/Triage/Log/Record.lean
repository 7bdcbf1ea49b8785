import Triage.Json.Writer
import Triage.Log.Template
import Triage.Log.Timestamp
import Triage.Log.Traceback

/-!
# Log records

A record is written as one line of JSON. Extra fields are put among the record's
own, so one of the same name takes the place of the record's; what is written
first can be overwritten by an extra field too. Names that stand for bookkeeping
of a record are never written.
-/

namespace Triage.Log

open Number

/-- A log record with what belongs to it. -/
structure Record where
  logger : Value
  levelName : Value
  template : Value
  /-- The arguments of the template: a row of them, or one object. -/
  arguments : Value
  created : Value
  error : Option Error := none
  /-- What an extra field has put in the place of the error, if one has. -/
  instead : Option Value := none
  /-- Extra fields, in the order in which they were added. -/
  extra : List (Text × Value) := []

/-- The levels with a name. -/
def levelNames : List (Int × String) := [
  (0, "NOTSET"), (10, "DEBUG"), (20, "INFO"), (30, "WARNING"), (40, "ERROR"), (50, "CRITICAL")]

def nameOfLevel (level : Int) : Except Obstacle Text :=
  match levelNames.find? (·.1 == level) with
  | some (_, name) => .ok name
  | none => do return "Level " ++ (← wholeText level)

/-- Arguments as a template takes them: a single object that is not empty gives
arguments by name. -/
def packed : List Value → Value
  | [.object (field :: rest)] => .object (field :: rest)
  | arguments => .tuple arguments

namespace Record

/-- A record as it is first made, under the name of its level. -/
def named (logger levelName template : Text) (arguments : List Value) (created : Value)
    (error : Option Error) : Record :=
  { logger := .text logger, levelName := .text levelName, template := .text template
    arguments := packed arguments, created, error }

/-- A record as it is first made. -/
def make (logger : Text) (level : Int) (template : Text) (arguments : List Value)
    (created : Value) (error : Option Error) : Except Trouble Record :=
  (Trouble.ofWords (nameOfLevel level)).map fun levelName =>
    named logger levelName template arguments created error

/-- The names of the fields that every record has, and of two more that are kept free. -/
def reservedNames : List String := [
  "name", "msg", "args", "levelname", "levelno", "pathname", "filename", "module", "exc_info",
  "exc_text", "stack_info", "lineno", "funcName", "created", "msecs", "relativeCreated", "thread",
  "threadName", "processName", "process", "message", "asctime"]

/-- Whether an extra field of a name is written. -/
def isWritten (name : Text) : Bool :=
  !reservedNames.contains name.string && name.toList.head? != some (.char '_')

def add (r : Record) (name : Text) (v : Value) : Record :=
  match name.string with
  | "name" => { r with logger := v }
  | "levelname" => { r with levelName := v }
  | "msg" => { r with template := v }
  | "args" => { r with arguments := v }
  | "created" => { r with created := v }
  | "exc_info" => { r with instead := some v }
  | _ => { r with extra := Value.insert r.extra name v }

def addAll (r : Record) (fields : List (Text × Value)) : Record :=
  fields.foldl (fun r f => r.add f.1 f.2) r

/-! ## Writing -/

def message (r : Record) : Except Trouble Text := do
  let text ← Trouble.ofWords r.template.asText
  if r.arguments.isPresent then filledIn text r.arguments else return text

def moment (r : Record) : Except Trouble String :=
  match r.created with
  | .int n => timestamp (.whole n)
  | .bool b => timestamp (.whole (if b then 1 else 0))
  | .float x => timestamp (.real x)
  | v => .error (.wantsWhole v.typeName)

/-- The name of the field that shows an error. -/
def errorFieldName : Text := "exception"

/-- The name of the field that shows the id of a request. -/
def requestIdFieldName : Text := "request_id"

/-- An error in its parts. -/
def errorParts (type : Value) (text report : Text) : Value :=
  .object [("type", type), ("message", .text text), ("traceback", .text report)]

/-- What stands in the place of an error, as it is shown: a row of a class, an error
and a place, where no class is given and the error was raised nowhere. Anything else
is refused, except what says that there is no error. -/
def standInParts? (what : String) : List Value → Except Trouble (Option Value)
  | [] | [_] => .error (.partBeyond what)
  | [_, .null] => .ok none
  | [_, _] => .error (.tooFewParts 3 2)
  | [type, error, place] =>
    match error with
    | .null => .ok none
    | error =>
      if type.isPresent then .error (.lacksAttribute type.typeName "__name__")
      else do
        let text ← Trouble.ofWords error.asText
        match place, error with
        | .null, .thing t => return some (errorParts .null text t.report)
        | .null, error => throw (.lacksAttribute error.typeName "__suppress_context__")
        | place, _ => throw (.lacksAttribute place.typeName "tb_frame")
  | _ :: error :: _ =>
    match error with
    | .null => .ok none
    | _ => .error (.tooManyParts 3)

/-- What stands in the place of an error, as it is shown; nothing is shown for what
counts as none. -/
def standIn? (v : Value) : Except Trouble (Option Value) :=
  if v.isPresent then
    match v with
    | .text s => standInParts? "string" (s.toList.map fun g => .text (Text.singleton g))
    | .list items | .tuple items => standInParts? "list" items
    | .object _ => .error (.missingPart 1)
    | v => .error (.notDivisible v.typeName)
  else .ok none

/-- The error of a record, as it is shown. -/
def shownError? (r : Record) : Except Trouble (Option Value) :=
  match r.instead, r.error with
  | some v, _ => standIn? v
  | none, some e => do
    let text ← Trouble.ofWords e.text
    let report ← traceback e
    return some (errorParts (.text e.className) text report)
  | none, none => .ok none

/-- The fields of a record's own that every line has. -/
def alwaysShown (r : Record) (service : Text) (moment : String) (message : Text) :
    List (Text × Value) := [
  ("timestamp", .text moment), ("level", r.levelName), ("service", .text service),
  ("logger", r.logger), ("message", .text message)]

/-- The fields of a record's own. -/
def ownFields (r : Record) (service : Text) (requestId : Option Text) :
    Except Trouble (List (Text × Value)) := do
  let moment ← r.moment
  let message ← r.message
  let error ← r.shownError?
  return r.alwaysShown service moment message ++
    (requestId.map fun id => (requestIdFieldName, Value.text id)).toList ++
    (error.map fun parts => (errorFieldName, parts)).toList

/-- The fields that are written: the record's own, then the extra ones in order. -/
def payload (r : Record) (service : Text) (requestId : Option Text) :
    Except Trouble (List (Text × Value)) := do
  let own ← r.ownFields service requestId
  return (r.extra.filter fun f => isWritten f.1).foldl (fun fs f => Value.insert fs f.1 f.2) own

/-- The layout of lines: printable ASCII characters, and texts for what JSON does not have. -/
def style : Json.Style := ⟨true, [',', ' '], [':', ' '], true⟩

/-- A payload as a line, where there is no obstacle to it. -/
def payloadLine (fields : List (Text × Value)) : Except Trouble Text :=
  match Json.obstacle? style deepest (.object fields) with
  | some o => .error (.obstacle o)
  | none => .ok (.ofList (Json.write style (.object fields)))

def line (r : Record) (service : Text) (requestId : Option Text) : Except Trouble Text := do
  payloadLine (← r.payload service requestId)

end Record

end Triage.Log
