import Triage.Error.Text
import Triage.Trouble
import Triage.Http.Status

/-!
# Making errors

What an error becomes when it is made from arguments: a system error takes the
class of its number, a service error its default message, an HTTP error the
phrase of its status. What goes wrong in the library itself becomes an error of
its class, so that it can be handled like any other.
-/

namespace Triage

namespace CommonClass

/-- The number that a value counts as where the operating system's numbers are meant. -/
def systemNumber? : Value → Option Int
  | .int n => some n
  | .bool b => some (if b then 1 else 0)
  | _ => none

/-- The class that an error of class `cls` gets from its arguments: with two to
five of them, a system error is of the class that its number stands for. -/
def refined (cls : CommonClass) (arguments : List Value) : CommonClass :=
  match cls, arguments with
  | .osError, n :: _ :: rest =>
    if rest.length ≤ 3 then ((systemNumber? n).bind ofSystemNumber?).getD .osError else .osError
  | cls, _ => cls

end CommonClass

namespace Error

def ofCommon (cls : CommonClass) (arguments : List Value) : Error :=
  { form := .common (cls.refined arguments) arguments }

/-- The numbers that count characters. -/
def countLimit : Int := 0x8000000000000000

/-- Whether an argument may say how many characters were written, or name a file. -/
def checkCount : Value → Except Trouble Unit
  | .float x => .error (.wantsWhole (Value.float x).typeName)
  | .int n => if -countLimit ≤ n ∧ n < countLimit then .ok () else .error .beyondCounting
  | _ => .ok ()

/-- An error of a common class, made from given arguments: the third one of an error
about blocking may be a number, which then counts the characters written. -/
def ofArguments (cls : CommonClass) (arguments : List Value) : Except Trouble Error :=
  let e := ofCommon cls arguments
  match e.form with
  | .common .blockingIOError (_ :: _ :: v :: rest) =>
    if rest.length ≤ 2 then (checkCount v).map fun _ => e else .ok e
  | _ => .ok e

/-- A service error with a message, or its class's default one. -/
def ofService (cls : ServiceClass) (message : Option Value) : Error :=
  { form := .service cls (message.getD (.text cls.defaultMessage)) }

/-- The name of the status that a batch operation failed with. -/
def statusAttribute : String := "status_code"

/-- The name of the list of failures. -/
def failuresAttribute : String := "failures"

/-- The name of the list of validation entries. -/
def entriesAttribute : String := "errors"

def ofBatch (message : Option Value) (status : Value) : Error :=
  { ofService .batchOperation message with attributes := [(statusAttribute, .value status)] }

def ofFailures (message : Option Value) (failures : Attribute) : Error :=
  { ofService .validationFailed message with attributes := [(failuresAttribute, failures)] }

/-- A service error from a row of arguments: its message, and for two of the
classes what belongs to them. -/
def ofServiceArguments (cls : ServiceClass) (arguments : List Value) : Except Trouble Error :=
  let most := if cls.takesMore then 3 else 2
  if most < arguments.length + 1 then
    .error (.tooManyArguments cls.maker.name most (arguments.length + 1))
  else
    let message := arguments[0]?
    match cls with
    | .batchOperation => .ok (ofBatch message (arguments[1]?.getD (.int 500)))
    | .validationFailed =>
      match arguments[1]? with
      | none => .ok (ofFailures message (.value (.list [])))
      | some v =>
        match v.members? with
        | some members => .ok (ofFailures message (.value (.list members)))
        | none => .error (.notIterable v.typeName)
    | cls => .ok (ofService cls message)

/-- An HTTP error; one without a detail has the phrase of its status. -/
def ofHttp (layer : HttpLayer) (status : Int) (detail : Value)
    (headers : Option (List (String × Text))) : Error :=
  let detail := match detail with
    | .null => .text ((Http.phrase? status).getD "")
    | v => v
  { form := .http layer status detail headers }

/-- An error about a request that does not fit its endpoint. -/
def ofEntries (entries : List Value) (endpoint : Option String) : Error :=
  { form := .requestValidation entries endpoint }

/-- A step of a place: a name or a number that can be counted to. Anything else is
known by how it is displayed. -/
def placeStep : Value → Value
  | .text s => .text s
  | .bool b => .int (if b then 1 else 0)
  | .int n =>
    if -countLimit ≤ n ∧ n < countLimit then .int n
    else .text ((Value.int n).wordsOr (Value.int n).shown)
  | v => .text (v.wordsOr v.shown)

def ofReport (title : String) (lines : List ReportLine) : Error :=
  { form := .modelValidation title
      (lines.map fun l => { l with place := l.place.map placeStep }) }

/-- An error of a class of its own, derived from the class of `base`. -/
def derived (base : Error) (name : String) (attributes : List (String × Attribute)) : Error :=
  { base with ownName := some name, attributes := base.attributes ++ attributes }

/-! ### What an error follows from -/

/-- The attribute that stands for the cause where none was stated. -/
def causeAttribute : String := "__cause__"

/-- The error with a stated cause, or with the statement that it has none. What
stands for the cause otherwise does so no longer. -/
def statingCause (e : Error) (cause : Option Error) : Error :=
  { e with
    cause
    hidesContext := (attribute? causeAttribute e.attributes).isNone
    attributes := e.attributes.filter (·.1 != causeAttribute) }

end Error

/-! ## Troubles as errors -/

def Flaw.details? : Flaw → Option (List (Text × Value))
  | .notRecord record => some [("class_name", .text record)]
  | .notAmong choices => some [("expected", .text (choiceList choices))]
  | _ => none

def Issue.line (i : Issue) : ReportLine :=
  { code := i.flaw.code, template := i.flaw.message, place := i.place.map Step.value
    input := i.input, details := i.flaw.details?, isExplained := true }

def Issue.entry (i : Issue) : Value := i.line.entry

def Trouble.toError (t : Trouble) : Error :=
  match t with
  | .invalid record issues => .ofReport record (issues.map Issue.line)
  | .missingKey key => .ofCommon .keyError [.text key]
  | .missingPart position => .ofCommon .keyError [.int position]
  | .noMemory => .ofCommon .memoryError []
  | .unreadableSetting _ =>
    { Error.ofCommon .valueError [.text t.message] with ownName := some t.className }
  | t => .ofCommon (t.class?.getD .valueError) [.text t.message]

end Triage
