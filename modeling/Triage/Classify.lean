import Triage.Error.Make
import Triage.Problem.Defaults
import Triage.Text.Cut

/-!
# Classifying errors

Every error has one representation as a problem, which its kind decides. What an
error says about itself is shown only where its kind allows it, or during
development. A status other than an error status is never taken over.
-/

namespace Triage

open Number

/-! ## Statuses -/

/-- A status, when it is an error status; otherwise the one for an unexpected failure. -/
def errorStatus (status : Int) : Int := if status < 400 ∨ 599 < status then 500 else status

/-- What may stand for a status: nothing at all, or something that can be compared
with a number. -/
def normalizeStatus (v : Value) : Except Trouble Value :=
  match v with
  | .null => .ok (.int 500)
  | .bool _ => .ok (.int 500)
  | .int n => .ok (.int (errorStatus n))
  | .float x =>
    let below := x.compareInt 400 == some .lt
    let above := x.compareInt 599 == some .gt
    .ok (if below || above then .int 500 else .float x)
  | v => .error (.unordered v.typeName)

/-- The name under which a problem is reported when it cannot be built. -/
def Problem.recordName : String := "ProblemDetails"

/-- What stands for a status, as a status. -/
def checkStatus (status : Value) : Except Trouble Int :=
  match status.checkWhole with
  | .ok n => .ok n
  | .error flaw =>
    .error (.invalid Problem.recordName [⟨[.key Problem.statusField.plain], flaw, status⟩])

/-- The status of a problem, from what stands for it. -/
def problemStatus (v : Value) : Except Trouble Int :=
  match normalizeStatus v with
  | .error t => .error t
  | .ok status => checkStatus status

theorem problemStatus_int (n : Int) : problemStatus (.int n) = .ok (errorStatus n) := rfl

/-! ## Failures -/

/-- A validation entry's value as text; nothing is the empty text. -/
def entryText : Option Value → Except Obstacle Text
  | none => .ok ""
  | some .null => .ok ""
  | some v => v.asText

def placeParts : Option Value → Except Trouble (List Value)
  | none => .ok []
  | some v =>
    if v.isPresent then
      match v.members? with
      | some parts => .ok parts
      | none => .error (.notIterable v.typeName)
    else .ok []

/-- A field of an entry as text, as it is. -/
def entryField (fields : List (Text × Value)) (name : Text) : Except Obstacle Text :=
  match Value.lookup? name fields with
  | some v => v.asText
  | none => .ok ""

/-- What an entry says, where it stands at a place of some parts. -/
def FailureItem.ofParts (parts : List Value) (fields : List (Text × Value)) :
    Except Obstacle FailureItem := do
  let steps ← parts.mapM Value.asText
  let errorMessage ← entryField fields "msg"
  let errorCode ← entryField fields "type"
  let attemptedValue ← entryText (Value.lookup? "input" fields)
  let customState ← entryText (Value.lookup? "ctx" fields)
  return {
    propertyName := Text.joined "." steps, errorMessage, errorCode, attemptedValue, customState }

def FailureItem.ofEntry (entry : Value) : Except Trouble FailureItem :=
  match entry with
  | .object fields =>
    match placeParts (Value.lookup? "loc" fields) with
    | .error t => .error t
    | .ok parts => Trouble.ofWords (FailureItem.ofParts parts fields)
  | v => .error (.notAnEntry v.typeName)

def FailureItem.ofEntries : List Value → Except Trouble (List FailureItem)
  | [] => .ok []
  | entry :: rest =>
    match FailureItem.ofEntry entry with
    | .error t => .error t
    | .ok item =>
      match FailureItem.ofEntries rest with
      | .error t => .error t
      | .ok items => .ok (item :: items)

def FailureItem.ofValues (vs : List Value) : Except Trouble (List FailureItem) :=
  let reading := FailureItem.readFrom 0 vs
  if reading.issues.isEmpty then .ok reading.value
  else
    .error (.invalid Problem.recordName
      (reading.issues.map (Issue.within [.key Problem.failuresField.plain])))

/-- The validation entries that an error can name. -/
def Error.entries? (e : Error) : Option (List Value) :=
  match Error.attribute? Error.entriesAttribute e.attributes with
  | some (.entries entries) => some entries
  | some _ => none
  | none =>
    match e.form with
    | .requestValidation entries _ => some entries
    | .modelValidation _ lines => some (lines.map ReportLine.entry)
    | _ => none

/-- The failures that an attribute tells of. -/
def Attribute.failures : Attribute → Except Trouble (List FailureItem)
  | .items found => .ok found
  | .kind k => FailureItem.ofValues (((Value.text k.label).members?).getD [])
  | .entries listed => .error (.notIterable (Attribute.entries listed).typeName)
  | .value v =>
    if v.isPresent then
      match v.members? with
      | some vs => FailureItem.ofValues vs
      | none => .error (.notIterable v.typeName)
    else .ok []

/-- The failures attached to an error, if anything is attached there. -/
def Error.attachedFailures? (e : Error) : Option Attribute :=
  match Error.attribute? Error.failuresAttribute e.attributes with
  | some a => if a.isNull then none else some a
  | none => none

/-- The failures that an error's validation entries tell of. -/
def Error.failuresOfEntries (e : Error) : Except Trouble (List FailureItem) :=
  match e.entries? with
  | some entries => FailureItem.ofEntries entries
  | none => .ok []

/-- The failure item for one conflicting field. -/
def FailureItem.conflict (fragment : Text) : FailureItem :=
  { errorMessage := fragment, errorCode := "Conflict" }

/-- The message of what an error follows from: of its stated cause, or else of what
its attributes give for one. -/
def Error.causeMessage? (e : Error) : Except Trouble (Option Text) :=
  match e.cause with
  | some cause => cause.message.map some
  | none =>
    match Error.attribute? Error.causeAttribute e.attributes with
    | some a => if a.isNull then .ok none else (Trouble.ofWords a.asText).map some
    | none => .ok none

/-- The conflicts that a message lists, separated by semicolons. -/
def FailureItem.conflicts (message : Text) : List FailureItem :=
  (Text.cutAt (Glyph.char ';') message.toList).map fun piece => .conflict (.ofList piece)

def Error.conflicts (e : Error) : Except Trouble (List FailureItem) :=
  e.causeMessage?.map fun message => (message.map FailureItem.conflicts).getD []

/-! ## Problems -/

def authenticationRequired : String := "Authentication required"

def accessDenied : String := "Access denied"

def unableToProcess : String := "Unable to process the request"

/-- What stands for the status of a batch. -/
def Error.batchStatus (e : Error) : Except Trouble Value :=
  match Error.attribute? Error.statusAttribute e.attributes with
  | none => normalizeStatus .null
  | some (.value v) => normalizeStatus v
  | some a => .error (.unordered a.typeName)

/-- A problem that always shows the error's message. -/
def openly (e : Error) (status : Int) (failures : List FailureItem) : Except Trouble Problem :=
  e.message.map fun message => { status, detail := some message, failures }

/-- The error's message, during development only. -/
def guardedDetail (e : Error) (development : Bool) (instead : Text) : Except Trouble Text :=
  if development then e.message else .ok instead

/-- A problem that shows the error's message during development only. -/
def guarded (e : Error) (development : Bool) (status : Int) (instead : Text) :
    Except Trouble Problem :=
  (guardedDetail e development instead).map fun detail => { status, detail := some detail }

/-- The problem that a failed batch is: it has the batch's status. -/
def classifyBatch (e : Error) : Except Trouble Problem := do
  let status ← e.batchStatus
  let message ← e.message
  let status ← checkStatus status
  return { status, detail := some message }

/-- The problem that a failed validation is: its failures are those attached to the
error, and otherwise those that its validation entries tell of. -/
def classifyValidation (e : Error) : Except Trouble Problem :=
  match e.attachedFailures? with
  | none => do openly e 422 (← e.failuresOfEntries)
  | some a => do
    let message ← e.message
    let failures ← a.failures
    return { status := 422, detail := some message, failures }

/-- The problem that an error of no known kind is: the status so far counts when it
is an error status. -/
def classifyUnknown (e : Error) (ambient : Value) (development : Bool) :
    Except Trouble Problem := do
  let status ← normalizeStatus ambient
  let detail ← guardedDetail e development ""
  let status ← checkStatus status
  return { status, detail := some detail }

/-- The problem that an error is, for a response whose status so far is `ambient`. -/
def classify (e : Error) (ambient : Value) (development : Bool) : Except Trouble Problem :=
  match e.kind with
  | .authenticationFailure | .unauthenticatedAccess =>
    guarded e development 401 authenticationRequired
  | .unauthorizedAccess | .forbiddenAccess | .genericSecurity =>
    guarded e development 403 accessDenied
  | .malformedRequest => guarded e development 400 unableToProcess
  | .conflict => openly e 409 []
  | .alreadyExists => do openly e 409 (← e.conflicts)
  | .badRequest | .keyNotFound => openly e 400 []
  | .concurrencyConflict => openly e 412 []
  | .notFound => openly e 404 []
  | .batchOperationFailure => classifyBatch e
  | .validationFailure => classifyValidation e
  | .unknown => classifyUnknown e ambient development

end Triage
