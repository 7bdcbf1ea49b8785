import Triage.FailureItem

/-!
# Problems

The representation of a failure that a caller gets. On the wire a problem is an
object with its fields in order; fields without a value are left out, and so is
an empty list of failures.
-/

namespace Triage

/-- A failure as its caller sees it. -/
structure Problem where
  status : Int := 500
  title : Option Text := none
  typeUri : Option Text := none
  detail : Option Text := none
  instancePath : Option Text := none
  failures : List FailureItem := []
  requestId : Option Text := none
  deriving DecidableEq, Repr, Inhabited

namespace Problem

/-- The names of a problem's fields, in order. -/
def statusField : FieldName := ⟨"status", "status"⟩

@[inherit_doc statusField]
def titleField : FieldName := ⟨"title", "title"⟩

@[inherit_doc statusField]
def typeField : FieldName := ⟨"type", "type"⟩

@[inherit_doc statusField]
def detailField : FieldName := ⟨"detail", "detail"⟩

@[inherit_doc statusField]
def instanceField : FieldName := ⟨"instance", "instance"⟩

@[inherit_doc statusField]
def failuresField : FieldName := ⟨"failures", "failures"⟩

@[inherit_doc statusField]
def requestIdField : FieldName := ⟨"request_id", "requestId"⟩

/-! ## Writing -/

def optionalText : Option Text → Value
  | some s => .text s
  | none => .null

/-- The problem as an object with every field, under the names that `name` chooses. -/
def toValue (p : Problem) (name : FieldName → String) : Value := .object [
  (name statusField, .int p.status),
  (name titleField, optionalText p.title),
  (name typeField, optionalText p.typeUri),
  (name detailField, optionalText p.detail),
  (name instanceField, optionalText p.instancePath),
  (name failuresField, .list (p.failures.map (·.toValue name))),
  (name requestIdField, optionalText p.requestId)]

/-- A field that is left out when it has no value. -/
def optionalField (n : FieldName) : Option Text → List (Text × Value)
  | some s => [(n.wire, .text s)]
  | none => []

/-- The fields of a problem on the wire. -/
def wireFields (p : Problem) : List (Text × Value) :=
  (statusField.wire, .int p.status) ::
    (optionalField titleField p.title ++ optionalField typeField p.typeUri ++
      optionalField detailField p.detail ++ optionalField instanceField p.instancePath ++
      (if p.failures.isEmpty then ([] : List (Text × Value))
        else [(failuresField.wire, .list (p.failures.map (·.toValue FieldName.wire)))]) ++
      optionalField requestIdField p.requestId)

def payload (p : Problem) : Value := .object p.wireFields

/-! ## Reading -/

def checkOptionalText : Value → Except Flaw (Option Text)
  | .null => .ok none
  | .text s => .ok (some s)
  | _ => .error .notText

def readFailures (fields : List (Text × Value)) : Reading (List FailureItem) :=
  match failuresField.find? fields with
  | none => ⟨[], []⟩
  | some (name, .list items) =>
    let reading := FailureItem.readFrom 0 items
    ⟨reading.issues.map (Issue.within [.key name]), reading.value⟩
  | some (name, v) => ⟨[⟨[.key name], .notList, v⟩], []⟩

def read (fields : List (Text × Value)) : Reading Problem :=
  let status := statusField.read Value.checkWhole 500 fields
  let title := titleField.read checkOptionalText none fields
  let typeUri := typeField.read checkOptionalText none fields
  let detail := detailField.read checkOptionalText none fields
  let instancePath := instanceField.read checkOptionalText none fields
  let failures := readFailures fields
  let requestId := requestIdField.read checkOptionalText none fields
  { issues := status.issues ++ title.issues ++ typeUri.issues ++ detail.issues ++
      instancePath.issues ++ failures.issues ++ requestId.issues
    value := ⟨status.value, title.value, typeUri.value, detail.value, instancePath.value,
      failures.value, requestId.value⟩ }

/-- The problem that named fields describe, or every issue with them. -/
def ofFields (fields : List (Text × Value)) : Except (List Issue) Problem :=
  let reading := read fields
  if reading.issues.isEmpty then .ok reading.value else .error reading.issues

end Problem

end Triage
