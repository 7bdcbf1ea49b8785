import Triage.Reading

/-!
# Failure items

One finding of a failed validation. An item is built from named fields, each
under its wire name or its plain name; the wire name wins when both are given,
and names that no field has are passed over.
-/

namespace Triage

/-- How grave a finding is. -/
inductive Severity where
  | error
  | warning
  | info
  deriving DecidableEq, Repr, Inhabited

namespace Severity

def all : List Severity := [.error, .warning, .info]

def label : Severity → String
  | .error => "Error"
  | .warning => "Warning"
  | .info => "Info"

/-- The code of a severity: its word in capitals. -/
def code (s : Severity) : String := String.ofList (s.label.toList.map Char.toUpper)

/-- A severity as it is displayed inside others. -/
def shown (s : Severity) : Text :=
  "<FailureSeverity." ++ s.code ++ ": " ++ Text.quoted s.label ++ ">"

def check (v : Value) : Except Flaw Severity :=
  match v with
  | .text s =>
    match all.find? fun severity => (severity.label : Text) == s with
    | some severity => .ok severity
    | none => .error (.notAmong (all.map label))
  | _ => .error (.notAmong (all.map label))

end Severity

/-- One finding: what it is about, what it says, and what was attempted. -/
structure FailureItem where
  propertyName : Text := ""
  errorMessage : Text := ""
  errorCode : Text := ""
  severity : Severity := .error
  attemptedValue : Text := ""
  customState : Text := ""
  deriving DecidableEq, Repr, Inhabited

namespace FailureItem

open Text (joined)

/-- The names of an item's fields, in order. -/
def propertyNameField : FieldName := ⟨"property_name", "propertyName"⟩

@[inherit_doc propertyNameField]
def errorMessageField : FieldName := ⟨"error_message", "errorMessage"⟩

@[inherit_doc propertyNameField]
def errorCodeField : FieldName := ⟨"error_code", "errorCode"⟩

@[inherit_doc propertyNameField]
def severityField : FieldName := ⟨"severity", "severity"⟩

@[inherit_doc propertyNameField]
def attemptedValueField : FieldName := ⟨"attempted_value", "attemptedValue"⟩

@[inherit_doc propertyNameField]
def customStateField : FieldName := ⟨"custom_state", "customState"⟩

def read (fields : List (Text × Value)) : Reading FailureItem :=
  let propertyName := propertyNameField.read Value.checkText "" fields
  let errorMessage := errorMessageField.read Value.checkText "" fields
  let errorCode := errorCodeField.read Value.checkText "" fields
  let severity := severityField.read Severity.check .error fields
  let attemptedValue := attemptedValueField.read Value.checkText "" fields
  let customState := customStateField.read Value.checkText "" fields
  { issues := propertyName.issues ++ errorMessage.issues ++ errorCode.issues ++
      severity.issues ++ attemptedValue.issues ++ customState.issues
    value := ⟨propertyName.value, errorMessage.value, errorCode.value, severity.value,
      attemptedValue.value, customState.value⟩ }

/-- Reads an item from a value, which has to be an object. -/
def readValue (v : Value) : Reading FailureItem :=
  match v with
  | .object fields => read fields
  | v => ⟨[⟨[], .notRecord "FailureItem", v⟩], {}⟩

/-- Reads items from values, those from place `i` on. -/
def readFrom (i : Nat) : List Value → Reading (List FailureItem)
  | [] => ⟨[], []⟩
  | v :: rest =>
    let item := readValue v
    let others := readFrom (i + 1) rest
    ⟨item.issues.map (Issue.within [.index i]) ++ others.issues, item.value :: others.value⟩

def toValue (item : FailureItem) (name : FieldName → String) : Value := .object [
  (name propertyNameField, .text item.propertyName),
  (name errorMessageField, .text item.errorMessage),
  (name errorCodeField, .text item.errorCode),
  (name severityField, .text item.severity.label),
  (name attemptedValueField, .text item.attemptedValue),
  (name customStateField, .text item.customState)]

/-- The fields of an item, as they are displayed. -/
def fieldsShown (item : FailureItem) : List Text := [
  propertyNameField.plain ++ "=" ++ Text.quoted item.propertyName,
  errorMessageField.plain ++ "=" ++ Text.quoted item.errorMessage,
  errorCodeField.plain ++ "=" ++ Text.quoted item.errorCode,
  severityField.plain ++ "=" ++ item.severity.shown,
  attemptedValueField.plain ++ "=" ++ Text.quoted item.attemptedValue,
  customStateField.plain ++ "=" ++ Text.quoted item.customState]

/-- An item as it is displayed inside others. -/
def shown (item : FailureItem) : Text := "FailureItem(" ++ joined ", " item.fieldsShown ++ ")"

/-- An item as a text of its own. -/
def asText (item : FailureItem) : Text := joined " " item.fieldsShown

end FailureItem

end Triage
