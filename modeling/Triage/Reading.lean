import Triage.Issue

/-!
# Reading records

A record is read field by field, and all that is wrong with it is reported at
once, in the order of its fields. A field has two names: the wire name and the
plain one.
-/

namespace Triage

/-- The two names of a field. -/
structure FieldName where
  plain : String
  wire : String
  deriving DecidableEq, Repr

/-- The value given for a field, with the name it was given under. -/
def FieldName.find? (n : FieldName) (fields : List (Text × Value)) : Option (Text × Value) :=
  match Value.lookup? n.wire fields with
  | some v => some (n.wire, v)
  | none => (Value.lookup? n.plain fields).map fun v => (n.plain, v)

/-- A field as read: what is wrong with it, and its value or the default. -/
structure Reading (α : Type) where
  issues : List Issue
  value : α

/-- Reads a field; one that is not given has its default. -/
def FieldName.read {α : Type} (n : FieldName) (check : Value → Except Flaw α) (default : α)
    (fields : List (Text × Value)) : Reading α :=
  match n.find? fields with
  | none => ⟨[], default⟩
  | some (name, v) =>
    match check v with
    | .ok a => ⟨[], a⟩
    | .error flaw => ⟨[⟨[.key name], flaw, v⟩], default⟩

/-- Reads texts from values, those from place `i` on. -/
def readTexts (i : Nat) : List Value → Reading (List Text)
  | [] => ⟨[], []⟩
  | v :: rest =>
    let others := readTexts (i + 1) rest
    match v.checkText with
    | .ok s => ⟨others.issues, s :: others.value⟩
    | .error flaw => ⟨⟨[.index i], flaw, v⟩ :: others.issues, others.value⟩

def readTextList (v : Value) : Reading (List Text) :=
  match v with
  | .list items => readTexts 0 items
  | v => ⟨[⟨[], .notList, v⟩], []⟩

/-- A reading seen from further out. -/
def Reading.within {α : Type} (steps : List Step) (r : Reading α) : Reading α :=
  { r with issues := r.issues.map (Issue.within steps) }

end Triage
