import Triage.FailureItem
import Triage.Error.Class

/-!
# Errors

An error is of a class and was made with something; it may carry attributes, and
it may follow from another error, which is either its stated cause or just the
one that was being handled. Nothing in an error is guaranteed to have a sensible
shape: attributes hold any value.
-/

namespace Triage

/-- Something attached to an error under a name. -/
inductive Attribute where
  | value (v : Value)
  | kind (k : Kind)
  | items (items : List FailureItem)
  /-- A method that returns validation entries. -/
  | entries (entries : List Value)
  deriving Repr

namespace Attribute

def typeName : Attribute → String
  | .value v => v.typeName
  | .kind _ => "FailureKind"
  | .items _ => "list"
  | .entries _ => "method"

/-- The text that an attribute is, if it is one. A kind is its own label. -/
def text? : Attribute → Option Text
  | .value (.text s) => some s
  | .kind k => some k.label
  | _ => none

/-- Whether an attribute counts as present. -/
def isPresent : Attribute → Bool
  | .value v => v.isPresent
  | .items found => !found.isEmpty
  | _ => true

/-- Whether an attribute is there but says that there is nothing. -/
def isNull : Attribute → Bool
  | .value v => v.isNull
  | _ => false

/-- The members of an attribute that is a row or a text, each as a text. -/
def memberTexts? : Attribute → Option (List (Except Obstacle Text))
  | .value (.object _) => none
  | .value v => v.members?.map fun members => members.map Value.asText
  | .items found => some (found.map fun item => .ok item.asText)
  | .kind k => some ((k.label : Text).toList.map fun g => .ok (Text.singleton g))
  | .entries _ => none

/-- An attribute as it is displayed inside others. -/
def shown : Attribute → Except Obstacle Text
  | .value v => v.shown
  | .kind k => .ok ("<" ++ k.fullName ++ ": " ++ Text.quoted k.label ++ ">")
  | .items found => .ok ("[" ++ Text.joined ", " (found.map FailureItem.shown) ++ "]")
  | .entries _ => .ok "<bound method>"

def asText : Attribute → Except Obstacle Text
  | .value v => v.asText
  | .kind k => .ok k.fullName
  | a => a.shown

end Attribute

/-- A line of the report on an invalid record. -/
structure ReportLine where
  code : String
  /-- The message, with the names of details in braces. -/
  template : Text
  place : List Value
  input : Value
  details : Option (List (Text × Value))
  /-- Whether the code is one that is explained elsewhere. -/
  isExplained : Bool := false
  deriving Repr

/-- Which layer an HTTP error comes from. -/
inductive HttpLayer where
  | application
  | transport
  deriving DecidableEq, Repr

/-- The class of an error, and what the error was made with. -/
inductive Form where
  | common (cls : CommonClass) (arguments : List Value)
  | service (cls : ServiceClass) (message : Value)
  | http (layer : HttpLayer) (status : Int) (detail : Value)
      (headers : Option (List (String × Text)))
  | requestValidation (entries : List Value) (endpoint : Option String)
  | modelValidation (title : String) (lines : List ReportLine)
  deriving Repr, Inhabited

structure Error where
  form : Form
  /-- The name of the class, when it is a class of its own derived from the form's. -/
  ownName : Option String := none
  /-- What is attached to the error; the first attribute of a name is the one that counts. -/
  attributes : List (String × Attribute) := []
  /-- The error that this one was raised from. -/
  cause : Option Error := none
  /-- The error that was being handled when this one was raised. -/
  context : Option Error := none
  /-- Whether the context is not shown in reports, since a cause was stated, or that
  there is none. -/
  hidesContext : Bool := false
  deriving Repr, Inhabited

/-- An error that has happened. Two incidents of one number are the same object. -/
structure Incident where
  number : Nat
  error : Error
  deriving Repr, Inhabited

namespace Form

def className : Form → String
  | .common cls _ => cls.name
  | .service cls _ => cls.name
  | .http .. => "HTTPException"
  | .requestValidation .. => "RequestValidationError"
  | .modelValidation .. => "ValidationError"

/-- The name of the form's class with the place where it is defined. -/
def fullName : Form → String
  | .common cls _ => cls.fullName
  | .service cls _ => cls.fullName
  | .http .application .. => "fastapi.exceptions.HTTPException"
  | .http .transport .. => "starlette.exceptions.HTTPException"
  | .requestValidation .. => "fastapi.exceptions.RequestValidationError"
  | .modelValidation .. => "pydantic_core._pydantic_core.ValidationError"

/-- The name of the form's class where it stands for the type of a value: only the
report on an invalid record is known by its full name. -/
def typeName (f : Form) : String :=
  match f with
  | .modelValidation .. => f.fullName
  | f => f.className

/-- The kind of failure that a form stands for by itself. -/
def kind : Form → Kind
  | .common .permissionError _ => .unauthorizedAccess
  | .common .keyError _ => .keyNotFound
  | .requestValidation .. | .modelValidation .. => .validationFailure
  | _ => .unknown

end Form

namespace Error

def className (e : Error) : String := e.ownName.getD e.form.className

/-- The name of an error's class where it stands for the type of a value. -/
def typeName (e : Error) : String := e.ownName.getD e.form.typeName

def attribute? (name : String) : List (String × Attribute) → Option Attribute
  | [] => none
  | (k, a) :: rest => if k = name then some a else attribute? name rest

/-- The attribute that says where a class of its own is defined. -/
def moduleAttribute : String := "__module__"

/-- The attribute that gives a class of its own another name in reports. -/
def qualifiedNameAttribute : String := "__qualname__"

/-- The places whose names are left out in reports. -/
def unnamedModules : List Text := ["__main__", "builtins"]

/-- The name of an error's class as reports give it. A class of its own has its bare
name, unless its attributes say where it is defined. -/
def fullName (e : Error) : Text :=
  match e.ownName with
  | none => e.form.fullName
  | some own =>
    let name := ((attribute? qualifiedNameAttribute e.attributes).bind Attribute.text?).getD own
    match attribute? moduleAttribute e.attributes with
    | none => name
    | some a =>
      match a.text? with
      | some place => if unnamedModules.contains place then name else place ++ "." ++ name
      | none => "<unknown>." ++ name

/-- The tag that says which kind of failure an error is. A service class
provides one where the error itself has no attribute of that name. -/
def tag? (e : Error) : Option Attribute :=
  match attribute? "kind" e.attributes, e.form with
  | some a, _ => some a
  | none, .service cls _ => some (.kind cls.kind)
  | none, _ => none

/-- The kind of failure that an error is: its tag when that is a kind, and
otherwise what its class stands for. -/
def kind (e : Error) : Kind :=
  match e.tag? with
  | some (.kind k) => k
  | _ => e.form.kind

/-- Whether an error is there to be handled, rather than to end the program or a task. -/
def isOrdinary (e : Error) : Bool :=
  match e.form with
  | .common cls _ => cls.isOrdinary
  | _ => true

/-- Whether an error says that the work was cancelled. -/
def isCancellation (e : Error) : Bool :=
  match e.form with
  | .common .cancelledError _ => true
  | _ => false

/-- Whether an error is an HTTP response by itself. -/
def isHttp (e : Error) : Bool :=
  match e.form with
  | .http .. => true
  | _ => false

end Error

end Triage
