import Triage.Number.Binary64
import Triage.Obstacle

/-!
# Values

What error arguments, request bodies, results and log fields are made of. An
object keeps its fields in the order in which they were given. A tuple is a
list whose length is part of its meaning; it is displayed in parentheses and
written to a wire as a list. Bytes are those of a text. A thing that has no parts
of its own here, such as an error object in a log field, is known by its texts,
or by what stands in the way of them.
-/

namespace Triage

open Number (Binary64)

/-- What is known of a thing without parts. -/
structure Thing where
  type : String
  text : Except Obstacle Text
  /-- How it is displayed inside other values. -/
  shown : Except Obstacle Text
  /-- The report on it, where it is an error. -/
  report : Text
  deriving DecidableEq, Inhabited, Repr

/-- A value of no fixed shape. -/
inductive Value where
  | null
  | bool (b : Bool)
  | int (n : Int)
  | float (x : Binary64)
  | text (s : Text)
  | list (items : List Value)
  | tuple (items : List Value)
  | object (fields : List (Text × Value))
  | bytes (content : String)
  | thing (t : Thing)
  deriving Inhabited, Repr

namespace Value

def lookup? (name : Text) : List (Text × Value) → Option Value
  | [] => none
  | (k, v) :: rest => if k = name then some v else lookup? name rest

/-- A field's value, when the value is an object that has it. -/
def field? (v : Value) (name : Text) : Option Value :=
  match v with
  | .object fields => lookup? name fields
  | _ => none

/-- Sets a field: in its place when it is there, else at the end. -/
def insert (fields : List (Text × Value)) (name : Text) (v : Value) :
    List (Text × Value) :=
  match fields with
  | [] => [(name, v)]
  | (k, w) :: rest => if k = name then (k, v) :: rest else (k, w) :: insert rest name v

/-- Whether a value counts as present: not null, false, zero or empty. -/
def isPresent : Value → Bool
  | .null => false
  | .bool b => b
  | .int n => n != 0
  | .float x => !x.isZero
  | .text s => !s.isEmpty
  | .list items => !items.isEmpty
  | .tuple items => !items.isEmpty
  | .object fields => !fields.isEmpty
  | .bytes s => !s.isEmpty
  | .thing _ => true

/-- Whether a value says that there is nothing. -/
def isNull : Value → Bool
  | .null => true
  | _ => false

def typeName : Value → String
  | .null => "NoneType"
  | .bool _ => "bool"
  | .int _ => "int"
  | .float _ => "float"
  | .text _ => "str"
  | .list _ => "list"
  | .tuple _ => "tuple"
  | .object _ => "dict"
  | .bytes _ => "bytes"
  | .thing t => t.type

/-- The members of a value that has members: the items, the keys, what stands at each
place of a text, or the numbers of the bytes. -/
def members? : Value → Option (List Value)
  | .text s => some (s.toList.map fun g => .text (Text.singleton g))
  | .list items => some items
  | .tuple items => some items
  | .object fields => some (fields.map fun f => .text f.1)
  | .bytes s => some (s.toUTF8.toList.map fun b => .int b.toNat)
  | _ => none

end Value

end Triage
