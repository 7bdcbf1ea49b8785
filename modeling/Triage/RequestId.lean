import Triage.Text.Blank
import Triage.Text.Quoted

/-!
# Request ids

A request brings its own id or gets one. Ids are echoed into headers and bodies,
so only plain tokens are taken over; anything else is replaced by the next
generated id.
-/

namespace Triage.RequestId

open Text

/-- The most characters of an id. -/
def maxLength : Nat := 128

/-- Whether a character may be part of an id. -/
def isTokenChar (c : Char) : Bool :=
  ('A' ≤ c && c ≤ 'Z') || ('a' ≤ c && c ≤ 'z') || ('0' ≤ c && c ≤ '9') ||
    c == '.' || c == '_' || c == ':' || c == '-'

/-- Whether a text is an id as it stands. -/
def isToken (cs : List Char) : Bool :=
  !cs.isEmpty && cs.length ≤ maxLength && cs.all isTokenChar

/-- Whether a text is taken for an id. The pattern for ids looks for the end of a line, so
it takes a line break behind an id as well; no trimmed text has one there. -/
def isAccepted (cs : List Char) : Bool :=
  isToken cs || (cs.getLast? == some '\n' && isToken cs.dropLast)

/-- The number of digits of a generated id. -/
def generatedLength : Nat := 32

def generated (n : Nat) : String := String.ofList (hexDigits generatedLength n)

/-- The id for a request that brings `incoming`, and the number of the next id to be
generated, where `generate` gives the id of each number. -/
def bindBy (generate : Nat → String) (incoming : Option String) (next : Nat) : String × Nat :=
  let candidate := trim ((incoming.getD "").toList)
  if isAccepted candidate then (String.ofList candidate, next) else (generate next, next + 1)

/-- The id for a request that brings `incoming`, and the number of the next id
to be generated. -/
def bind (incoming : Option String) (next : Nat) : String × Nat := bindBy generated incoming next

/-! ## What is bound

The id of a request is bound for all that is done for it. One request after the other,
each binding takes the place of the one before. -/

/-- The id that is bound, and the number of the next id to be generated. -/
structure Binding where
  current : String := ""
  next : Nat := 1
  deriving DecidableEq, Repr

namespace Binding

variable (generate : Nat → String)

/-- Binds the id for a request that brings `incoming`, and tells which one it is. -/
def set (b : Binding) (incoming : Option String) : String × Binding :=
  let (id, next) := bindBy generate incoming b.next
  (id, { current := id, next })

/-- What is told for each of several requests, and what is bound then. -/
def run (b : Binding) : List (Option String) → List (String × Binding)
  | [] => []
  | incoming :: rest =>
    let told := b.set generate incoming
    told :: told.2.run rest

def after (b : Binding) (incoming : List (Option String)) : Binding :=
  incoming.foldl (fun b v => (b.set generate v).2) b

variable {generate}

/-- What is told at a place of a run comes of what is bound by the requests before it. -/
theorem getElem?_run (b : Binding) (incoming : List (Option String)) (k : Nat) :
    (b.run generate incoming)[k]? =
      incoming[k]?.map ((b.after generate (incoming.take k)).set generate) := by
  induction incoming generalizing b k with
  | nil => rfl
  | cons v rest ih =>
      cases k with
      | zero => rfl
      | succ k => exact ih _ k

end Binding

end Triage.RequestId
