import Triage.Value

/-!
# Equal values

Numbers are equal as numbers, whatever their type, and the truth values count
as one and zero. Objects are equal when they have the same fields in any order.
-/

namespace Triage.Value

open Number (Binary64)

/-- A number as it takes part in comparisons. -/
inductive Numeric where
  | whole (n : Int)
  | real (x : Binary64)

/-- The number that a value is, if it is one. -/
def numeric? : Value → Option Numeric
  | .bool b => some (.whole (if b then 1 else 0))
  | .int n => some (.whole n)
  | .float x => some (.real x)
  | _ => none

def Numeric.same : Numeric → Numeric → Bool
  | .whole m, .whole n => m == n
  | .whole m, .real x => x.compareInt m == some .eq
  | .real x, .whole n => x.compareInt n == some .eq
  | .real x, .real y => x.sameNumber y

mutual

def same : Value → Value → Bool
  | .null, w => match w with | .null => true | _ => false
  | .text s, w => match w with | .text t => s == t | _ => false
  | .list xs, w => match w with | .list ys => sameAll xs ys | _ => false
  | .tuple xs, w => match w with | .tuple ys => sameAll xs ys | _ => false
  | .object fs, w =>
    match w with
    | .object gs => fs.length == gs.length && sameFields fs gs
    | _ => false
  | .bytes s, w => match w with | .bytes t => s == t | _ => false
  | .thing s, w => match w with | .thing t => s == t | _ => false
  | v, w =>
    match v.numeric?, w.numeric? with
    | some a, some b => a.same b
    | _, _ => false

/-- Whether two rows of values are equal, one by one. -/
def sameAll : List Value → List Value → Bool
  | [], ys => ys.isEmpty
  | x :: xs, ys => match ys with | y :: ys => x.same y && sameAll xs ys | [] => false

/-- Whether every field of the first is a field of the second with an equal value. -/
def sameFields : List (Text × Value) → List (Text × Value) → Bool
  | [], _ => true
  | (k, v) :: rest, gs =>
    (match lookup? k gs with | some w => v.same w | none => false) && sameFields rest gs

end

end Triage.Value
