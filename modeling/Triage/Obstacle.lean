import Triage.Number.Decimal
import Triage.Text.Glyph

/-!
# Obstacles to putting values into words

Not every value can be displayed as text or written as JSON: a whole number may
have too many digits, and values may stand too deep inside others. JSON knows
some types only, and no number that is infinite or none at all.
-/

namespace Triage

/-- Why a value is not put into words. -/
inductive Obstacle where
  /-- A whole number has more digits than are written. -/
  | tooManyDigits
  /-- A value stands too deep inside others to be displayed. -/
  | tooDeepToShow
  /-- A value stands too deep inside others to be written as JSON. -/
  | tooDeepToWrite
  /-- A number that JSON cannot hold was to be written. -/
  | notFinite
  /-- A value of a type that JSON does not have was to be written. -/
  | unknownToJson (type : String)
  deriving DecidableEq, Repr, Inhabited

namespace Obstacle

open Number

def message : Obstacle → String
  | .tooManyDigits =>
    "Exceeds the limit (" ++ decimalText mostDigits ++ " digits) for integer string " ++
      "conversion; use sys.set_int_max_str_digits() to increase the limit"
  | .tooDeepToShow => "maximum recursion depth exceeded while getting the repr of an object"
  | .tooDeepToWrite => "maximum recursion depth exceeded while encoding a JSON object"
  | .notFinite => "Out of range float values are not JSON compliant"
  | .unknownToJson type => "Object of type " ++ type ++ " is not JSON serializable"

end Obstacle

/-- A text, or the obstacle to it: whether two of these are the same can be decided. -/
instance Obstacle.decEqText : DecidableEq (Except Obstacle Text)
  | .ok s, .ok t => decidable_of_iff (s = t) (by simp)
  | .error o, .error p => decidable_of_iff (o = p) (by simp)
  | .ok _, .error _ => isFalse nofun
  | .error _, .ok _ => isFalse nofun

/-- How many lists and objects may stand around a value, where nothing else has
taken any of the room for them. -/
def deepest : Nat := 960

/-- A whole number in digits, where it does not have too many. -/
def Number.wholeText (n : Int) : Except Obstacle Text :=
  if fitsDigits n then .ok (decimalText n) else .error .tooManyDigits

end Triage
