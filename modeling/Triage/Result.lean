import Triage.Error
import Triage.Value.Same

/-!
# Results

What application code hands back instead of raising: a value, or an error that
is to be treated as if it had been raised.
-/

namespace Triage

/-- A success with its value, or a failure with its error. -/
inductive Result where
  | success (value : Value)
  | failure (incident : Incident)
  deriving Repr

namespace Result

def isFailure : Result → Bool
  | .success _ => false
  | .failure _ => true

/-- Whether two results are equal: successes with equal values, or failures with
the same error. -/
def same : Result → Result → Bool
  | .success v, .success w => v.same w
  | .failure i, .failure j => i.number == j.number
  | _, _ => false

end Result

end Triage
