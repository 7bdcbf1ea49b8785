/-!
# Kinds of failure

A closed list: every error belongs to exactly one kind, and the kind alone
decides how the error is presented.
-/

namespace Triage

/-- What went wrong, as far as a caller is concerned. -/
inductive Kind where
  | authenticationFailure
  | unauthenticatedAccess
  | unauthorizedAccess
  | forbiddenAccess
  | genericSecurity
  | conflict
  | alreadyExists
  | badRequest
  | malformedRequest
  | batchOperationFailure
  | concurrencyConflict
  | notFound
  | keyNotFound
  | validationFailure
  | unknown
  deriving DecidableEq, Repr, Inhabited

namespace Kind

/-- All kinds, in the order in which they are listed. -/
def all : List Kind := [
  .authenticationFailure, .unauthenticatedAccess, .unauthorizedAccess, .forbiddenAccess,
  .genericSecurity, .conflict, .alreadyExists, .badRequest, .malformedRequest,
  .batchOperationFailure, .concurrencyConflict, .notFound, .keyNotFound, .validationFailure,
  .unknown]

/-- The word for a kind in metrics and logs. -/
def label : Kind → String
  | .authenticationFailure => "authentication_failure"
  | .unauthenticatedAccess => "unauthenticated_access"
  | .unauthorizedAccess => "unauthorized_access"
  | .forbiddenAccess => "forbidden_access"
  | .genericSecurity => "generic_security"
  | .conflict => "conflict"
  | .alreadyExists => "already_exists"
  | .badRequest => "bad_request"
  | .malformedRequest => "malformed_request"
  | .batchOperationFailure => "batch_operation_failure"
  | .concurrencyConflict => "concurrency_conflict"
  | .notFound => "not_found"
  | .keyNotFound => "key_not_found"
  | .validationFailure => "validation_failure"
  | .unknown => "unknown"

/-- The code by which a kind is referred to: its label in capitals. -/
def code (k : Kind) : String := String.ofList (k.label.toList.map Char.toUpper)

/-- A kind's code with the name of the list that it belongs to. -/
def fullName (k : Kind) : String := "FailureKind." ++ k.code

def ofCode? (code : String) : Option Kind := all.find? (·.code == code)

theorem mem_all (k : Kind) : k ∈ all := by cases k <;> decide

end Kind

end Triage
