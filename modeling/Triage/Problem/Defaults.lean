import Triage.Problem
import Triage.Http.Status

/-!
# Default titles and types

The statuses that a problem's title and type are known for. Any other status
has its registered phrase for a title, if it has one, and the blank type.
Filling in defaults never touches a field that has a value.
-/

namespace Triage

/-- What a problem is called and which type it is of, unless it says so itself. -/
structure ProblemDefault where
  typeUri : String
  title : String
  deriving DecidableEq, Repr

namespace ProblemDefault

/-- A section of the standard that defines the statuses. -/
def rfcSection (number title : String) : ProblemDefault :=
  ⟨"https://tools.ietf.org/html/rfc9110#section-" ++ number, title⟩

/-- The listed statuses, ascending. -/
def listed : List (Int × ProblemDefault) := [
  (400, rfcSection "15.5.1" "Bad Request"),
  (401, rfcSection "15.5.2" "Unauthorized"),
  (403, rfcSection "15.5.4" "Forbidden"),
  (404, rfcSection "15.5.5" "Not Found"),
  (405, rfcSection "15.5.6" "Method Not Allowed"),
  (406, rfcSection "15.5.7" "Not Acceptable"),
  (408, rfcSection "15.5.9" "Request Timeout"),
  (409, rfcSection "15.5.10" "Conflict"),
  (412, rfcSection "15.5.13" "Precondition Failed"),
  (415, rfcSection "15.5.16" "Unsupported Media Type"),
  (422, rfcSection "15.5.21" "Unprocessable Entity"),
  (426, rfcSection "15.5.22" "Upgrade Required"),
  (500, rfcSection "15.6.1" "An error occurred while processing your request."),
  (502, rfcSection "15.6.3" "Bad Gateway"),
  (503, rfcSection "15.6.4" "Service Unavailable"),
  (504, rfcSection "15.6.5" "Gateway Timeout")]

def ofStatus? (status : Int) : Option ProblemDefault :=
  (listed.find? fun entry => entry.1 == status).map (·.2)

/-- The type of a problem that belongs to no category. -/
def blankType : String := "about:blank"

def title? (status : Int) : Option String :=
  match ofStatus? status with
  | some entry => some entry.title
  | none => Http.phrase? status

def typeOf (status : Int) : String :=
  match ofStatus? status with
  | some entry => entry.typeUri
  | none => blankType

end ProblemDefault

/-- A request id that is there and not empty. -/
def presentId : Option Text → Option Text
  | some s => if s.isEmpty then none else some s
  | none => none

/-- Fills in what a problem leaves open, for a request on `path`. -/
def Problem.withDefaults (p : Problem) (path : Text) (requestId : Option Text) : Problem :=
  { p with
    title := p.title.or ((ProblemDefault.title? p.status).map .ofString)
    typeUri := p.typeUri.or (some (ProblemDefault.typeOf p.status))
    instancePath := p.instancePath.or (some path)
    requestId := p.requestId.or (presentId requestId) }

namespace Problem

@[simp] theorem withDefaults_status (p : Problem) (path : Text) (requestId : Option Text) :
    (p.withDefaults path requestId).status = p.status := rfl

/-- What has been filled in once is not filled in again. -/
@[simp] theorem withDefaults_withDefaults (p : Problem) (path : Text)
    (requestId : Option Text) :
    (p.withDefaults path requestId).withDefaults path requestId =
      p.withDefaults path requestId := by
  simp [withDefaults, Option.or_assoc]

end Problem

end Triage
