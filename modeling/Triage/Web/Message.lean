import Triage.Error.Make
import Triage.Http.Response
import Triage.Cache.Store

/-!
# Messages of a response

A response goes out as messages: its start with status and headers, then pieces
of its body. What handles a request sends messages and may then fail.
-/

namespace Triage

/-- A message that is sent to the client, or to what stands before it. -/
inductive Message where
  | start (status : Int) (headers : Http.Headers)
  | body (text : String) (more : Bool)
  | other (type : String)
  deriving DecidableEq, Repr

namespace Message

/-- The type of what starts a response. -/
def startType : String := "http.response.start"

/-- The type of a piece of a body. -/
def bodyType : String := "http.response.body"

/-- The type of a message, by which those that take it tell what it is. -/
def type : Message → String
  | .start .. => startType
  | .body .. => bodyType
  | .other t => t

/-- Whether a message starts a response; its type alone says so. -/
def isStart (m : Message) : Bool := m.type == startType

end Message

def Http.Response.messages (r : Http.Response) : List Message :=
  [.start r.status r.headers, .body r.body false]

def Raised.error : Raised → Error
  | .incident i => i.error
  | .trouble t => t.toError

/-- The incident that was raised; a trouble becomes the incident of a new number. -/
def Raised.asIncident (number : Nat) : Raised → Incident
  | .incident i => i
  | .trouble t => ⟨number, t.toError⟩

/-- What was sent for a request, and what escaped in the end. -/
structure Run where
  messages : List Message := []
  raised : Option Raised := none
  deriving Repr

namespace Run

def isStarted (r : Run) : Bool := r.messages.any Message.isStart

def ofResponse (r : Http.Response) : Run := { messages := r.messages }

end Run

end Triage
