import Triage.Access.Policy
import Triage.Event
import Triage.Http.Response
import Triage.Memo

/-!
# Exchanges

An exchange is a request together with the response in the making, what the
client still sends, and what is remembered of the request's errors. The
response is drafted: status, headers and content can be changed until it is
rendered.
-/

namespace Triage

open Http

/-! ## The request -/

/-- What is known of a request from the start. -/
structure Request where
  path : Text
  accept : List String := []
  requirements : List Requirement := []
  /-- How problems are written, if that is set up. -/
  format : Option BodyFormat := none
  requestId : Option Text := none
  deriving Repr

/-! ## The response in the making -/

structure Content where
  body : String
  mediaType : String
  deriving DecidableEq, Repr

/-- A response in the making. -/
structure Draft where
  status : Int := 200
  headers : List (String × Text) := []
  content : Option Content := none
  deriving DecidableEq, Repr

namespace Draft

def setStatus (d : Draft) (status : Int) : Draft := { d with status }

def appendHeader (d : Draft) (name : String) (value : Text) : Draft :=
  { d with headers := d.headers ++ [(name, value)] }

/-- Drops headers and content; the status stays. -/
def clear (d : Draft) : Draft := { d with headers := [], content := none }

/-- Sets the content to a value, written as `format` says. -/
def write (d : Draft) (format : BodyFormat) (v : Value) (mediaType : String) :
    Except Trouble Draft :=
  match format.write v with
  | .error t => .error t
  | .ok body => .ok { d with content := some ⟨body, mediaType⟩ }

/-- The body that a draft has so far. -/
def body (d : Draft) : String := (d.content.map (·.body)).getD ""

def render (d : Draft) : Except Trouble Response :=
  match Response.make d.status d.body (d.content.map (·.mediaType)) with
  | .error t => .error t
  | .ok r =>
    match r.headers.appendAll d.headers with
    | .error t => .error t
    | .ok headers => .ok { r with headers }

end Draft

/-! ## The client -/

/-- What a client sends while it waits. -/
inductive ClientMessage where
  | body
  | disconnect
  deriving DecidableEq, Repr

/-- What a client has sent and nobody has looked at yet. -/
structure Inbox where
  waiting : List ClientMessage := []
  /-- Whether a disconnect has been taken out. -/
  disconnected : Bool := false
  deriving DecidableEq, Repr

/-- Looks whether the client is gone: takes at most one message, and none once a
disconnect has been taken. -/
def Inbox.poll (i : Inbox) : Bool × Inbox :=
  if i.disconnected then (true, i)
  else
    match i.waiting with
    | [] => (false, i)
    | .disconnect :: rest => (true, ⟨rest, true⟩)
    | .body :: rest => (false, ⟨rest, false⟩)

/-- A request and everything that belongs to it. -/
structure Exchange where
  request : Request
  draft : Draft := {}
  inbox : Inbox := {}
  memo : Memo := {}
  deriving Repr

end Triage
