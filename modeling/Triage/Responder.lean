import Triage.Exchange
import Triage.Result

/-!
# Answering with results

A success is answered with its value, and with no content at all when there is
none. A failure is answered with its problem, whatever its status: no handshake
takes place here.
-/

namespace Triage

open Http

/-- The mark at the start of the names of fields that stay inside the service. -/
def privateMark : List Glyph := ['_', 's', 'a']

/-- Whether a field is for others to see. -/
def isPublicName (name : Text) : Bool := !privateMark.isPrefixOf name.toList

mutual

/-- The value without its private fields, at any depth; bytes are published as text. -/
def Value.published : Value → Value
  | .bytes s => .text s
  | .list items => .list (publishedItems items)
  | .tuple items => .list (publishedItems items)
  | .object fields => .object (publishedFields fields)
  | v => v

def publishedItems : List Value → List Value
  | [] => []
  | v :: rest => v.published :: publishedItems rest

def publishedFields : List (Text × Value) → List (Text × Value)
  | [] => []
  | (name, v) :: rest =>
    if isPublicName name then (name, v.published) :: publishedFields rest
    else publishedFields rest

end

/-- Where a result is answered. -/
structure Place where
  path : Text
  /-- The status of the response so far. -/
  ambient : Int := 200
  requestId : Option Text := none
  deriving Repr

/-- How results are answered. -/
structure Responder where
  development : Bool := false
  format : BodyFormat := {}
  deriving Repr

/-- A response, what is remembered afterwards, and what has happened meanwhile. -/
structure Responded where
  response : Except Trouble Response
  memo : Memo
  events : List Event := []

namespace Responder

/-- What has happened when a failure is answered. -/
def failureEvents (e : Error) (status : Int) (p : Place) : List Event := [
  .counted (.resultFailure e.kind status),
  .logged {
    level := .error, logger := "faultline.results", message := "result_failure"
    requestId := p.requestId
    extra := [
      ("failure_kind", .text e.kind.label), ("exception_type", .text e.className),
      ("status", .int status), ("path", .text p.path)] }]

/-- The response that shows a problem. -/
def problemResponse (r : Responder) (p : Problem) : Except Trouble Response :=
  match r.format.write p.payload with
  | .error t => .error t
  | .ok body => Response.make p.status body (some r.format.contentType)

/-- Answers a failure, as part of a request with a memo. -/
def answerFailure (r : Responder) (i : Incident) (p : Place) (memo : Memo) : Responded :=
  match memo.classify i (.int p.ambient) r.development with
  | (.error t, memo) => ⟨.error t, memo, []⟩
  | (.ok known, memo) =>
    let problem := known.problem.withDefaults p.path p.requestId
    ⟨r.problemResponse problem, memo.fill i.number p.path p.requestId,
      failureEvents i.error problem.status p⟩

def successResponse (v : Value) : Except Trouble Response :=
  match v with
  | .null => Response.make 204 "" none
  | v => Response.json 200 [] v.published

/-- Answers a result, as part of a request with a memo. -/
def answer (r : Responder) (result : Result) (p : Place) (memo : Memo) : Responded :=
  match result with
  | .success v => ⟨successResponse v, memo, []⟩
  | .failure i => r.answerFailure i p memo

/-- Answers a result on its own: nothing is remembered before or after. -/
def answerAlone (r : Responder) (result : Result) (p : Place) :
    Except Trouble Response × List Event :=
  let responded := r.answer result p {}
  (responded.response, responded.events)

end Responder

end Triage
