import Triage.Cache.Service
import Triage.Responder
import Triage.Web.Input
import Triage.Web.Message

/-!
# Endpoints

An endpoint does its work and hands something back, or raises an error. An
endpoint for results has its results answered, and its errors treated as
failures; only HTTP errors, and errors that are not there to be handled, go
further. What another endpoint hands back is sent as it is.
-/

namespace Triage.Web

open Http

/-- What is sent: a response, or pieces of a text one after the other, which may
break off with an error. -/
inductive Reply where
  | whole (r : Response)
  | pieces (chunks : List Text) (broken : Option Raised)
  deriving Repr

inductive Returned where
  | value (v : Value)
  | result (r : Result)
  | reply (r : Reply)
  deriving Repr

def Returned.ofProduced : Produced → Returned
  | .result r => .result r
  | .plain v => .value v

/-- What an endpoint does. -/
inductive Work where
  /-- It is done, with something to hand back or an error. -/
  | done (outcome : Except Raised Returned)
  /-- It asks the cache. -/
  | query (q : Query) (factory : Except Raised Produced)

structure Endpoint where
  requirements : List Requirement := []
  /-- Whether results and errors are answered here. -/
  answersResults : Bool := false
  parameters : Parameters := {}
  /-- The status that the response gets before the endpoint is called, if any. -/
  presetStatus : Option Int := none
  /-- Whether the endpoint wants the cache. -/
  wantsCache : Bool := false
  /-- Whether the endpoint works in a thread of its own. -/
  inThread : Bool := false
  work : Arguments → Work

/-- What changes while a request is dealt with. -/
structure Progress where
  memo : Memo := {}
  store : Option Store := none
  /-- The number of the next incident. -/
  fresh : Nat := 0
  events : List Event := []
  calls : List StoreCall := []
  /-- What the client has sent besides, and nobody has looked at yet. -/
  waiting : List ClientMessage := []

namespace Progress

def log (p : Progress) (events : List Event) : Progress := { p with events := p.events ++ events }

/-- Takes a number for an incident. -/
def take (p : Progress) (r : Raised) : Incident × Progress :=
  (r.asIncident p.fresh, { p with fresh := p.fresh + 1 })

end Progress

/-- Does the work of an endpoint. -/
def Work.perform (w : Work) (requestId : Option Text) (p : Progress) :
    Except Raised Returned × Progress :=
  match w with
  | .done outcome => (outcome, p)
  | .query q factory =>
    match p.store with
    | none => (.error (.trouble .noCache), p)
    | some store =>
      let served := store.serve q factory requestId
      let p := { p.log served.events with
        store := some served.store, calls := p.calls ++ served.calls }
      (served.answer.map .ofProduced, p)

/-! ## Sending a value as it is -/

/-- What a service class keeps with its errors, besides their message. -/
def ownAttributes : ServiceClass → List String
  | .batchOperation => [Error.statusAttribute]
  | .validationFailed => [Error.failuresAttribute]
  | _ => []

/-- An attribute as a value, if it is one. -/
def attributeValue? : Attribute → Option Value
  | .value v => some v
  | .items items => some (.list (items.map (·.toValue FieldName.wire)))
  | .kind k => some (.text k.label)
  | .entries _ => none

/-- What is not known of a request that does not fit, unless it was one of an endpoint. -/
def unknownOrigin : List String := [
  "endpoint_ctx", "endpoint_function", "endpoint_path", "endpoint_file", "endpoint_line", "body"]

/-- What can be seen of an error in a value. -/
def errorFields (e : Error) : List (Text × Value) :=
  match e.form with
  | .service cls message =>
    ("message", message) :: (ownAttributes cls).filterMap fun name =>
      ((Error.attribute? name e.attributes).bind attributeValue?).map fun v => (name, v)
  | .http _ status detail headers => [
      ("status_code", .int status), ("detail", detail),
      ("headers", match headers with
        | some headers => .object (headers.map fun h => (h.1, .text h.2))
        | none => .null)]
  | .requestValidation entries _ =>
    ("_errors", .list entries) :: unknownOrigin.map fun (name : String) => (name, .null)
  | _ => []

def resultValue : Result → Value
  | .success v => .object [("value", v)]
  | .failure i => .object [("error", .object (errorFields i.error))]

/-- Whether a response of a status may have a body. -/
def allowsBody (status : Int) : Bool :=
  !(status < 200 || status == 204 || status == 205 || status == 304)

def valueResponse (status : Int) (v : Value) : Except Trouble Response :=
  match Response.json status [] v.published with
  | .ok r => .ok (if allowsBody status then r else { r with body := "" })
  | .error t => .error t

/-! ## Answering -/

/-- A response that may be missing, as a reply. -/
def replyOf : Except Trouble Response → Except Raised Reply
  | .ok r => .ok (.whole r)
  | .error t => .error (.trouble t)

namespace Endpoint

/-- What a thread keeps of a call until it is asked for: what was handed back, or the
error that was raised. -/
def keptByThread : Except Raised Returned → Except Raised Returned
  | .ok returned => .ok returned
  | .error raised => .error raised

/-- Does the work of an endpoint, where the endpoint works. -/
def perform (e : Endpoint) (arguments : Arguments) (requestId : Option Text) (p : Progress) :
    Except Raised Returned × Progress :=
  let (outcome, p) := (e.work arguments).perform requestId p
  (if e.inThread then keptByThread outcome else outcome, p)

theorem keptByThread_eq (outcome : Except Raised Returned) : keptByThread outcome = outcome := by
  cases outcome <;> rfl

/-- It makes no difference where the work is done. -/
@[simp] theorem perform_eq (e : Endpoint) (arguments : Arguments) (requestId : Option Text)
    (p : Progress) : e.perform arguments requestId p = (e.work arguments).perform requestId p := by
  simp [perform, keptByThread_eq]

/-- The status that a response has before the endpoint is called. -/
def ambient (e : Endpoint) : Int :=
  match e.presetStatus with
  | some 0 => 200
  | some status => status
  | none => 200

/-- Sends what an endpoint has handed back, as it is. -/
def sendAsIs (e : Endpoint) : Returned → Except Raised Reply
  | .reply r => .ok r
  | .value v => replyOf (valueResponse (e.presetStatus.getD 200) v)
  | .result r => replyOf (valueResponse (e.presetStatus.getD 200) (resultValue r))

def answerResult (r : Responder) (result : Result) (place : Place) (p : Progress) :
    Except Raised Reply × Progress :=
  let responded := r.answer result place p.memo
  (replyOf responded.response, { p.log responded.events with memo := responded.memo })

/-- Whether an error that an endpoint for results raises is treated as a failure. -/
def treatsAsFailure (e : Error) : Bool := e.isOrdinary && !e.isHttp

/-- Answers what an endpoint for results hands back or raises. -/
def answerOutcome (e : Endpoint) (r : Responder) (place : Place)
    (outcome : Except Raised Returned) (p : Progress) : Except Raised Reply × Progress :=
  match outcome with
  | .ok (.result result) => answerResult r result place p
  | .ok other => (e.sendAsIs other, p)
  | .error raised =>
    if treatsAsFailure raised.error then
      let (i, p) := p.take raised
      answerResult r (.failure i) place p
    else (.error raised, p)

/-- Calls an endpoint. A responder is only looked for where results are answered. -/
def call (e : Endpoint) (responder : Except Trouble Responder) (path : Text)
    (requestId : Option Text) (arguments : Arguments) (p : Progress) :
    Except Raised Reply × Progress :=
  if e.answersResults then
    match responder with
    | .error t => (.error (.trouble t), p)
    | .ok r =>
      let (outcome, p) := e.perform arguments requestId p
      e.answerOutcome r ⟨path, e.ambient, requestId⟩ outcome p
  else
    let (outcome, p) := e.perform arguments requestId p
    match outcome with
    | .ok returned => (e.sendAsIs returned, p)
    | .error raised => (.error raised, p)

end Endpoint

end Triage.Web
