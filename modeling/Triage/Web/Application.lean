import Triage.Guard
import Triage.Handler.ErrorHeaders
import Triage.Log.Setup
import Triage.RequestId
import Triage.Settings
import Triage.Web.Fallback
import Triage.Web.Template

/-!
# Applications

An application finds the endpoint for a request, calls it, and turns errors into
responses on the way out: HTTP errors and requests that do not fit first, every
other error in the guard, and what is left in the bare answer. Every response
that passes gets the id of its request.
-/

namespace Triage.Web

open Http

/-- A route: requests of a method on the paths of a template go to an endpoint. -/
structure Route where
  template : Template
  method : String := "GET"
  endpoint : Endpoint

/-- A route for a method in any letter case. -/
def Route.make (template method : String) (endpoint : Endpoint) : Route :=
  ⟨.ofString template, String.ofList (method.toList.map Char.toUpper), endpoint⟩

/-- A request as it arrives. -/
structure Call where
  method : String
  path : String
  headers : List (String × String) := []
  body : String := ""
  /-- What the client sends besides, which nobody reads before an error is handled. -/
  waiting : List ClientMessage := []
  deriving Repr

/-- The first header of a name, in any letter case. -/
def Call.header? (c : Call) (name : String) : Option String :=
  let key := Text.lowered name
  (c.headers.find? fun h => Text.lowered h.1 == key).map (·.2)

/-- How problems are shown, where that is set up. -/
structure Problems where
  handler : Handler
  format : BodyFormat
  requestIdHeader : String

structure Application where
  title : String
  routes : List Route
  /-- What answers results; without settings there is none. -/
  responder : Except Trouble Responder
  problems : Option Problems

/-! ## Setting up -/

/-- What the makers of an application choose; what they leave open comes from the
settings. -/
structure Choices where
  development : Option Bool := none
  authenticator : Option Authenticator := none
  provider : Option Provider := none

/-- The title of an application that is not set up. -/
def bareTitle : String := "FastAPI"

/-- An application in which problems are not set up. -/
def Application.bare (settings : Except Trouble Settings) (routes : List Route) : Application where
  title := bareTitle
  routes := routes
  responder := settings.map fun s => { development := s.isDevelopment }
  problems := none

/-- The authenticator that settings stand for: challenges name the first default scheme. -/
def defaultAuthenticator (s : Settings) : Authenticator :=
  .headers s.defaultSchemes.head? none

/-- How problems are shown, from settings and choices. -/
def Problems.ofSettings (s : Settings) (c : Choices) : Problems where
  handler := {
    development := c.development.getD s.isDevelopment
    authenticator := some (c.authenticator.getD (defaultAuthenticator s))
    provider := some (c.provider.getD s.provider) }
  format := { contentType := s.problemContentType }
  requestIdHeader := s.requestIdHeader

def Application.ofSettings (s : Settings) (c : Choices) (routes : List Route) : Application :=
  let problems := Problems.ofSettings s c
  { title := s.appName
    routes
    responder := .ok { development := problems.handler.development, format := problems.format }
    problems := some problems }

/-- What has happened when problems were set up. -/
def setupEvents (p : Problems) : List Event := [
  .logged {
    level := .info, logger := "faultline.startup", message := "problem_details_installed"
    extra := [("development", .bool p.handler.development)] }]

/-- Sets up an application: logging first, then everything else. It needs a title. -/
def Application.setUp (s : Settings) (c : Choices) (routes : List Route) :
    Except Trouble (Application × List Event) :=
  match Log.setUp s.logLevel s.appName 0 with
  | .error t => .error t
  | .ok _ =>
    if s.appName.isEmpty then .error .noTitle
    else .ok (.ofSettings s c routes, setupEvents (Problems.ofSettings s c))

/-! ## Finding the endpoint -/

/-- What is found for a request. -/
inductive Found where
  | endpoint (route : Route) (captures : Captures)
  | otherMethod (route : Route)
  | nothing

/-- Finds the first route for a request; one that only lacks the method comes second. -/
def findRoute (c : Call) : List Route → Found
  | [] => .nothing
  | route :: rest =>
    match route.template.match? c.path with
    | none => findRoute c rest
    | some captures =>
      if route.method = c.method then .endpoint route captures
      else
        match findRoute c rest with
        | .endpoint other captures => .endpoint other captures
        | _ => .otherMethod route

def Found.requirements : Found → List Requirement
  | .endpoint route _ => route.endpoint.requirements
  | .otherMethod route => route.endpoint.requirements
  | .nothing => []

/-! ## Calling the endpoint -/

/-- What stands at one place of a path, as requests give it back: line ends and tabs are left
out, and what would end a path, or is no part of one, goes by its number. -/
def shownPathGlyph (g : Glyph) : List Glyph :=
  if g = '\\' then ['%', '5', 'C']
  else if g = '#' then ['%', '2', '3']
  else if g = '\t' ∨ g = '\n' ∨ g = '\r' then []
  else [g]

/-- A path as requests give it back, with a slash at its front. -/
def shownPath (path : Text) : Text :=
  let gs : List Glyph := match path.toList with
    | .char '/' :: rest => '/' :: rest
    | gs => '/' :: gs
  .ofList (gs.flatMap shownPathGlyph)

/-- An error about arguments that do not fit. -/
def misfit (route : Route) (entries : List Value) : Error :=
  .ofEntries entries (some (route.method ++ " " ++ route.template.text))

/-- Raises an error that comes up on the way to an endpoint. -/
def raise (e : Error) (p : Progress) : Except Raised Reply × Progress :=
  (.error (.incident ⟨p.fresh, e⟩), { p with fresh := p.fresh + 1 })

/-- What a caller is told whose body cannot be read at all. -/
def unreadableBody : String := "There was an error parsing the body"

/-- The error that a faulty body is. -/
def BodyFault.error (route : Route) : BodyFault → Error
  | .notJson cs m => misfit route [jsonEntry cs m]
  | .unreadable => .ofHttp .application 400 (.text unreadableBody) none

/-- The body of a request, if its endpoint wants one. -/
def wantedBody (e : Endpoint) (c : Call) : Except BodyFault (Option Value) :=
  if e.parameters.body.isSome then bodyValue? (c.header? "content-type") c.body else .ok none

/-- Calls the endpoint of a route: its body is read first, then what it depends
on is looked for, then its arguments are read. -/
def callRoute (a : Application) (c : Call) (requestId : Option String) (route : Route)
    (captures : Captures) (p : Progress) : Except Raised Reply × Progress :=
  let e := route.endpoint
  match wantedBody e c with
  | .error fault => raise (fault.error route) p
  | .ok body =>
    if e.wantsCache && p.store.isNone then (.error (.trouble .noCache), p)
    else
      match e.parameters.read captures body with
      | .error entries => raise (misfit route entries) p
      | .ok arguments =>
        e.call a.responder (shownPath c.path) (requestId.map .ofString) arguments p

/-- Deals with a request up to its errors. -/
def callFound (a : Application) (c : Call) (requestId : Option String) (found : Found)
    (p : Progress) : Except Raised Reply × Progress :=
  match found with
  | .endpoint route captures => callRoute a c requestId route captures p
  | .otherMethod route => raise (.ofHttp .transport 405 .null (some [("Allow", route.method)])) p
  | .nothing => raise (.ofHttp .transport 404 .null none) p

/-! ## Errors on the way out -/

/-- The exchange in which the errors of a request are handled. -/
def exchangeFor (problems : Problems) (c : Call) (requestId : Option String) (found : Found)
    (status : Int) (p : Progress) : Exchange where
  request := {
    path := shownPath c.path
    accept := parseAccept (c.header? "accept")
    requirements := found.requirements
    format := some problems.format
    requestId := requestId.map .ofString }
  draft := { status }
  inbox := { waiting := p.waiting }
  memo := p.memo

/-- The response to an HTTP error, or to a request that does not fit, that was
handled: what was drafted, with the headers that the error brings. -/
def handledResponse (outcome : Outcome) (draft : Draft) (brought : List (String × Text)) :
    Except Trouble Response :=
  match draft.render with
  | .error t => .error t
  | .ok r =>
    match outcome.mergeHeaders r.headers brought with
    | .error t => .error t
    | .ok headers => .ok { r with headers }

/-- Handles an HTTP error, or an error about a request that does not fit. -/
def handleEarly (problems : Problems) (c : Call) (requestId : Option String) (found : Found)
    (i : Incident) (status : Int) (brought : List (String × Text))
    (declined : Except Trouble Response) (p : Progress) : Except Raised Reply × Progress :=
  let handled := problems.handler.handle i (exchangeFor problems c requestId found status p)
  let p := { p.log handled.events with
    memo := handled.exchange.memo, waiting := handled.exchange.inbox.waiting }
  match handled.outcome with
  | .error t => (.error (.trouble t), p)
  | .ok .bypass => (replyOf declined, p)
  | .ok outcome => (replyOf (handledResponse outcome handled.exchange.draft brought), p)

/-- Turns the errors that have an answer of their own into responses. -/
def answerEarly (a : Application) (c : Call) (requestId : Option String) (found : Found)
    (outcome : Except Raised Reply) (p : Progress) : Except Raised Reply × Progress :=
  match outcome with
  | .ok reply => (.ok reply, p)
  | .error raised =>
    let e := raised.error
    match Fallback.response? e with
    | none => (.error raised, p)
    | some declined =>
      match a.problems with
      | none => (replyOf declined, p)
      | some problems =>
        let (i, p) := p.take raised
        match e.form with
        | .http _ status _ headers =>
          handleEarly problems c requestId found i status (headers.getD []) declined p
        | _ => handleEarly problems c requestId found i 200 [] declined p

/-- The media type of a text that is sent in pieces. -/
def streamMediaType : String := "text/x-stream"

/-- The error that comes of an error with an answer of its own, when a response
has already started. -/
def startedAlready : Error :=
  .ofCommon .runtimeError [.text "Caught handled exception, but response already started."]

/-- What escapes when a response that has started breaks off. -/
def brokenOff : Raised → Raised
  | .incident i =>
    .incident (if (Fallback.response? i.error).isSome then ⟨i.number, startedAlready⟩ else i)
  | .trouble t => .trouble t

/-- What is sent for pieces of a text, up to one that cannot be sent. -/
def sendPieces (broken : Option Raised) : List Text → Run
  | [] =>
    match broken with
    | none => { messages := [.body "" false] }
    | some raised => { raised := some (brokenOff raised) }
  | chunk :: rest =>
    match Response.checkBody chunk with
    | .error t => { raised := some (.trouble t) }
    | .ok chunk =>
      let run := sendPieces broken rest
      { run with messages := .body chunk true :: run.messages }

/-- What is sent for a reply. -/
def runOf (outcome : Except Raised Reply) : Run :=
  match outcome with
  | .error raised => { raised := some raised }
  | .ok (.whole r) => .ofResponse r
  | .ok (.pieces chunks broken) =>
    let run := sendPieces broken chunks
    let start := Message.start 200 [("content-type", Response.contentType streamMediaType)]
    { run with messages := start :: run.messages }

/-! ## The id of a request -/

/-- The header that carries the id whatever the settings. -/
def correlationHeader : String := "X-Correlation-Id"

/-- Puts the id of a request into the headers of its response. -/
def identified (name id : String) (h : Headers) : Except Trouble Headers :=
  match h.set name id with
  | .error t => .error t
  | .ok h => h.set correlationHeader id

/-- Puts the id of a request into its response, before anything of it is sent. -/
def identify (name id : String) (run : Run) : Run :=
  match run.messages with
  | .start status headers :: rest =>
    match identified name id headers with
    | .ok headers => { run with messages := .start status headers :: rest }
    | .error t => { raised := some (.trouble t) }
  | _ => run

/-! ## A whole request -/

/-- What an application keeps from one request to the next. -/
structure Session where
  store : Option Store := none
  /-- The number of the next id to be generated. -/
  nextId : Nat := 1
  /-- The number of the next incident. -/
  nextIncident : Nat := 0

structure Answered where
  run : Run
  session : Session
  events : List Event
  calls : List StoreCall

/-- The id of a request, and the number of the next one to be generated. The header
that may bring an id needs a name that a header can have. -/
def requestIdOf (a : Application) (c : Call) (next : Nat) : Except Trouble (Option String × Nat) :=
  match a.problems with
  | none => .ok (none, next)
  | some problems =>
    match headerText (Text.lowered problems.requestIdHeader) with
    | .error t => .error t
    | .ok name =>
      let (id, next) := RequestId.bind (c.header? name) next
      .ok (some id, next)

/-- The layers around the endpoint that show problems: the guard, and the id. A trouble
that gets to the guard is an error of its own, of which nothing is remembered. -/
def shield (problems : Problems) (c : Call) (id : String) (found : Found) (run : Run)
    (p : Progress) : Run × Progress :=
  let x := exchangeFor problems c (some id) found 200 p
  let number := p.memo.unusedFrom p.fresh
  let guarded := Guard.guard (some problems.handler) number run x
  (identify problems.requestIdHeader id guarded.run,
    { p.log guarded.events with
      memo := guarded.exchange.memo, fresh := number + 1
      waiting := guarded.exchange.inbox.waiting })

/-- What comes through the layers around the endpoint, for a request whose id is known,
if it has one. -/
def Application.pass (a : Application) (c : Call) (requestId : Option String) (s : Session) :
    Run × Progress :=
  let found := findRoute c a.routes
  let start : Progress := { store := s.store, fresh := s.nextIncident, waiting := c.waiting }
  let (outcome, p) := callFound a c requestId found start
  let (outcome, p) := answerEarly a c requestId found outcome p
  match a.problems, requestId with
  | some problems, some id => shield problems c id found (runOf outcome) p
  | _, _ => (runOf outcome, p)

/-- Answers a request whose id is known, if it has one. -/
def Application.answerAs (a : Application) (c : Call) (requestId : Option String) (nextId : Nat)
    (s : Session) : Answered :=
  let (run, p) := a.pass c requestId s
  { run := Fallback.send run
    session := ⟨p.store, nextId, p.fresh⟩
    events := p.events
    calls := p.calls }

def Application.answer (a : Application) (c : Call) (s : Session) : Answered :=
  match requestIdOf a c s.nextId with
  | .error t => ⟨Fallback.send { raised := some (.trouble t) }, s, [], []⟩
  | .ok (requestId, nextId) => a.answerAs c requestId nextId s

end Triage.Web
