import Triage.Proofs.Manners

/-!
# Raising and returning

What becomes of a request that gets to an endpoint for results (`Application.Admits`).

A failure is answered with its problem, and with nothing else, as long as there is one and
it can be sent. Its answer has been settled within the endpoint, so that no layer outside
has a say: neither what the caller takes nor whether the caller is still there plays a part.
Otherwise the trouble of classifying or writing it comes out in its place, and that is never
one for which a caller is turned away (`Admits.resolves`). Whatever is no failure goes out as
from an endpoint that answers no results (`Admits.handsOn`).
-/

namespace Triage

open Event

/-! ## Failures on their own -/

namespace Responder

/-- The problem that an error is shown as when nothing is remembered of it. -/
def problemOf (r : Responder) (e : Error) (place : Place) : Except Trouble Problem :=
  (classify e (.int place.ambient) r.development).map (·.withDefaults place.path place.requestId)

/-- The problem of an error has the status of an error, which is short. -/
theorem fitsDigits_of_problemOf {r : Responder} {e : Error} {place : Place} {q : Problem}
    (h : r.problemOf e place = .ok q) : Number.fitsDigits q.status = true := by
  obtain ⟨p, hclass, rfl⟩ := map_eq_ok_iff.mp h
  rw [Problem.withDefaults_status]
  obtain ⟨hlow, hhigh⟩ := (Error.isSketch_of_classify hclass).status
  exact Number.fitsDigits_of_natAbs_lt (by omega)

theorem answerFailure_of_error {r : Responder} {i : Incident} {place : Place} {t : Trouble}
    (h : r.problemOf i.error place = .error t) :
    r.answerFailure i place {} = ⟨.error t, {}, []⟩ := by
  rcases r.answerFailure_cases i place {} with ⟨t', hshown, heq⟩ | ⟨q, memo, hshown, -, -⟩
  · rw [Memo.shown_of_unknown rfl] at hshown
    obtain rfl := Except.error.inj (h.symm.trans hshown)
    exact heq
  · rw [Memo.shown_of_unknown rfl] at hshown
    cases h.symm.trans hshown

theorem answerFailure_of_ok {r : Responder} {i : Incident} {place : Place} {q : Problem}
    (h : r.problemOf i.error place = .ok q) :
    ∃ memo, r.answerFailure i place {} =
      ⟨r.problemResponse q, memo, failureEvents i.error q.status place⟩ := by
  rcases r.answerFailure_cases i place {} with ⟨t, hshown, -⟩ | ⟨q', memo, hshown, -, heq⟩
  · rw [Memo.shown_of_unknown rfl] at hshown
    cases h.symm.trans hshown
  · rw [Memo.shown_of_unknown rfl] at hshown
    obtain rfl := Except.ok.inj (h.symm.trans hshown)
    exact ⟨memo, heq⟩

end Responder

namespace Web

open Http Text

/-! ## Work -/

/-- Serving a value counts nothing but that it has been put back. -/
theorem eq_cacheRestamp_of_serve (s : Store) (q : Query) (factory : Except Raised Produced)
    (requestId : Option Text) :
    ∀ m ∈ counts (s.serve q factory requestId).events, m = .cacheRestamp := by
  unfold Store.serve
  dsimp only
  split
  · exact List.forall_mem_nil _
  · split
    · exact List.forall_mem_nil _
    · split
      · simp [restampEvents, counts]
      · exact List.forall_mem_nil _

/-- So does work, and it remembers nothing. -/
theorem Work.perform_spec (w : Work) (requestId : Option Text) {p : Progress}
    (hp : p.memo = {}) (hevents : p.events = []) :
    (w.perform requestId p).2.memo = {}
      ∧ ∀ m ∈ counts (w.perform requestId p).2.events, m = .cacheRestamp := by
  have hnone : ∀ m ∈ counts p.events, m = .cacheRestamp := by
    rw [hevents]
    exact List.forall_mem_nil _
  cases w with
  | done outcome => exact ⟨hp, hnone⟩
  | query q factory =>
      unfold perform
      cases hstore : p.store with
      | none => exact ⟨hp, hnone⟩
      | some store =>
          refine ⟨hp, ?_⟩
          show ∀ m ∈ counts (p.events ++ (store.serve q factory requestId).events), _
          rw [hevents, List.nil_append]
          exact eq_cacheRestamp_of_serve store q factory requestId

/-! ## Getting to an endpoint -/

/-- A request at an endpoint for results. -/
structure Visit where
  route : Route
  captures : Captures
  arguments : Arguments
  responder : Responder
  requestId : Option String
  /-- The number of the next id to be generated. -/
  next : Nat

/-- The request gets to the endpoint, which has all that it wants. -/
structure Application.Admits (a : Application) (c : Call) (s : Session) (v : Visit) : Prop where
  answersResults : v.route.endpoint.answersResults = true
  responder : a.responder = .ok v.responder
  bound : requestIdOf a c s.nextId = .ok (v.requestId, v.next)
  found : findRoute c a.routes = .endpoint v.route v.captures
  cache : v.route.endpoint.wantsCache = true → s.store.isSome
  read : ∃ body, wantedBody v.route.endpoint c = .ok body
    ∧ v.route.endpoint.parameters.read v.captures body = .ok v.arguments

namespace Visit

/-- Where the results are answered. -/
def place (v : Visit) (c : Call) : Place :=
  ⟨shownPath c.path, v.route.endpoint.ambient, v.requestId.map .ofString⟩

/-- What the endpoint's work comes to. -/
def worked (v : Visit) (c : Call) (s : Session) : Except Raised Returned × Progress :=
  (v.route.endpoint.work v.arguments).perform (v.requestId.map .ofString) (Application.start c s)

end Visit

theorem callRoute_of_read (a : Application) {c : Call} (requestId : Option String) (route : Route)
    {captures : Captures} {p : Progress} {body : Option Value} {arguments : Arguments}
    (hbody : wantedBody route.endpoint c = .ok body)
    (hcache : route.endpoint.wantsCache = true → p.store.isSome)
    (hread : route.endpoint.parameters.read captures body = .ok arguments) :
    callRoute a c requestId route captures p =
      route.endpoint.call a.responder (shownPath c.path) (requestId.map .ofString) arguments p := by
  have hthere : (route.endpoint.wantsCache && p.store.isNone) = false := by
    cases hwants : route.endpoint.wantsCache with
    | false => rfl
    | true => simp [hcache hwants]
  unfold callRoute
  simp only [hbody, hthere, hread, Bool.false_eq_true, if_false]

namespace Application.Admits

variable {a : Application} {c : Call} {s : Session} {v : Visit}

theorem called_eq (h : a.Admits c s v) :
    a.called c v.requestId s = v.route.endpoint.answerOutcome v.responder (v.place c)
      (v.worked c s).1 (v.worked c s).2 := by
  obtain ⟨body, hbody, hread⟩ := h.read
  unfold called
  rw [h.found]
  show callRoute a c v.requestId v.route v.captures (start c s) = _
  rw [callRoute_of_read a v.requestId v.route hbody h.cache hread]
  unfold Endpoint.call
  rw [Endpoint.perform_eq, h.responder]
  simp only [h.answersResults, if_true]
  rfl

end Application.Admits

/-! ## Going out -/

namespace Application

/-- The headers with the id of the request, where one is given out. -/
def idHeaders (a : Application) (requestId : Option String) (headers : Headers) : Headers :=
  match a.problems, requestId with
  | some problems, some id => withId problems.requestIdHeader id headers
  | _, _ => headers

variable {a : Application} {c : Call} {requestId : Option String}

/-- A whole response goes out as it is but for the id, and nothing happens on the way. -/
theorem outside_of_whole {n next : Nat} (hbound : requestIdOf a c n = .ok (requestId, next))
    (found : Found) (r : Response) (p : Progress) :
    (a.outside c requestId found (.ok (.whole r), p)).1 =
        ⟨[.start r.status (a.idHeaders requestId r.headers), .body r.body false], none⟩
      ∧ (a.outside c requestId found (.ok (.whole r), p)).2.events = p.events := by
  unfold outside idHeaders
  show (a.emerging c requestId found (.ok (.whole r), p)).1 = _
    ∧ (a.emerging c requestId found (.ok (.whole r), p)).2.events = _
  unfold emerging
  cases ha : a.problems with
  | none => exact ⟨rfl, rfl⟩
  | some problems =>
      obtain ⟨rfl, hname⟩ := requestIdOf_eq_ok ha hbound
      obtain ⟨-, hid⟩ := RequestId.bind_spec (c.header? (lowered problems.requestIdHeader)) n
      have hfree : ∀ raised, (runOf (.ok (.whole r))).raised = some raised →
          (runOf (.ok (.whole r))).isStarted = true ∨ raised.error.isOrdinary = false
            ∨ some problems.handler = none := fun raised h => nomatch h
      unfold shield
      dsimp only
      rw [Guard.guard_of_not_concerned hfree]
      refine ⟨?_, List.append_nil _⟩
      show identify problems.requestIdHeader _ (Run.ofResponse r) = _
      unfold identify Run.ofResponse Response.messages
      simp only [identified_eq hname hid]

/-- Nobody is turned away for a trouble that comes out of an endpoint. -/
theorem not_handshake_outside {found : Found} {t : Trouble} {p : Progress}
    {action : Action}
    (hp : Metric.handshake action ∉ counts p.events) :
    Metric.handshake action ∉
      counts (a.outside c requestId found (.error (.trouble t), p)).2.events := by
  have hnumberless : Passing.IsNumberless (.error (.trouble t), p) :=
    fun i hi => Raised.noConfusion (Except.error.inj hi)
  unfold outside
  rw [answerEarly_of_numberless a c requestId found hnumberless]
  unfold emerging
  cases a.problems with
  | none => exact hp
  | some problems =>
      cases requestId with
      | none => exact hp
      | some id =>
          show _ ∉ counts (p.events ++ _)
          rw [counts, List.filterMap_append, List.mem_append, not_or]
          exact ⟨hp, Guard.not_handshake_of_trouble _ t rfl (p.memo.find?_unusedFrom _) action⟩

end Application

/-! ## Failing -/

/-- The work has failed with an error: it has raised it, and it is one to be treated as a
failure, or it has returned it as one. -/
inductive FailsWith (e : Error) : Except Raised Returned → Prop
  | raised (raised : Raised) (herror : raised.error = e)
      (htreated : Endpoint.treatsAsFailure e = true) : FailsWith e (.error raised)
  | returned {i : Incident} (herror : i.error = e) : FailsWith e (.ok (.result (.failure i)))

theorem FailsWith.answerOutcome_eq {e : Error} {outcome : Except Raised Returned} {p : Progress}
    (h : FailsWith e outcome) (endpoint : Endpoint) (r : Responder) (place : Place) :
    ∃ i q, i.error = e ∧ q.memo = p.memo ∧ q.events = p.events
      ∧ endpoint.answerOutcome r place outcome p =
        Endpoint.answerResult r (.failure i) place q := by
  cases h with
  | raised raised herror htreated =>
      refine ⟨raised.asIncident p.fresh, (p.take raised).2, ?_, rfl, rfl, ?_⟩
      · rw [Guard.error_asIncident, herror]
      · exact Endpoint.answerOutcome_of_treated endpoint r place p (herror ▸ htreated)
  | @returned i herror => exact ⟨i, p, herror, rfl, rfl, rfl⟩

/-- What becomes of a request at an endpoint that has failed with an error. -/
structure Application.Resolves (a : Application) (c : Call) (s : Session) (v : Visit)
    (e : Error) : Prop where
  /-- The caller is never turned away. -/
  notTurnedAway : ∀ action, Metric.handshake action ∉ counts (a.answer c s).events
  /-- A problem that can be sent is sent, and counted and logged once, and nothing else
  happens: in particular the error is not left alone. -/
  shown : ∀ q, v.responder.problemOf e (v.place c) = .ok q →
    IsLatinText v.responder.format.contentType → v.responder.format.Holds q.payload →
    ∃ body, v.responder.format.write q.payload = .ok body
      ∧ (a.answer c s).run = ⟨[
          .start q.status (a.idHeaders v.requestId (Response.lengthHeader q.status body
            ++ Response.typeHeader (some v.responder.format.contentType))),
          .body body false], none⟩
      ∧ (a.answer c s).events =
          (v.worked c s).2.events ++ Responder.failureEvents e q.status (v.place c)
      ∧ ∀ reason, Metric.bypass reason ∉ counts (a.answer c s).events
  /-- What keeps a problem from being classified or sent comes out of the endpoint. -/
  escapes : ∀ t,
    (v.responder.problemOf e (v.place c)).bind v.responder.problemResponse = .error t →
    (a.called c v.requestId s).1 = .error (.trouble t)

namespace Application.Admits

variable {a : Application} {c : Call} {s : Session} {v : Visit}

/-- What comes out of an endpoint that has failed with an error: the response with its
problem, or the trouble of making one. -/
theorem called_cases (h : a.Admits c s v) {e : Error}
    (hfails : FailsWith e (v.worked c s).1) :
    ∃ p : Progress,
      (∃ t, v.responder.problemOf e (v.place c) = .error t
          ∧ a.called c v.requestId s = (.error (.trouble t), p)
          ∧ p.events = (v.worked c s).2.events)
        ∨ ∃ q, v.responder.problemOf e (v.place c) = .ok q
          ∧ a.called c v.requestId s = (replyOf (v.responder.problemResponse q), p)
          ∧ p.events =
            (v.worked c s).2.events ++ Responder.failureEvents e q.status (v.place c) := by
  obtain ⟨hmemo, -⟩ := Work.perform_spec (v.route.endpoint.work v.arguments)
    (v.requestId.map .ofString) (p := start c s) rfl rfl
  obtain ⟨i, p, rfl, hp, hevents, heq⟩ :=
    hfails.answerOutcome_eq v.route.endpoint v.responder (v.place c)
  rw [h.called_eq, heq, ← hevents, Endpoint.answerResult_failure, hp,
    show (v.worked c s).2.memo = {} from hmemo]
  refine ⟨{ p.log (v.responder.answerFailure i (v.place c) {}).events with
    memo := (v.responder.answerFailure i (v.place c) {}).memo }, ?_⟩
  cases hproblem : v.responder.problemOf i.error (v.place c) with
  | error t =>
      rw [Responder.answerFailure_of_error hproblem]
      exact Or.inl ⟨t, rfl, rfl, List.append_nil _⟩
  | ok q =>
      obtain ⟨memo, hanswer⟩ := Responder.answerFailure_of_ok hproblem
      rw [hanswer]
      exact Or.inr ⟨q, rfl, rfl, rfl⟩

/-- Nothing is counted within but what is put back into the cache, and the failure. -/
theorem counts_called (h : a.Admits c s v) {e : Error}
    (hfails : FailsWith e (v.worked c s).1) {metric : Metric}
    (hmetric : metric ∈ counts (a.called c v.requestId s).2.events) :
    metric = .cacheRestamp ∨ ∃ kind status, metric = .resultFailure kind status := by
  obtain ⟨-, hcounts⟩ := Work.perform_spec (v.route.endpoint.work v.arguments)
    (v.requestId.map .ofString) (p := start c s) rfl rfl
  obtain ⟨p, ⟨t, -, hcalled, hevents⟩ | ⟨q, -, hcalled, hevents⟩⟩ := h.called_cases hfails
  · rw [hcalled, hevents] at hmetric
    exact Or.inl (hcounts metric hmetric)
  · rw [hcalled, hevents, counts, List.filterMap_append, List.mem_append] at hmetric
    rcases hmetric with hmetric | hmetric
    · exact Or.inl (hcounts metric hmetric)
    · exact Or.inr ⟨_, _, List.mem_singleton.mp hmetric⟩

theorem events_eq (h : a.Admits c s v) : (a.answer c s).events =
    (a.outside c v.requestId (findRoute c a.routes) (a.called c v.requestId s)).2.events := by
  rw [answer_eq h.bound, pass_eq]

theorem not_handshake (h : a.Admits c s v) {e : Error}
    (hfails : FailsWith e (v.worked c s).1) (action : Action) :
    Metric.handshake action ∉ counts (a.answer c s).events := by
  have hwithin : Metric.handshake action ∉ counts (a.called c v.requestId s).2.events := by
    intro hmem
    rcases h.counts_called hfails hmem with heq | ⟨kind, status, heq⟩ <;> cases heq
  rw [h.events_eq]
  have htrouble : ∀ t p, a.called c v.requestId s = (.error (.trouble t), p) →
      Metric.handshake action ∉ counts (a.outside c v.requestId (findRoute c a.routes)
        (a.called c v.requestId s)).2.events := by
    intro t p hcalled
    rw [hcalled] at hwithin ⊢
    exact not_handshake_outside hwithin
  obtain ⟨p, ⟨t, -, hcalled, -⟩ | ⟨q, -, hcalled, -⟩⟩ := h.called_cases hfails
  · exact htrouble t p hcalled
  · cases hresponse : v.responder.problemResponse q with
    | error t => exact htrouble t p (by rw [hcalled, hresponse]; rfl)
    | ok response =>
        rw [hcalled] at hwithin ⊢
        rw [hresponse]
        show _ ∉ counts (outside a c v.requestId _ (.ok (.whole response), p)).2.events
        rw [(outside_of_whole h.bound _ response p).2]
        exact hwithin

theorem resolves (h : a.Admits c s v) {e : Error}
    (hfails : FailsWith e (v.worked c s).1) : a.Resolves c s v e := by
  refine ⟨h.not_handshake hfails, fun q hq htype hholds => ?_, fun t ht => ?_⟩
  · have hstatus := Responder.fitsDigits_of_problemOf hq
    obtain ⟨body, hwrite⟩ := (Problem.holds_payload_iff hstatus).mp hholds
    obtain ⟨p, ⟨t, ht, -, -⟩ | ⟨q', hq', hcalled, hevents⟩⟩ := h.called_cases hfails
    · cases hq.symm.trans ht
    · obtain rfl := Except.ok.inj (hq.symm.trans hq')
      rw [Responder.problemResponse_of_write htype hwrite] at hcalled
      obtain ⟨hrun, hafter⟩ := outside_of_whole h.bound (findRoute c a.routes)
        ⟨q.status, _, body⟩ p
      have hanswered : (a.answer c s).events = p.events := by
        rw [h.events_eq, hcalled]
        exact hafter
      refine ⟨body, hwrite, ?_, hanswered.trans hevents, fun reason hmem => ?_⟩
      · rw [answer_eq h.bound, pass_eq, hcalled]
        show Fallback.send (outside a c v.requestId _ (.ok (.whole _), p)).1 = _
        rw [hrun]
        rfl
      · rw [hanswered, show p = (a.called c v.requestId s).2 by rw [hcalled]] at hmem
        rcases h.counts_called hfails hmem with heq | ⟨kind, status, heq⟩ <;> cases heq
  · obtain ⟨p, ⟨t', ht', hcalled, -⟩ | ⟨q, hq, hcalled, -⟩⟩ := h.called_cases hfails
    · rw [ht'] at ht
      obtain rfl := Except.error.inj ht
      rw [hcalled]
    · rw [hq] at ht
      rw [hcalled, show v.responder.problemResponse q = .error t from ht]
      rfl

end Application.Admits

/-! ## Handing on -/

/-- What is handed on where no results are answered. -/
def Endpoint.handOn (e : Endpoint) : Except Raised Returned → Except Raised Reply
  | .ok returned => e.sendAsIs returned
  | .error raised => .error raised

/-- The route with its endpoint for results turned into any other one. -/
def Route.plain (route : Route) : Route :=
  { route with endpoint := { route.endpoint with answersResults := false } }

/-- The application in which no endpoint is one for results. -/
def Application.plain (a : Application) : Application := a.mapRoutes Route.plain

theorem Route.isKept_plain : IsKept Route.plain := ⟨fun _ => rfl, fun _ => rfl, fun _ => rfl⟩

/-- What an endpoint for results has no say in: an error that is not treated as a failure,
and what is handed back that is no result. -/
def IsHandedOn : Except Raised Returned → Prop
  | .error raised => Endpoint.treatsAsFailure raised.error = false
  | .ok (.result _) => False
  | .ok _ => True

theorem IsHandedOn.answerOutcome_eq {outcome : Except Raised Returned} (h : IsHandedOn outcome)
    (e : Endpoint) (r : Responder) (place : Place) (p : Progress) :
    e.answerOutcome r place outcome p = (e.handOn outcome, p) := by
  cases outcome with
  | error raised => exact e.answerOutcome_of_untreated r place p h
  | ok returned =>
      cases returned with
      | result result => cases h
      | value v => rfl
      | reply reply => rfl

/-- What becomes of a request at an endpoint whose work has come to nothing that is
answered there. -/
structure Application.HandsOn (a : Application) (c : Call) (s : Session) (v : Visit) : Prop where
  /-- It comes out of the endpoint as it is. -/
  called : a.called c v.requestId s =
    (v.route.endpoint.handOn (v.worked c s).1, (v.worked c s).2)
  /-- The request is answered as where no endpoint is one for results. -/
  plain : a.answer c s = a.plain.answer c s

namespace Application.Admits

variable {a : Application} {c : Call} {s : Session} {v : Visit}

theorem called_plain (h : a.Admits c s v) : a.plain.called c v.requestId s =
    (v.route.endpoint.handOn (v.worked c s).1, (v.worked c s).2) := by
  obtain ⟨body, hbody, hread⟩ := h.read
  unfold Application.plain
  rw [called_mapRoutes Route.isKept_plain, h.found]
  show callRoute _ c v.requestId v.route.plain v.captures (start c s) = _
  rw [callRoute_of_read _ v.requestId v.route.plain (p := start c s) hbody h.cache hread]
  unfold Endpoint.call
  rw [Endpoint.perform_eq]
  rw [if_neg (show ¬v.route.plain.endpoint.answersResults = true from Bool.false_ne_true)]
  show (match (v.worked c s).1 with
    | .ok returned => (v.route.endpoint.sendAsIs returned, (v.worked c s).2)
    | .error raised => (.error raised, (v.worked c s).2)) = _
  cases (v.worked c s).1 <;> rfl

theorem handsOn (h : a.Admits c s v) (hon : IsHandedOn (v.worked c s).1) : a.HandsOn c s v := by
  have hcalled : a.called c v.requestId s =
      (v.route.endpoint.handOn (v.worked c s).1, (v.worked c s).2) :=
    h.called_eq.trans (hon.answerOutcome_eq ..)
  refine ⟨hcalled, ?_⟩
  have hpass : a.pass c v.requestId s = a.plain.pass c v.requestId s := by
    rw [pass_eq, plain, pass_mapRoutes Route.isKept_plain, ← plain, h.called_plain, hcalled]
  have hbound : requestIdOf a.plain c s.nextId = .ok (v.requestId, v.next) := h.bound
  rw [answer_eq h.bound, answer_eq hbound, hpass]

end Application.Admits

/-! ## Either way -/

/-- **Raising is returning.** Whatever the flavours of its endpoints, an application answers
every request alike, even while the endpoints for results raise in one flavour the errors
that they return in another. Where such an endpoint fails, its error is resolved: nobody is
turned away, and a problem that can be sent is what is sent, with nothing else counted or
logged. Where its work comes to nothing that is answered there, that is handed on. -/
theorem Application.raising_is_returning (a : Application) (c : Call) (s : Session)
    (f g : Route → Flavour) :
    ((a.flavoured f).answer c s).Alike ((a.flavoured g).answer c s)
      ∧ (∀ v e, a.Admits c s v → FailsWith e (v.worked c s).1 →
          a.Resolves c s v e)
      ∧ ∀ v, a.Admits c s v → IsHandedOn (v.worked c s).1 → a.HandsOn c s v :=
  ⟨(a.answer_flavoured f c s).trans (a.answer_flavoured g c s).symm,
    fun _ _ hadmits hfails => hadmits.resolves hfails,
    fun _ hadmits hon => hadmits.handsOn hon⟩

/-- A page that is not there. -/
def missing (text : Text) : Error := .ofService .notFound (some (.text text))

def missingRoute (text : Text) : Route where
  template := ⟨"/", [.char '/']⟩
  endpoint := {
    answersResults := true
    work := fun _ => .done (.error (.incident ⟨0, missing text⟩)) }

def archive (text : Text) : Application := .ofSettings {} {} [missingRoute text]

/-- A request of a caller who takes no problems. -/
def pageCall : Call where
  method := "GET"
  path := "/"
  headers := [("Accept", "text/html"), ("X-Request-Id", "r1")]

def archiveSession : Session := { nextIncident := 1 }

def missingVisit (text : Text) : Visit where
  route := missingRoute text
  captures := []
  arguments := []
  responder := {}
  requestId := some "r1"
  next := 1

theorem admits_archive (text : Text) :
    (archive text).Admits pageCall archiveSession (missingVisit text) where
  answersResults := rfl
  responder := rfl
  bound := by
    have hproblems : (archive text).problems = (archive "").problems := rfl
    unfold requestIdOf
    rw [hproblems]
    show _ = Except.ok (some "r1", 1)
    exact eq_ok_of_toOption (by decide +kernel)
  found := by
    have hmatch : (missingRoute text).template.match? pageCall.path = some [] := by
      simp [Template.match?, missingRoute, pageCall, matchPieces]
    show findRoute pageCall [missingRoute text] = .endpoint (missingRoute text) []
    rw [findRoute, hmatch]
    rfl
  cache := fun h => nomatch h
  read := ⟨none, rfl, rfl⟩

/-- What the caller is shown of it. -/
def missingProblem : Problem where
  status := 404
  title := some "Not Found"
  typeUri := some "https://tools.ietf.org/html/rfc9110#section-15.5.5"
  detail := some "gone"
  instancePath := some "/"
  requestId := some "r1"

theorem problemOf_missing : (missingVisit "gone").responder.problemOf (missing "gone")
    ((missingVisit "gone").place pageCall) = .ok missingProblem := rfl

theorem holds_missingProblem : ({} : BodyFormat).Holds missingProblem.payload :=
  Or.inr (by decide +kernel)

def inPlace : Flavour := ⟨.raises, false⟩

def aside : Flavour := ⟨.returns 0, true⟩

theorem missing_page_either_way :
    (((archive "gone").flavoured fun _ => inPlace).answer pageCall archiveSession).Alike
        (((archive "gone").flavoured fun _ => aside).answer pageCall archiveSession)
      ∧ ∃ headers body,
        ((archive "gone").answer pageCall archiveSession).run =
            ⟨[.start 404 headers, .body body false], none⟩
          ∧ counts ((archive "gone").answer pageCall archiveSession).events =
            [.resultFailure .notFound 404] := by
  obtain ⟨halike, hresolves, -⟩ := (archive "gone").raising_is_returning pageCall archiveSession
    (fun _ => inPlace) (fun _ => aside)
  have hfails : FailsWith (missing "gone")
      ((missingVisit "gone").worked pageCall archiveSession).1 :=
    .raised (.incident ⟨0, missing "gone"⟩) rfl rfl
  obtain ⟨body, -, hrun, hevents, -⟩ := (hresolves _ _ (admits_archive "gone") hfails).shown
    missingProblem problemOf_missing (by decide) holds_missingProblem
  exact ⟨halike, _, body, hrun, hevents ▸ rfl⟩

/-- A problem that holds half of a surrogate pair cannot be sent. The trouble of sending it
is an error like any other, which is left alone for a caller who takes no problems. -/
theorem unsendable_page_is_left_alone :
    Endpoint.treatsAsFailure (missing (Text.singleton (.ofNat 0xd800))) = true
      ∧ (archive (Text.singleton (.ofNat 0xd800))).Admits pageCall archiveSession
          (missingVisit (Text.singleton (.ofNat 0xd800)))
      ∧ Metric.bypass .notAcceptable ∈ counts
          ((archive (Text.singleton (.ofNat 0xd800))).answer pageCall archiveSession).events := by
  refine ⟨rfl, admits_archive _, ?_⟩
  have hadmits := admits_archive (Text.singleton (.ofNat 0xd800))
  rw [hadmits.events_eq, hadmits.found, hadmits.called_eq]
  decide +kernel

end Web

end Triage
