import Triage.Proofs.Passing

/-!
# Manners of failing

An endpoint for results may raise its errors or catch and return them, in a thread of its
own or not: its flavour. Under every flavour each request is answered the same
(`answer_flavoured`).

Flavours leave the numbers of incidents different, and with them what is remembered. The
argument is that this cannot be told from outside. What leaves the endpoints is the same
but for the numbers, and where these differ, nothing that is on its way out bears one
(`Twins`); each layer keeps this, since the handler deals alike with two incidents of one
error that nothing is remembered of (`handle_alike`).
-/

namespace Triage

/-! ## Incidents that nothing is remembered of -/

/-- The exchange with nothing remembered. -/
def Exchange.forgotten (x : Exchange) : Exchange := { x with memo := {} }

/-- Two ways of handling that differ in nothing but what is remembered. -/
structure Handled.Alike (a b : Handled) : Prop where
  outcome : a.outcome = b.outcome
  exchange : a.exchange.forgotten = b.exchange.forgotten
  events : a.events = b.events

theorem Exchange.eq_of_forgotten {x y : Exchange} (h : x.forgotten = y.forgotten) :
    x = { y with memo := x.memo } := by
  obtain ⟨request, draft, inbox, memo⟩ := x
  obtain ⟨request', draft', inbox', memo'⟩ := y
  obtain ⟨rfl, rfl, rfl, -⟩ := Exchange.mk.inj h
  rfl

namespace Handler

variable {h : Handler} {x y : Exchange} {i j : Incident}

theorem present_alike (format : Http.BodyFormat) (e : Error) (q : Problem) (x : Exchange)
    (m n : Memo) : (present format e q { x with memo := m }).Alike
      (present format e q { x with memo := n }) := by
  unfold present Draft.write
  cases format.write q.payload <;> exact ⟨rfl, rfl, rfl⟩

theorem resolve_alike (format : Http.BodyFormat) (he : i.error = j.error)
    (hxy : x.forgotten = y.forgotten) (hi : x.memo.find? i.number = none)
    (hj : y.memo.find? j.number = none) :
    (h.resolve format i x).Alike (h.resolve format j y) := by
  obtain ⟨m, hm⟩ : ∃ m, x.memo = m := ⟨_, rfl⟩
  obtain rfl : x = { y with memo := m } := hm ▸ Exchange.eq_of_forgotten hxy
  have hi : m.find? i.number = none := hi
  unfold resolve Memo.classify
  simp only [hi, hj, he]
  cases Triage.classify j.error (.int y.draft.status) h.development with
  | error t => exact ⟨rfl, rfl, rfl⟩
  | ok q =>
      dsimp only
      cases actionFor? q.status with
      | some action => exact ⟨rfl, rfl, rfl⟩
      | none => exact present_alike format j.error _ y _ _

/-- Two incidents of one error that nothing is remembered of are handled alike. -/
theorem handle_alike (h : Handler) (he : i.error = j.error)
    (hxy : x.forgotten = y.forgotten) (hi : x.memo.find? i.number = none)
    (hj : y.memo.find? j.number = none) : (h.handle i x).Alike (h.handle j y) := by
  obtain ⟨m, hm⟩ : ∃ m, x.memo = m := ⟨_, rfl⟩
  obtain rfl : x = { y with memo := m } := hm ▸ Exchange.eq_of_forgotten hxy
  have hgrounds : Exchange.reasonToDecline? { y with memo := m } i = y.reasonToDecline? j := by
    unfold Exchange.reasonToDecline? Exchange.grounds
    rw [he]
  cases hreason : y.reasonToDecline? j with
  | some reason =>
      rw [handle_of_declined hreason, handle_of_declined (hgrounds.trans hreason)]
      refine ⟨rfl, ?_, rfl⟩
      unfold bypass Exchange.lookedAt
      rw [he]
      cases j.error.isCancellation <;> rfl
  | none =>
      obtain ⟨format, hformat, heq⟩ := handle_of_accepted (h := h) hreason
      obtain ⟨format', hformat', heq'⟩ := handle_of_accepted (h := h) (hgrounds.trans hreason)
      obtain rfl : format' = format := Option.some.inj (hformat'.symm.trans hformat)
      rw [heq, heq']
      exact resolve_alike format' he rfl hi hj

end Handler

/-- Two ends of a guarded run that differ in nothing but what is remembered. -/
structure Guarded.Alike (a b : Guarded) : Prop where
  run : a.run = b.run
  exchange : a.exchange.forgotten = b.exchange.forgotten
  events : a.events = b.events

theorem Guard.guard_alike (handler : Option Handler) {run : Run} {x y : Exchange} {n k : Nat}
    (hrun : ∀ i, run.raised = some (.incident i) → run.isStarted = true)
    (hxy : x.forgotten = y.forgotten) (hx : x.memo.find? n = none) (hy : y.memo.find? k = none) :
    (guard handler n run x).Alike (guard handler k run y) := by
  rcases concerned_or_free handler run with ⟨h, raised, hc⟩ | hfree
  · rw [guard_of_concerned hc, guard_of_concerned hc]
    cases raised with
    | incident i =>
        have hstarted := hrun i hc.raisedIs
        rw [hc.notStarted] at hstarted
        cases hstarted
    | trouble t =>
        obtain ⟨houtcome, hexchange, hevents⟩ := Handler.handle_alike h
          (i := ⟨n, t.toError⟩) (j := ⟨k, t.toError⟩) rfl hxy hx hy
        have hdraft : (h.handle ⟨n, t.toError⟩ x).exchange.draft =
            (h.handle ⟨k, t.toError⟩ y).exchange.draft := (Exchange.mk.inj hexchange).2.1
        unfold handle Raised.asIncident
        dsimp only
        rw [houtcome, hdraft]
        cases (h.handle ⟨k, t.toError⟩ y).outcome with
        | error t => exact ⟨rfl, hexchange, hevents⟩
        | ok o => cases o <;> exact ⟨rfl, hexchange, hevents⟩
  · rw [guard_of_not_concerned hfree, guard_of_not_concerned hfree]
    exact ⟨rfl, hxy, rfl⟩

/-! ## Answering under different numbers -/

namespace Responder

variable {i j : Incident}

/-- Where nothing is remembered, the answer to a failure depends on its error alone. -/
theorem answerFailure_congr (r : Responder) (place : Place) (he : i.error = j.error) :
    (r.answerFailure i place {}).response = (r.answerFailure j place {}).response
      ∧ (r.answerFailure i place {}).events = (r.answerFailure j place {}).events := by
  unfold answerFailure Memo.classify
  rw [he]
  cases hclass : Triage.classify j.error (.int place.ambient) r.development with
  | error t => simp [Memo.find?]
  | ok q => simp [Memo.find?]

end Responder

namespace Web

open Http

/-! ## Flavours -/

/-- How an endpoint lets on that it has failed: it raises the error, or it catches and
returns it. A trouble that it catches becomes the incident of a number. -/
inductive Manner where
  | raises
  | returns (number : Nat)

/-- What an endpoint ends with that fails in this manner. -/
def Manner.put (m : Manner) (outcome : Except Raised Returned) : Except Raised Returned :=
  match m, outcome with
  | .returns number, .error raised =>
    if Endpoint.treatsAsFailure raised.error then
      .ok (.result (.failure (raised.asIncident number)))
    else .error raised
  | _, outcome => outcome

namespace Manner

variable {raised : Raised}

theorem put_of_treated (number : Nat) (h : Endpoint.treatsAsFailure raised.error = true) :
    (returns number).put (.error raised) =
      .ok (.result (.failure (raised.asIncident number))) := by
  unfold put
  simp only [h, if_true]

theorem put_of_untreated (number : Nat) (h : Endpoint.treatsAsFailure raised.error = false) :
    (returns number).put (.error raised) = .error raised := by
  unfold put
  simp only [h, Bool.false_eq_true, if_false]

end Manner

/-- How an endpoint for results is written. -/
structure Flavour where
  manner : Manner
  inThread : Bool

/-- The work done in this manner. -/
def Work.inManner (m : Manner) : Work → Work
  | .done outcome => .done (m.put outcome)
  | .query q factory => .query q factory

/-- The endpoint in this flavour; how it fails is told by endpoints for results only. -/
def Endpoint.flavoured (f : Flavour) (e : Endpoint) : Endpoint :=
  { e with
    inThread := f.inThread
    work := fun arguments =>
      if e.answersResults then (e.work arguments).inManner f.manner else e.work arguments }

/-- The route with its endpoint in the flavour that is chosen for it. -/
def Route.flavoured (flavour : Route → Flavour) (route : Route) : Route :=
  { route with endpoint := route.endpoint.flavoured (flavour route) }

/-- The application with each endpoint in the flavour that is chosen for its route. -/
def Application.flavoured (flavour : Route → Flavour) (a : Application) : Application :=
  a.mapRoutes (Route.flavoured flavour)

theorem Route.isKept_flavoured (flavour : Route → Flavour) : IsKept (Route.flavoured flavour) :=
  ⟨fun _ => rfl, fun _ => rfl, fun _ => rfl⟩

/-! ## The same but for the numbers -/

/-- What can be told of the progress from outside: all but the numbers of incidents and
what is remembered under them. -/
def Progress.outward (p : Progress) : Progress := { p with memo := {}, fresh := 0 }

/-- Nothing on its way out bears a number. -/
def Passing.IsNumberless (x : Passing) : Prop := ∀ i, x.1 ≠ .error (.incident i)

/-- Two passings that cannot be told apart from outside. -/
inductive Twins : Passing → Passing → Prop
  | same (x : Passing) : Twins x x
  | numberless {outcome : Except Raised Reply} {p q : Progress}
      (hp : Passing.IsNumberless (outcome, p)) (hq : Passing.IsNumberless (outcome, q))
      (heq : p.outward = q.outward) : Twins (outcome, p) (outcome, q)

/-! ## The endpoint -/

namespace Endpoint

theorem answerResult_failure (r : Responder) (i : Incident) (place : Place) (p : Progress) :
    answerResult r (.failure i) place p = (replyOf (r.answerFailure i place p.memo).response,
      { p.log (r.answerFailure i place p.memo).events with
        memo := (r.answerFailure i place p.memo).memo }) := rfl

/-- Two failures with one error are answered alike where nothing is remembered. -/
theorem twins_answerResult (r : Responder) (place : Place) {i j : Incident}
    (he : i.error = j.error) {p q : Progress} (hp : p.memo = {}) (hq : q.memo = {})
    (heq : p.outward = q.outward) :
    Twins (answerResult r (.failure i) place p) (answerResult r (.failure j) place q) := by
  obtain ⟨hresponse, hevents⟩ := r.answerFailure_congr place he
  have hnone : ∀ (response : Except Trouble Response) k,
      replyOf response ≠ .error (.incident k) := by
    intro response k hraised
    obtain ⟨t, ht⟩ := trouble_of_replyOf hraised
    cases ht
  rw [answerResult_failure, answerResult_failure, hp, hq, hresponse, hevents]
  refine .numberless (hnone _) (hnone _) ?_
  exact congrArg (Progress.log · (r.answerFailure j place {}).events) heq

theorem answerOutcome_of_treated (e : Endpoint) (r : Responder) (place : Place) (p : Progress)
    {raised : Raised} (h : treatsAsFailure raised.error = true) :
    e.answerOutcome r place (.error raised) p =
      answerResult r (.failure (raised.asIncident p.fresh)) place (p.take raised).2 := by
  unfold answerOutcome
  simp only [h, if_true]
  rfl

theorem answerOutcome_of_untreated (e : Endpoint) (r : Responder) (place : Place) (p : Progress)
    {raised : Raised} (h : treatsAsFailure raised.error = false) :
    e.answerOutcome r place (.error raised) p = (.error raised, p) := by
  unfold answerOutcome
  simp only [h, Bool.false_eq_true, if_false]

/-- What an endpoint ends with is answered alike in every manner. -/
theorem twins_answerOutcome (e : Endpoint) (r : Responder) (place : Place) {m : Manner}
    {p : Progress} (hp : p.memo = {}) (outcome : Except Raised Returned) :
    Twins (e.answerOutcome r place (m.put outcome) p) (e.answerOutcome r place outcome p) := by
  cases m with
  | raises => exact .same _
  | returns number =>
      cases outcome with
      | ok returned => exact .same _
      | error raised =>
          cases htreated : treatsAsFailure raised.error with
          | false =>
              rw [Manner.put_of_untreated number htreated]
              exact .same _
          | true =>
              rw [Manner.put_of_treated number htreated,
                answerOutcome_of_treated e r place p htreated]
              have herror : (raised.asIncident number).error =
                  (raised.asIncident p.fresh).error := by
                rw [Guard.error_asIncident, Guard.error_asIncident]
              exact twins_answerResult r place (q := (p.take raised).2) herror hp hp rfl

/-- An endpoint in a flavour answers as it does by itself. -/
theorem twins_call (f : Flavour) (e : Endpoint) (responder : Except Trouble Responder)
    (path : Text) (requestId : Option Text) (arguments : Arguments) {p : Progress}
    (hp : p.memo = {}) :
    Twins ((e.flavoured f).call responder path requestId arguments p)
      (e.call responder path requestId arguments p) := by
  unfold call
  rw [perform_eq, perform_eq]
  unfold flavoured
  cases hresults : e.answersResults with
  | false => exact .same _
  | true =>
      simp only [if_true]
      cases responder with
      | error t => exact .same _
      | ok r =>
          cases hwork : e.work arguments with
          | query q factory => exact .same _
          | done outcome => exact twins_answerOutcome e r _ hp outcome

end Endpoint

/-! ## Finding and calling -/

theorem twins_callRoute (flavour : Route → Flavour) (a : Application) (c : Call)
    (requestId : Option String) (route : Route) (captures : Captures) {p : Progress}
    (hp : p.memo = {}) :
    Twins (callRoute (a.flavoured flavour) c requestId (route.flavoured flavour) captures p)
      (callRoute a c requestId route captures p) := by
  unfold callRoute
  dsimp only
  rw [show wantedBody (route.flavoured flavour).endpoint c = wantedBody route.endpoint c from rfl,
    show (route.flavoured flavour).endpoint.wantsCache = route.endpoint.wantsCache from rfl,
    show (route.flavoured flavour).endpoint.parameters = route.endpoint.parameters from rfl]
  cases wantedBody route.endpoint c with
  | error fault => exact .same _
  | ok body =>
      dsimp only
      split
      · exact .same _
      · cases route.endpoint.parameters.read captures body with
        | error entries => exact .same _
        | ok arguments =>
            exact Endpoint.twins_call (flavour route) route.endpoint a.responder _ _ arguments hp

theorem twins_called (flavour : Route → Flavour) (a : Application) (c : Call)
    (requestId : Option String) (s : Session) :
    Twins ((a.flavoured flavour).called c requestId s) (a.called c requestId s) := by
  unfold Application.flavoured
  rw [Application.called_mapRoutes (Route.isKept_flavoured flavour)]
  unfold Application.called
  cases hfound : findRoute c a.routes with
  | otherMethod route => exact .same _
  | nothing => exact .same _
  | endpoint route captures => exact twins_callRoute flavour a c requestId route captures rfl

/-! ## The layers around -/

/-- What bears no number has no answer of its own. -/
theorem answerEarly_of_numberless (a : Application) (c : Call) (requestId : Option String)
    (found : Found) {outcome : Except Raised Reply} {p : Progress}
    (h : Passing.IsNumberless (outcome, p)) :
    answerEarly a c requestId found outcome p = (outcome, p) := by
  cases outcome with
  | ok reply => rfl
  | error raised =>
      cases raised with
      | incident i => exact absurd rfl (h i)
      | trouble t =>
          have hanswer : Fallback.response? (Raised.trouble t).error = none := response?_toError t
          unfold answerEarly
          simp only [hanswer]

theorem Twins.early {x y : Passing} (h : Twins x y) (a : Application) (c : Call)
    (requestId : Option String) (found : Found) :
    Twins (answerEarly a c requestId found x.1 x.2) (answerEarly a c requestId found y.1 y.2) := by
  cases h with
  | same => exact .same _
  | numberless hp hq heq =>
      rw [answerEarly_of_numberless a c requestId found hp,
        answerEarly_of_numberless a c requestId found hq]
      exact .numberless hp hq heq

/-- What escapes under a number from a run without a number has been sent in part. -/
theorem Passing.IsNumberless.isStarted_runOf {outcome : Except Raised Reply} {p : Progress}
    (h : Passing.IsNumberless (outcome, p)) (i : Incident)
    (hi : (runOf outcome).raised = some (.incident i)) : (runOf outcome).isStarted = true := by
  rcases messages_runOf outcome with
    ⟨raised, rfl, hrun⟩ | ⟨reply, status, headers, rest, -, hmessages, -, -⟩
  · rw [hrun] at hi
    exact absurd (congrArg _ (Option.some.inj hi)) (h i)
  · unfold Run.isStarted
    rw [hmessages]
    rfl

/-- The layers that show problems make the same of what cannot be told apart. -/
theorem Twins.shielded {x y : Passing} (h : Twins x y) (problems : Problems) (c : Call)
    (id : String) (found : Found) :
    (shield problems c id found (runOf x.1) x.2).1 = (shield problems c id found (runOf y.1) y.2).1
      ∧ (shield problems c id found (runOf x.1) x.2).2.outward =
        (shield problems c id found (runOf y.1) y.2).2.outward := by
  cases h with
  | same => exact ⟨rfl, rfl⟩
  | @numberless outcome p q hp hq heq =>
      obtain ⟨-, hstore, -, hbefore, hcalls, hwaiting⟩ := Progress.mk.inj heq
      have hexchange : (exchangeFor problems c (some id) found 200 p).forgotten =
          (exchangeFor problems c (some id) found 200 q).forgotten := by
        unfold exchangeFor Exchange.forgotten
        rw [hwaiting]
      obtain ⟨hrun, hleft, hevents⟩ := Guard.guard_alike (some problems.handler)
        hp.isStarted_runOf hexchange (p.memo.find?_unusedFrom p.fresh)
        (q.memo.find?_unusedFrom q.fresh)
      obtain ⟨-, -, hinbox, -⟩ := Exchange.mk.inj hleft
      refine ⟨congrArg (identify problems.requestIdHeader id) hrun, ?_⟩
      unfold shield Progress.outward Progress.log
      dsimp only
      rw [hstore, hbefore, hcalls, hevents, hinbox]

theorem Twins.emerging {x y : Passing} (h : Twins x y) (a : Application) (c : Call)
    (requestId : Option String) (found : Found) :
    (a.emerging c requestId found x).1 = (a.emerging c requestId found y).1
      ∧ (a.emerging c requestId found x).2.outward =
        (a.emerging c requestId found y).2.outward := by
  have hbare : runOf x.1 = runOf y.1 ∧ x.2.outward = y.2.outward := by
    cases h with
    | same => exact ⟨rfl, rfl⟩
    | numberless hp hq heq => exact ⟨rfl, heq⟩
  unfold Application.emerging
  cases a.problems with
  | none => exact hbare
  | some problems =>
      cases requestId with
      | none => exact hbare
      | some id => exact h.shielded problems c id found

/-! ## Whole requests -/

/-- Two answers that cannot be told apart: the same is sent, and the same escapes; the same
is counted and logged, the cache is asked the same, and what is kept for later requests is
the same but for the number of the next incident. -/
structure Answered.Alike (x y : Answered) : Prop where
  run : x.run = y.run
  events : x.events = y.events
  calls : x.calls = y.calls
  store : x.session.store = y.session.store
  nextId : x.session.nextId = y.session.nextId

theorem Answered.Alike.symm {x y : Answered} (h : x.Alike y) : y.Alike x :=
  ⟨h.run.symm, h.events.symm, h.calls.symm, h.store.symm, h.nextId.symm⟩

theorem Answered.Alike.trans {x y z : Answered} (h : x.Alike y) (h' : y.Alike z) : x.Alike z :=
  ⟨h.run.trans h'.run, h.events.trans h'.events, h.calls.trans h'.calls, h.store.trans h'.store,
    h.nextId.trans h'.nextId⟩

/-- An application whose endpoints are in flavours answers as it does by itself. -/
theorem Application.answer_flavoured (flavour : Route → Flavour) (a : Application) (c : Call)
    (s : Session) :
    ((a.flavoured flavour).answer c s).Alike (a.answer c s) := by
  have hbinds : requestIdOf (a.flavoured flavour) c s.nextId = requestIdOf a c s.nextId := rfl
  cases hbound : requestIdOf a c s.nextId with
  | error t =>
      unfold answer
      rw [hbinds, hbound]
      exact ⟨rfl, rfl, rfl, rfl, rfl⟩
  | ok bound =>
      obtain ⟨requestId, next⟩ := bound
      have htwins := twins_called flavour a c requestId s
      obtain ⟨hrun, houtward⟩ := (htwins.early a c requestId (findRoute c a.routes)).emerging a c
        requestId (findRoute c a.routes)
      obtain ⟨-, hstore, -, hevents, hcalls, -⟩ := Progress.mk.inj houtward
      have hpass : (a.flavoured flavour).pass c requestId s = _ :=
        a.pass_mapRoutes (Route.isKept_flavoured flavour) c requestId s
      rw [answer_eq (hbinds.trans hbound), answer_eq hbound, hpass, pass_eq]
      exact ⟨congrArg Fallback.send hrun, hevents, hcalls, hstore, rfl⟩

end Web

end Triage
