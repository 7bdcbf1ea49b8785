import Triage.Proofs.RequestIds

/-!
# A request through all layers

A response to a request comes from the endpoint, or from one of the layers around it.
The layers are gone through one by one here. What holds after each of them is
`Passage`: what is remembered bears the id of the request, the headers are kept under
small names, and if a problem has been written so far, then what is on its way out shows
a problem with the id, or is a trouble. Whoever handles a trouble turns nobody away, so a
problem once written gives way to nothing but another problem.

The outermost layer puts the id into the headers. Hence the main result: whatever comes
through the layers carries the id of its request, under both names, and no other.
-/

namespace Triage.Web

open Http Text Event

/-! ## Replies -/

namespace Reply

/-- The headers of a whole response are kept under small names; pieces have no headers
of their own. -/
def IsSmall : Reply → Prop
  | .whole r => r.IsSmall
  | .pieces .. => True

/-- The reply is a whole response that shows a problem with this id. -/
def Shows (id : String) : Reply → Prop
  | .whole r => ShowsProblem id r.body
  | .pieces .. => False

end Reply

theorem exists_of_replyOf {response : Except Trouble Response} {reply : Reply}
    (h : replyOf response = .ok reply) : ∃ r, response = .ok r ∧ reply = .whole r := by
  cases response with
  | error t => cases h
  | ok r => exact ⟨r, rfl, (Except.ok.inj h).symm⟩

theorem trouble_of_replyOf {response : Except Trouble Response} {raised : Raised}
    (h : replyOf response = .error raised) : ∃ t, raised = .trouble t := by
  cases response with
  | error t => exact ⟨t, (Except.error.inj h).symm⟩
  | ok r => cases h

theorem isSmall_of_replyOf {response : Except Trouble Response} {reply : Reply}
    (hsmall : ∀ r, response = .ok r → r.IsSmall) (h : replyOf response = .ok reply) :
    reply.IsSmall := by
  obtain ⟨r, hr, rfl⟩ := exists_of_replyOf h
  exact hsmall r hr

theorem isSmall_of_valueResponse {status : Int} {v : Value} {r : Response}
    (h : valueResponse status v = .ok r) : r.IsSmall := by
  unfold valueResponse at h
  split at h
  · rename_i hjson
    have hsmall := Response.isSmall_of_json hjson
    obtain rfl := Except.ok.inj h
    split <;> exact hsmall
  · cases h

theorem isSmall_of_successResponse {v : Value} {r : Response}
    (h : Responder.successResponse v = .ok r) : r.IsSmall := by
  unfold Responder.successResponse at h
  split at h
  · exact Response.isSmall_of_make h
  · exact Response.isSmall_of_json h

theorem isSmall_of_answer {r : Responder} {result : Result} {place : Place} {m : Memo}
    {response : Response} (h : (r.answer result place m).response = .ok response) :
    response.IsSmall := by
  cases result with
  | success v => exact isSmall_of_successResponse h
  | failure i =>
      unfold Responder.answer at h
      rw [Responder.response_answerFailure] at h
      obtain ⟨q, -, hwritten⟩ := bind_eq_ok_iff.mp h
      unfold Responder.problemResponse at hwritten
      split at hwritten
      · cases hwritten
      · exact Response.isSmall_of_make hwritten

theorem Fallback.isSmall_of_response? {e : Error} {response : Except Trouble Response}
    (he : response? e = some response) {r : Response} (hr : response = .ok r) : r.IsSmall := by
  subst hr
  unfold response? at he
  split at he
  · have hhttp := Option.some.inj he
    unfold httpResponse at hhttp
    split at hhttp
    · exact Response.isSmall_of_json hhttp
    · exact Response.isSmall_of_makeWith hhttp
  · exact Response.isSmall_of_json (Option.some.inj he)
  · cases he

theorem isSmall_of_handledResponse {outcome : Outcome} {draft : Draft}
    {brought : List (String × Text)} {r : Response}
    (h : handledResponse outcome draft brought = .ok r) : r.IsSmall := by
  unfold handledResponse at h
  split at h
  · cases h
  · rename_i hrender
    split at h
    · cases h
    · rename_i hmerge
      obtain rfl := Except.ok.inj h
      exact Outcome.areSmall_of_mergeHeaders (Draft.isSmall_of_render hrender) hmerge

/-! ## What holds on the way out -/

/-- No problem has been counted yet. -/
structure IsQuiet (id : String) (p : Progress) : Prop where
  memo : p.memo.Bears id
  events : tellOfProblem p.events = false

/-- What holds of the outcome of a layer, and of what the layer leaves behind. `tidy`
says whether the endpoints themselves keep names small, and `told` whether a problem has
been written. -/
structure Passage (tidy told : Prop) (id : String) (passed : Except Raised Reply × Progress) :
    Prop where
  memo : passed.2.memo.Bears id
  names : tidy → ∀ reply, passed.1 = .ok reply → reply.IsSmall
  shows : told → (∀ reply, passed.1 = .ok reply → reply.Shows id)
    ∧ ∀ raised, passed.1 = .error raised → ∃ t, raised = .trouble t

theorem Passage.mono {tidy told told' : Prop} {id : String}
    {passed : Except Raised Reply × Progress} (h : Passage tidy told id passed)
    (htold : told' → told) : Passage tidy told' id passed :=
  ⟨h.memo, h.names, fun h' => h.shows (htold h')⟩

/-- What comes out of the endpoint: a problem has been written if one has been counted. -/
def Emergence (tidy : Prop) (id : String) (passed : Except Raised Reply × Progress) : Prop :=
  Passage tidy (tellOfProblem passed.2.events = true) id passed

variable {tidy told : Prop} {id : String} {p : Progress}

theorem IsQuiet.emergence (hp : IsQuiet id p) {outcome : Except Raised Reply}
    (hnames : tidy → ∀ reply, outcome = .ok reply → reply.IsSmall) :
    Emergence tidy id (outcome, p) where
  memo := hp.memo
  names := hnames
  shows htold := by
    rw [hp.events] at htold
    cases htold

theorem IsQuiet.raises (hp : IsQuiet id p) (raised : Raised) :
    Emergence tidy id (.error raised, p) :=
  hp.emergence fun _ _ h => nomatch h

theorem IsQuiet.tellOfProblem_append (hp : IsQuiet id p) (events : List Event) :
    tellOfProblem (p.events ++ events) = tellOfProblem events := by
  rw [Event.tellOfProblem_append, hp.events, Bool.false_or]

theorem emergence_raise (hp : IsQuiet id p) (e : Error) : Emergence tidy id (raise e p) := by
  have hnext : IsQuiet id { p with fresh := p.fresh + 1 } := ⟨hp.memo, hp.events⟩
  exact hnext.raises _

/-! ## The endpoint -/

/-- What an endpoint sends by itself has small names. -/
def Endpoint.IsTidy (e : Endpoint) : Prop :=
  ∀ arguments r, e.work arguments = .done (.ok (.reply (.whole r))) → r.IsSmall

theorem tellOfProblem_serve (s : Store) (q : Query) (factory : Except Raised Produced)
    (requestId : Option Text) : tellOfProblem (s.serve q factory requestId).events = false := by
  unfold Store.serve
  dsimp only
  split
  · rfl
  · split
    · rfl
    · split <;> rfl

/-- Work neither counts problems nor looks into what is remembered of errors. -/
theorem isQuiet_perform (hp : IsQuiet id p) (w : Work) (requestId : Option Text) :
    IsQuiet id (w.perform requestId p).2 := by
  cases w with
  | done outcome => exact hp
  | query q factory =>
      unfold Work.perform
      cases hstore : p.store with
      | none => exact hp
      | some store =>
          exact ⟨hp.memo, (hp.tellOfProblem_append _).trans (tellOfProblem_serve ..)⟩

/-- What comes out of the cache is no reply of its own. -/
theorem done_of_perform {w : Work} {requestId : Option Text} {reply : Reply}
    (h : (w.perform requestId p).1 = .ok (.reply reply)) : w = .done (.ok (.reply reply)) := by
  cases w with
  | done outcome =>
      have houtcome : outcome = .ok (.reply reply) := h
      rw [houtcome]
  | query q factory =>
      unfold Work.perform at h
      cases hstore : p.store with
      | none => simp [hstore] at h
      | some store =>
          simp only [hstore] at h
          obtain ⟨produced, -, hreply⟩ := map_eq_ok_iff.mp h
          cases produced <;> cases hreply

namespace Endpoint

variable {e : Endpoint}

theorem isSmall_of_sendAsIs {returned : Returned} {reply : Reply}
    (hown : ∀ own, returned = .reply own → own.IsSmall) (h : e.sendAsIs returned = .ok reply) :
    reply.IsSmall := by
  cases returned with
  | reply own =>
      obtain rfl := Except.ok.inj h
      exact hown _ rfl
  | value v => exact isSmall_of_replyOf (fun r => isSmall_of_valueResponse) h
  | result result => exact isSmall_of_replyOf (fun r => isSmall_of_valueResponse) h

/-- An answer to a result is the first to count a problem, and shows it. -/
theorem emergence_answerResult (hp : IsQuiet id p) (hid : id ≠ "") (r : Responder)
    (result : Result) {place : Place} (hplace : place.requestId = some (id : Text)) :
    Emergence tidy id (answerResult r result place p) := by
  unfold answerResult
  refine ⟨Responder.bears_answer hp.memo (Text.ofString_ne hid) hplace result,
    fun _ reply hreply => ?_,
    fun htold => ⟨fun reply hreply => ?_, fun raised hraised => trouble_of_replyOf hraised⟩⟩
  · exact isSmall_of_replyOf (fun r => isSmall_of_answer) hreply
  · obtain ⟨response, hresponse, rfl⟩ := exists_of_replyOf hreply
    have hevents := (hp.tellOfProblem_append _).symm.trans htold
    exact Responder.shows_answer hp.memo (Text.ofString_ne hid) hplace hevents hresponse

theorem emergence_answerOutcome (hp : IsQuiet id p) (hid : id ≠ "") (r : Responder)
    {place : Place} (hplace : place.requestId = some (id : Text)) {outcome : Except Raised Returned}
    (hown : tidy → ∀ own, outcome = .ok (.reply own) → own.IsSmall) :
    Emergence tidy id (e.answerOutcome r place outcome p) := by
  have hsent : ∀ returned, outcome = .ok returned →
      Emergence tidy id (e.sendAsIs returned, p) := by
    intro returned hreturned
    refine hp.emergence fun htidy reply hreply => isSmall_of_sendAsIs (fun own hown' => ?_) hreply
    exact hown htidy own (hreturned.trans (congrArg _ hown'))
  cases outcome with
  | ok returned =>
      cases returned with
      | result result => exact emergence_answerResult hp hid r result hplace
      | value v => exact hsent _ rfl
      | reply own => exact hsent _ rfl
  | error raised =>
      unfold answerOutcome
      dsimp only
      split
      · have hnext : IsQuiet id (p.take raised).2 := ⟨hp.memo, hp.events⟩
        exact emergence_answerResult hnext hid r _ hplace
      · exact hp.raises raised

theorem emergence_call (hp : IsQuiet id p) (hid : id ≠ "") (htidy : tidy → e.IsTidy)
    (responder : Except Trouble Responder) (path : Text) (arguments : Arguments) :
    Emergence tidy id (e.call responder path (some (id : Text)) arguments p) := by
  have hdone := isQuiet_perform hp (e.work arguments) (some (id : Text))
  have hown : tidy → ∀ own,
      ((e.work arguments).perform (some (id : Text)) p).1 = .ok (.reply own) → own.IsSmall := by
    intro h own hperformed
    cases own with
    | whole r => exact htidy h arguments r (done_of_perform hperformed)
    | pieces chunks broken => trivial
  unfold call
  rw [perform_eq]
  split
  · cases responder with
    | error t => exact hp.raises _
    | ok r => exact emergence_answerOutcome hdone hid r rfl hown
  · rcases hperform : (e.work arguments).perform (some (id : Text)) p with ⟨outcome, p'⟩
    rw [hperform] at hdone hown
    cases outcome with
    | error raised => exact IsQuiet.raises hdone raised
    | ok returned =>
        refine IsQuiet.emergence hdone fun h reply hreply =>
          isSmall_of_sendAsIs (fun own hown' => hown h own (congrArg _ hown')) hreply

end Endpoint

/-! ## Finding and calling -/

theorem emergence_callRoute (hp : IsQuiet id p) (hid : id ≠ "") (a : Application) (c : Call)
    {route : Route} (htidy : tidy → route.endpoint.IsTidy) (captures : Captures) :
    Emergence tidy id (callRoute a c (some id) route captures p) := by
  unfold callRoute
  dsimp only
  split
  · exact emergence_raise hp _
  · split
    · exact hp.raises _
    · split
      · exact emergence_raise hp _
      · exact Endpoint.emergence_call hp hid htidy a.responder _ _

theorem mem_of_findRoute {c : Call} {routes : List Route} {route : Route} {captures : Captures}
    (h : findRoute c routes = .endpoint route captures) : route ∈ routes := by
  induction routes with
  | nil => cases h
  | cons first rest ih =>
      unfold findRoute at h
      split at h
      · exact List.mem_cons_of_mem _ (ih h)
      · split at h
        · obtain ⟨rfl, -⟩ := Found.endpoint.inj h
          exact List.mem_cons_self ..
        · split at h
          · rename_i hrest
            obtain ⟨rfl, rfl⟩ := Found.endpoint.inj h
            exact List.mem_cons_of_mem _ (ih hrest)
          · cases h

/-- No endpoint of the application sends headers of other than small names by itself. -/
def Application.IsTidy (a : Application) : Prop := ∀ route ∈ a.routes, route.endpoint.IsTidy

theorem emergence_callFound (hp : IsQuiet id p) (hid : id ≠ "") (a : Application) (c : Call) :
    Emergence a.IsTidy id (callFound a c (some id) (findRoute c a.routes) p) := by
  cases hfound : findRoute c a.routes with
  | endpoint route captures =>
      exact emergence_callRoute hp hid a c (fun h => h route (mem_of_findRoute hfound)) captures
  | otherMethod route => exact emergence_raise hp _
  | nothing => exact emergence_raise hp _

/-! ## Errors with an answer of their own -/

/-- What goes wrong in the library itself is no error with an answer of its own. -/
theorem response?_toError (t : Trouble) : Fallback.response? t.toError = none := by
  cases t <;> rfl

theorem body_of_handledResponse {outcome : Outcome} {draft : Draft}
    {brought : List (String × Text)} {r : Response}
    (h : handledResponse outcome draft brought = .ok r) : r.body = draft.body := by
  unfold handledResponse at h
  split at h
  · cases h
  · rename_i hrender
    split at h
    · cases h
    · obtain rfl := Except.ok.inj h
      have hbody := Draft.body_of_render hrender
      exact hbody

/-- The status that a response has before an error with an answer of its own is handled. -/
def earlyStatus (e : Error) : Int :=
  match e.form with
  | .http _ status _ _ => status
  | _ => 200

/-- How an error with an answer of its own is handled on its way out, if there is one. -/
def earlyHandling? (problems : Problems) (c : Call) (requestId : Option String) (found : Found)
    (x : Except Raised Reply × Progress) : Option Handled :=
  match x.1 with
  | .ok _ => none
  | .error raised =>
    if (Fallback.response? raised.error).isSome then
      let (i, p) := x.2.take raised
      let status := earlyStatus raised.error
      some (problems.handler.handle i (exchangeFor problems c requestId found status p))
    else none

/-- What was handled early is answered with the draft; what was left alone has the plain
answer, and then no problem was written. -/
theorem passage_handleEarly (hmemo : p.memo.Bears id) (hid : id ≠ "") (problems : Problems)
    (c : Call) (found : Found) (i : Incident) (status : Int) (brought : List (String × Text))
    {declined : Except Trouble Response} (hdeclined : ∀ r, declined = .ok r → r.IsSmall) :
    Passage tidy ((problems.handler.handle i
        (exchangeFor problems c (some id) found status p)).outcome = .ok .problem) id
      (handleEarly problems c (some id) found i status brought declined p) := by
  have hformat : (exchangeFor problems c (some id) found status p).request.format =
    some problems.format := rfl
  have hbears := Handler.bears_handle (h := problems.handler) (i := i)
    (x := exchangeFor problems c (some id) found status p) hmemo (Text.ofString_ne hid) rfl
  have hshows := Handler.shows_handle (h := problems.handler) (i := i)
    (x := exchangeFor problems c (some id) found status p) hmemo (Text.ofString_ne hid) rfl
    hformat
  unfold handleEarly
  generalize problems.handler.handle i (exchangeFor problems c (some id) found status p)
    = handled at hbears hshows ⊢
  dsimp only
  cases houtcome : handled.outcome with
  | error t => exact ⟨hbears, fun _ _ h => (nomatch h), fun h => nomatch h⟩
  | ok o =>
      cases o with
      | bypass =>
          exact ⟨hbears, fun _ reply h => isSmall_of_replyOf hdeclined h, fun h => nomatch h⟩
      | challenge | forbid | problem =>
          refine ⟨hbears,
            fun _ reply h => isSmall_of_replyOf (fun r => isSmall_of_handledResponse) h,
            fun hproblem => ⟨fun reply hreply => ?_, fun raised h => trouble_of_replyOf h⟩⟩
          obtain ⟨r, hr, rfl⟩ := exists_of_replyOf hreply
          show ShowsProblem id r.body
          rw [body_of_handledResponse hr]
          exact hshows (houtcome.trans hproblem)

theorem answerEarly_of_response? {a : Application} {problems : Problems}
    (ha : a.problems = some problems) (c : Call) (requestId : Option String) (found : Found)
    {raised : Raised} {declined : Except Trouble Response}
    (hresponse : Fallback.response? raised.error = some declined) (p : Progress) :
    ∃ brought, answerEarly a c requestId found (.error raised) p =
      handleEarly problems c requestId found (p.take raised).1 (earlyStatus raised.error) brought
        declined (p.take raised).2 := by
  unfold answerEarly earlyStatus
  simp only [hresponse, ha]
  generalize raised.error.form = form
  cases form <;> exact ⟨_, rfl⟩

/-- An error with an answer of its own is no trouble, so no problem was written before. -/
theorem passage_answerEarly (hid : id ≠ "") {a : Application} {problems : Problems}
    (ha : a.problems = some problems) (c : Call) (found : Found) {outcome : Except Raised Reply}
    (hpassage : Passage tidy told id (outcome, p)) :
    Passage tidy (told ∨ ∃ handled ∈ earlyHandling? problems c (some id) found (outcome, p),
        handled.outcome = .ok .problem) id
      (answerEarly a c (some id) found outcome p) := by
  cases outcome with
  | ok reply => exact hpassage.mono fun h => h.elim (·) fun ⟨_, hnone, _⟩ => nomatch hnone
  | error raised =>
      unfold earlyHandling?
      dsimp only
      cases hresponse : Fallback.response? raised.error with
      | none =>
          unfold answerEarly
          simp only [hresponse]
          exact hpassage.mono fun h => h.elim (·) fun ⟨_, hnone, _⟩ => nomatch hnone
      | some declined =>
          have hbefore : ¬told := by
            intro htold
            obtain ⟨t, rfl⟩ := (hpassage.shows htold).2 raised rfl
            have hanswer := response?_toError t
            rw [Raised.error, hanswer] at hresponse
            cases hresponse
          obtain ⟨brought, heq⟩ := answerEarly_of_response? ha c (some id) found hresponse p
          rw [heq]
          refine (passage_handleEarly (p := (p.take raised).2) hpassage.memo hid problems c found
            _ _ brought fun r => Fallback.isSmall_of_response? hresponse).mono fun h => ?_
          obtain ⟨handled, hsome, ho⟩ := h.resolve_left hbefore
          obtain rfl := Option.some.inj hsome
          exact ho

/-! ## The guard and the id -/

theorem messages_runOf (outcome : Except Raised Reply) :
    (∃ raised, outcome = .error raised ∧ runOf outcome = ⟨[], some raised⟩)
      ∨ ∃ reply status headers rest, outcome = .ok reply
        ∧ (runOf outcome).messages = .start status headers :: rest
        ∧ (reply.IsSmall → headers.AreSmall)
        ∧ ∀ r, reply = .whole r → rest = [.body r.body false] := by
  cases outcome with
  | error raised => exact Or.inl ⟨raised, rfl, rfl⟩
  | ok reply =>
      cases reply with
      | whole r =>
          refine Or.inr ⟨_, r.status, r.headers, [.body r.body false], rfl, rfl, id, ?_⟩
          intro r' heq
          rw [Reply.whole.inj heq]
      | pieces chunks broken =>
          refine Or.inr ⟨_, 200, _, _, rfl, rfl, fun _ header hmem => ?_,
            fun r heq => nomatch heq⟩
          rw [List.mem_singleton.mp hmem]
          exact (by decide +kernel : IsSmall "content-type")

/-- What comes of a run: nothing but an error, or a response, which shows a problem with
the id if one was written. -/
def Emerges (tidy told : Prop) (id : String) (run : Run) : Prop :=
  (run.messages = [] ∧ run.raised ≠ none)
    ∨ ∃ status headers rest, run.messages = .start status headers :: rest
      ∧ (tidy → headers.AreSmall)
      ∧ (told → ∃ body, rest = [.body body false] ∧ ShowsProblem id body)

theorem emerges_runOf {outcome : Except Raised Reply}
    (hpassage : Passage tidy told id (outcome, p)) : Emerges tidy told id (runOf outcome) := by
  rcases messages_runOf outcome with
    ⟨raised, -, hrun⟩ | ⟨reply, status, headers, rest, rfl, hrun, hsmall, hwhole⟩
  · rw [hrun]
    exact Or.inl ⟨rfl, fun h => nomatch h⟩
  · refine Or.inr ⟨status, headers, rest, hrun, fun h => hsmall (hpassage.names h reply rfl),
      fun htold => ?_⟩
    have hshown := (hpassage.shows htold).1 reply rfl
    cases reply with
    | whole r => exact ⟨r.body, hwhole r rfl, hshown⟩
    | pieces chunks broken => cases hshown

theorem emerges_send (isStarted : Bool) (draft : Draft)
    (hshown : told → ShowsProblem id draft.body) :
    Emerges tidy told id (Guard.send ⟨[], isStarted⟩ draft) := by
  unfold Guard.send
  cases hrender : draft.render with
  | error t => exact Or.inl ⟨rfl, fun h => nomatch h⟩
  | ok response =>
      refine Or.inr ⟨response.status, response.headers, [.body response.body false], rfl,
        fun _ => Draft.isSmall_of_render hrender, fun htold => ⟨response.body, rfl, ?_⟩⟩
      rw [Draft.body_of_render hrender]
      exact hshown htold

/-- How an error that gets to the guard is handled there, if there is one. -/
def lastHandling? (problems : Problems) (c : Call) (requestId : Option String) (found : Found)
    (x : Except Raised Reply × Progress) : Option Handled :=
  match x.1 with
  | .ok _ => none
  | .error raised =>
    if raised.error.isOrdinary then
      some (problems.handler.handle (raised.asIncident (x.2.memo.unusedFrom x.2.fresh))
        (exchangeFor problems c requestId found 200 x.2))
    else none

/-- The guard lets a response through, or makes one of a draft that nothing came before.
When a problem was written already, it is a trouble that is handled, and nobody is turned
away for it. -/
theorem emerges_guard (hid : id ≠ "") (problems : Problems) (c : Call) (found : Found)
    {outcome : Except Raised Reply} (hpassage : Passage tidy told id (outcome, p)) :
    Emerges tidy (told ∨ ∃ handled ∈ lastHandling? problems c (some id) found (outcome, p),
        handled.outcome = .ok .problem) id
      (Guard.guard (some problems.handler) (p.memo.unusedFrom p.fresh) (runOf outcome)
        (exchangeFor problems c (some id) found 200 p)).run := by
  rcases Guard.concerned_or_free (some problems.handler) (runOf outcome) with
    ⟨h, raised, hc⟩ | hfree
  · obtain rfl := Option.some.inj hc.handlerIs
    -- Only an error is guarded that comes before anything else.
    obtain rfl : outcome = .error raised := by
      rcases messages_runOf outcome with
        ⟨raised', rfl, hrun⟩ | ⟨reply, status, headers, rest, -, hrun, -, -⟩
      · rw [Option.some.inj (hc.raisedIs.symm.trans (congrArg Run.raised hrun))]
      · have hstarted := hc.notStarted
        unfold Run.isStarted at hstarted
        rw [hrun] at hstarted
        cases hstarted
    have hformat : (exchangeFor problems c (some id) found 200 p).request.format =
      some problems.format := rfl
    have hshows := Handler.shows_handle (h := problems.handler)
      (i := raised.asIncident (p.memo.unusedFrom p.fresh))
      (x := exchangeFor problems c (some id) found 200 p) hpassage.memo
      (Text.ofString_ne hid) rfl hformat
    rw [Guard.guard_of_concerned hc, show (runOf (.error raised)).messages = [] from rfl]
    cases ho : (problems.handler.handle (raised.asIncident (p.memo.unusedFrom p.fresh))
        (exchangeFor problems c (some id) found 200 p)).outcome with
    | error t =>
        rw [Guard.handle_of_error ho]
        exact Or.inl ⟨rfl, fun h => nomatch h⟩
    | ok o =>
        by_cases hbypass : o = .bypass
        · rw [Guard.handle_of_bypass (ho.trans (congrArg _ hbypass))]
          exact Or.inl ⟨rfl, fun h => nomatch h⟩
        · rw [Guard.handle_of_handled ho hbypass]
          refine emerges_send _ _ fun htold => hshows ?_
          rcases htold with htold | ⟨handled, hsome, hproblem⟩
          · obtain ⟨t, rfl⟩ := (hpassage.shows htold).2 raised rfl
            rcases Handler.outcome_cases hformat ho with h | ⟨action, haction⟩ | rfl
            · exact absurd h hbypass
            · exact absurd haction
                (problems.handler.not_handshake_of_trouble t rfl (p.memo.find?_unusedFrom _) action)
            · exact ho
          · unfold lastHandling? at hsome
            simp only [hc.ordinary, if_true] at hsome
            obtain rfl := Option.some.inj hsome
            exact hproblem
  · rw [Guard.guard_of_not_concerned hfree]
    refine emerges_runOf (hpassage.mono fun h => h.elim (·) fun ⟨handled, hsome, _⟩ => ?_)
    -- An error that is left alone here is not one to be handled.
    cases outcome with
    | ok reply => cases hsome
    | error raised =>
        unfold lastHandling? at hsome
        rcases hfree raised rfl with hstarted | hordinary | hnone
        · cases hstarted
        · simp [hordinary] at hsome
        · cases hnone

/-! ## The whole way -/

/-- What is on its way out, and what it has left behind. -/
abbrev Passing := Except Raised Reply × Progress

namespace Application

/-- The progress with which a request begins. -/
def start (c : Call) (s : Session) : Progress where
  store := s.store
  fresh := s.nextIncident
  waiting := c.waiting

/-- What comes out of the endpoint, or of the way there. -/
def called (a : Application) (c : Call) (requestId : Option String) (s : Session) : Passing :=
  callFound a c requestId (findRoute c a.routes) (start c s)

/-- A problem is written for a request. Endpoints count a problem just where they answer a
failure; on the way out, one is written where the handling of an error has this outcome. -/
def WritesProblem (a : Application) (problems : Problems) (c : Call) (id : String)
    (s : Session) : Prop :=
  let found := findRoute c a.routes
  let x := a.called c (some id) s
  let y := answerEarly a c (some id) found x.1 x.2
  (tellOfProblem x.2.events = true
      ∨ ∃ handled ∈ earlyHandling? problems c (some id) found x, handled.outcome = .ok .problem)
    ∨ ∃ handled ∈ lastHandling? problems c (some id) found y, handled.outcome = .ok .problem

end Application

/-- The response carries the id under both names, and under each of them nothing else;
where the endpoints keep names small, no other letter case of a name is left either. If
a problem was written, then the body shows a problem with the id. -/
def CarriesId (tidy told : Prop) (name id : String) (run : Run) : Prop :=
  ∃ status headers rest, run.messages = .start status headers :: rest
    ∧ headers.values (lowered name) = [id]
    ∧ headers.values (lowered correlationHeader) = [id]
    ∧ (tidy → headers.valuesInAnyCase name = [id]
        ∧ headers.valuesInAnyCase correlationHeader = [id])
    ∧ (told → ∃ body, rest = [.body body false] ∧ ShowsProblem id body)

theorem carriesId_identify {name : String} (hname : IsLatinText (lowered name))
    (hid : IsLatinText id) {run : Run} (hrun : Emerges tidy told id run) :
    ((identify name id run).messages = [] ∧ (identify name id run).raised ≠ none)
      ∨ CarriesId tidy told name id (identify name id run) := by
  rcases hrun with ⟨hempty, hraised⟩ | ⟨status, headers, rest, hmessages, hsmall, hshown⟩
  · refine Or.inl ?_
    unfold identify
    rw [hempty]
    exact ⟨hempty, hraised⟩
  · have hidentified : identify name id run =
        { run with messages := .start status (withId name id headers) :: rest } := by
      unfold identify
      rw [hmessages]
      simp only [identified_eq hname hid]
    rw [hidentified]
    refine Or.inr ⟨status, withId name id headers, rest, rfl, values_withId ..,
      values_correlationHeader_withId .., fun h => ?_, hshown⟩
    have hall : (withId name id headers).AreSmall := areSmall_withId (hsmall h)
    rw [Headers.valuesInAnyCase_eq hall, Headers.valuesInAnyCase_eq hall]
    exact ⟨values_withId .., values_correlationHeader_withId ..⟩

theorem Application.pass_spec (a : Application) {problems : Problems}
    (ha : a.problems = some problems) (c : Call) (s : Session)
    (hname : IsLatinText (lowered problems.requestIdHeader)) (hne : id ≠ "")
    (hid : IsLatinText id) :
    ((a.pass c (some id) s).1.messages = [] ∧ (a.pass c (some id) s).1.raised ≠ none)
      ∨ CarriesId a.IsTidy (a.WritesProblem problems c id s) problems.requestIdHeader id
          (a.pass c (some id) s).1 := by
  have hstart : IsQuiet id (start c s) := ⟨Memo.bears_empty id, rfl⟩
  have hcalled : Passage a.IsTidy _ id (a.called c (some id) s) :=
    emergence_callFound hstart hne a c
  have hearly := passage_answerEarly hne ha c (findRoute c a.routes) hcalled
  unfold pass
  simp only [ha]
  exact carriesId_identify hname hid (emerges_guard hne problems c _ hearly)

theorem Fallback.send_of_start {run : Run} {status : Int} {headers : Headers}
    {rest : List Message} (h : run.messages = .start status headers :: rest) :
    send run = run := by
  have hstarted : run.isStarted = true := by
    unfold Run.isStarted
    rw [h, List.any_cons]
    rfl
  unfold send
  cases hraised : run.raised with
  | none => rfl
  | some raised => simp [hstarted]

theorem answer_of_start {a : Application} {c : Call} {s : Session} {requestId : Option String}
    {next : Nat} (hbound : requestIdOf a c s.nextId = .ok (requestId, next)) {status : Int}
    {headers : Headers} {rest : List Message}
    (h : (a.pass c requestId s).1.messages = .start status headers :: rest) :
    (a.answer c s).run = (a.pass c requestId s).1 := by
  unfold Application.answer Application.answerAs
  rw [hbound]
  exact Fallback.send_of_start h

/-- **One id for a request.** Where problems are shown, a request whose id cannot be
looked for is answered with nothing but the bare answer. Any other one is bound to one
id. Then either nothing comes through the layers but an error, or the answer is what
comes through, and it carries this id; whatever the application keeps from earlier
requests. -/
theorem Application.one_id (a : Application) {problems : Problems}
    (ha : a.problems = some problems) (c : Call) (s : Session) :
    (∃ t, requestIdOf a c s.nextId = .error t
        ∧ (a.answer c s).run = Fallback.send { raised := some (.trouble t) })
      ∨ ∃ id next, requestIdOf a c s.nextId = .ok (some id, next)
        ∧ id = (RequestId.bind (c.header? (lowered problems.requestIdHeader)) s.nextId).1
        ∧ (((a.pass c (some id) s).1.messages = [] ∧ (a.pass c (some id) s).1.raised ≠ none)
          ∨ (a.answer c s).run = (a.pass c (some id) s).1
            ∧ CarriesId a.IsTidy (a.WritesProblem problems c id s) problems.requestIdHeader id
                (a.answer c s).run) := by
  cases hbound : requestIdOf a c s.nextId with
  | error t =>
      refine Or.inl ⟨t, rfl, ?_⟩
      unfold answer
      rw [hbound]
  | ok bound =>
      obtain ⟨requestId, next⟩ := bound
      obtain ⟨rfl, hname⟩ := requestIdOf_eq_ok ha hbound
      obtain ⟨hne, hid⟩ :=
        RequestId.bind_spec (c.header? (lowered problems.requestIdHeader)) s.nextId
      refine Or.inr ⟨_, next, rfl, rfl, ?_⟩
      rcases a.pass_spec ha c s hname hne hid with hnothing | hcarries
      · exact Or.inl hnothing
      · obtain ⟨status, headers, rest, hmessages, hheaders⟩ := hcarries
        rw [answer_of_start hbound hmessages]
        exact Or.inr ⟨rfl, status, headers, rest, hmessages, hheaders⟩

/-- Where failures have no expiration of their own, none has to be positive. -/
theorem pos_of_none_eq_some (f : Int) (h : none = some f) : 0 < f := by
  cases h

/-- A route on which a failure is kept in the cache for a while. -/
def stockRoute : Route where
  template := ⟨"/", [.char '/']⟩
  endpoint := {
    answersResults := true
    wantsCache := true
    work := fun _ => .query
      ⟨"stock",
        { expiration := 600, localExpiration := 600
          failureExpiration_pos := pos_of_none_eq_some }, none⟩
      (.ok (.result (.failure crash))) }

def stockroom : Application := .ofSettings {} {} [stockRoute]

/-- A request that comes when an earlier one has left its error in the cache. -/
def laterCall : Call := { method := "GET", path := "/", headers := [("X-Request-Id", "later")] }

def laterSession : Session where
  store := some { entries := [("stock", ⟨.result (.failure crash), 600, []⟩)] }
  nextIncident := 1

theorem isTidy_stockroom : stockroom.IsTidy := by
  intro route hmem arguments r hreply
  rw [List.mem_singleton.mp hmem] at hreply
  cases hreply

theorem findRoute_laterCall :
    findRoute laterCall stockroom.routes = .endpoint stockRoute [] := by
  have hmatch : stockRoute.template.match? laterCall.path = some [] := by
    simp [Template.match?, stockRoute, laterCall, matchPieces]
  show findRoute laterCall [stockRoute] = .endpoint stockRoute []
  rw [findRoute, hmatch]
  rfl

theorem requestIdOf_laterCall :
    requestIdOf stockroom laterCall laterSession.nextId = .ok (some "later", 1) :=
  eq_ok_of_toOption (by decide +kernel)

theorem cached_error_bears_the_later_id :
    ∃ status headers body,
      (stockroom.answer laterCall laterSession).run.messages =
          [.start status headers, .body body false]
        ∧ headers.values "x-request-id" = ["later"]
        ∧ headers.values "x-correlation-id" = ["later"]
        ∧ headers.valuesInAnyCase "X-Request-Id" = ["later"]
        ∧ ShowsProblem "later" body := by
  have hpass : (stockroom.pass laterCall (some "later") laterSession).1.messages.isEmpty = false
      ∧ tellOfProblem (stockroom.called laterCall (some "later") laterSession).2.events
        = true := by
    unfold Application.pass Application.called
    rw [findRoute_laterCall]
    decide +kernel
  obtain ⟨hstarted, htold⟩ := hpass
  rcases stockroom.one_id rfl laterCall laterSession with
    ⟨t, ht, -⟩ | ⟨id, next, hbound, -, hend⟩
  · rw [requestIdOf_laterCall] at ht
    cases ht
  · rw [requestIdOf_laterCall] at hbound
    obtain ⟨hid, -⟩ := Prod.mk.inj (Except.ok.inj hbound)
    obtain rfl := Option.some.inj hid
    rcases hend with hnothing | ⟨hrun, hcarries⟩
    · rw [hnothing.1] at hstarted
      cases hstarted
    · obtain ⟨status, headers, rest, hmessages, hname, hcorrelation, hanyCase, hshows⟩ := hcarries
      obtain ⟨body, rfl, hbody⟩ := hshows (Or.inl (Or.inl htold))
      have hlowered : lowered "X-Request-Id" = "x-request-id"
          ∧ lowered correlationHeader = "x-correlation-id" := by
        decide +kernel
      exact ⟨status, headers, body, hmessages, hlowered.1 ▸ hname, hlowered.2 ▸ hcorrelation,
        (hanyCase isTidy_stockroom).1, hbody⟩

end Triage.Web
