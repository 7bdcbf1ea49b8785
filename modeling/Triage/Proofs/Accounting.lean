import Triage.Handler.Office
import Triage.Proofs.Handshake

/-!
# Counters and logs account for every error

An error that is handled is counted once, under the labels that its outcome and
its response call for, and the log of failures says of it what the response says.
Counter and record are told the status by the problem that the memo holds; the response
has it from a draft, which may have had another one before. They agree since the draft
takes over the status of the problem (`Handler.balances_present`).

Over a run the counters add up (`Office.every_error_is_accounted_for`), provided that
the authenticator leaves counters and log alone (`Authenticator.IsDiscreet`).
-/

namespace Triage

/-! ## The books -/

/-- The logger that handled errors are reported to. -/
def failureLogger : String := "faultline.failures"

/-- The records of handled errors. -/
def failureRecords (events : List Event) : List LogEntry :=
  (Event.logs events).filter (·.logger == failureLogger)

/-- The counter for an incident, by what has become of it: `found` is the exchange in
which it was handled, `status` the status of the response then. -/
def Outcome.counter? (o : Outcome) (i : Incident) (found : Exchange) (status : Int) :
    Option Metric :=
  match o with
  | .bypass => (found.reasonToDecline? i).map .bypass
  | .challenge => some (.handshake .challenge)
  | .forbid => some (.handshake .forbid)
  | .problem => some (.problem i.error.kind status)

/-- The counter of an act; only handled errors have one. -/
def Transaction.counter? (t : Transaction) : Option Metric :=
  match t.act.move, t.moved.answer with
  | .handle i, .ok (.handled o) => o.counter? i t.found t.moved.exchange.draft.status
  | _, _ => none

/-- What is reported of an incident of a request, by what has become of it: `status` is
the status of the response then. -/
inductive Recorded (h : Handler) (request : Request) (i : Incident) (status : Int) :
    Outcome → List LogEntry → Prop where
  | bypass : Recorded h request i status .bypass []
  | handshake (action : Action) (names : List Text) (hsorted : names.Pairwise (· < ·))
      (hnames : ∀ name, name ∈ names ↔
        ∃ policy, resolvePolicy h.provider request.requirements = some policy
          ∧ name ∈ policy.names) :
      Recorded h request i status (.ofAction action) [{
        level := .info, logger := failureLogger, message := "auth_handshake"
        requestId := request.requestId
        extra := [
          ("action", .text action.label), ("schemes", .list (names.map .text)),
          ("path", .text request.path)] }]
  | unhandled (hstatus : 500 ≤ status) :
      Recorded h request i status .problem [{
        level := .error, logger := failureLogger, message := "unhandled_error"
        requestId := request.requestId, error := some i.error
        extra := [
          ("failure_kind", .text i.error.kind.label), ("status", .int status),
          ("path", .text request.path)] }]
  | handled (hstatus : status < 500) :
      Recorded h request i status .problem [{
        level := .warning, logger := failureLogger, message := "handled_failure"
        requestId := request.requestId
        extra := [
          ("failure_kind", .text i.error.kind.label), ("status", .int status),
          ("path", .text request.path)] }]

/-- An authenticator that counts nothing and reports nothing as a handled error. -/
def Authenticator.IsDiscreet (a : Authenticator) : Prop :=
  ∀ action scheme request d,
    Event.counts (a.react action scheme request d).2 = []
      ∧ failureRecords (a.react action scheme request d).2 = []

/-! ## Events taken apart -/

namespace Event

theorem counts_append (es fs : List Event) : counts (es ++ fs) = counts es ++ counts fs :=
  List.filterMap_append

theorem counts_map_logged {α : Type} (f : α → LogEntry) (l : List α) :
    counts (l.map fun a => .logged (f a)) = [] := by
  unfold counts
  rw [List.filterMap_map]
  exact List.filterMap_eq_nil_iff.mpr fun a _ => rfl

theorem logs_append (es fs : List Event) : logs (es ++ fs) = logs es ++ logs fs :=
  List.filterMap_append

end Event

theorem failureRecords_append (es fs : List Event) :
    failureRecords (es ++ fs) = failureRecords es ++ failureRecords fs := by
  unfold failureRecords
  rw [Event.logs_append, List.filter_append]

theorem failureRecords_map_logged {α : Type} {f : α → LogEntry}
    (hf : ∀ a, (f a).logger ≠ failureLogger) (l : List α) :
    failureRecords (l.map fun a => .logged (f a)) = [] := by
  unfold failureRecords Event.logs
  rw [List.filterMap_map, List.filter_eq_nil_iff]
  intro entry hentry
  obtain ⟨a, -, ha⟩ := List.mem_filterMap.mp hentry
  obtain rfl := Option.some.inj ha
  simpa using hf a

namespace Authenticator

theorem isDiscreet_headers (preferred realm : Option Text) :
    (headers preferred realm).IsDiscreet := by
  intro action scheme request d
  cases action with
  | forbid => exact ⟨rfl, rfl⟩
  | challenge =>
      simp only [headers]
      cases (headers.named scheme).or (headers.named preferred) with
      | none =>
          have hlogger : ("faultline.auth" == failureLogger) = false := by decide
          refine ⟨rfl, ?_⟩
          simp [failureRecords, Event.logs, hlogger]
      | some name => exact ⟨rfl, rfl⟩

theorem IsDiscreet.trigger {a : Authenticator} (ha : a.IsDiscreet) (action : Action)
    (request : Request) (schemes : List (Option Text)) (d : Draft) :
    Event.counts (Handler.trigger a action request schemes d).2 = []
      ∧ failureRecords (Handler.trigger a action request schemes d).2 = [] := by
  induction schemes generalizing d with
  | nil => exact ⟨rfl, rfl⟩
  | cons scheme rest ih =>
      obtain ⟨hcounts, hrecords⟩ := ha action scheme request d
      obtain ⟨hcounts', hrecords'⟩ := ih (a.react action scheme request d).1
      constructor
      · show Event.counts (.triggered action scheme :: (a.react action scheme request d).2
          ++ (Handler.trigger a action request rest (a.react action scheme request d).1).2) = []
        rw [List.cons_append, ← List.singleton_append, Event.counts_append, Event.counts_append,
          hcounts, hcounts']
        rfl
      · show failureRecords (.triggered action scheme :: (a.react action scheme request d).2
          ++ (Handler.trigger a action request rest (a.react action scheme request d).1).2) = []
        rw [List.cons_append, ← List.singleton_append, failureRecords_append,
          failureRecords_append, hrecords, hrecords']
        rfl

end Authenticator

namespace Handler

variable {h : Handler} {x : Exchange} {i : Incident} {format : Http.BodyFormat}

/-- The handler's authenticator, if it has one, leaves counters and log alone. -/
def IsDiscreet (h : Handler) : Prop := ∀ a ∈ h.authenticator, a.IsDiscreet

/-! ## One error

Each of the ways in which an error is handled leaves one count, and records to
match. What happens in a handshake besides is the authenticator's doing, and
warnings about policies, which go to another logger. -/

/-- A handling that is booked right: it has raised an error and left nothing, or it is
counted once, for its outcome, and reported to match. -/
def Balances (h : Handler) (x : Exchange) (i : Incident) (r : Handled) : Prop :=
  (∃ t, r.outcome = .error t ∧ Event.counts r.events = [] ∧ failureRecords r.events = [])
    ∨ ∃ outcome m, r.outcome = .ok outcome
      ∧ outcome.counter? i x r.exchange.draft.status = some m
      ∧ Event.counts r.events = [m]
      ∧ Recorded h x.request i r.exchange.draft.status outcome (failureRecords r.events)

theorem discreet_reactions (hdiscreet : h.IsDiscreet) (action : Action) (request : Request) :
    Event.counts (h.reactions action request).2 = []
      ∧ failureRecords (h.reactions action request).2 = [] := by
  unfold reactions
  cases ha : h.authenticator with
  | none => exact ⟨rfl, rfl⟩
  | some a => exact (hdiscreet a ha).trigger action request _ _

theorem balances_handshake (hdiscreet : h.IsDiscreet) (action : Action) {y : Exchange}
    (hrequest : y.request = x.request) : h.Balances x i (h.handshake action y) := by
  obtain ⟨hcounts, hrecords⟩ := discreet_reactions hdiscreet action y.request
  have hwarned : Event.counts (h.policyWarnings y.request) = [] := Event.counts_map_logged _ _
  have hlogger : "faultline.auth" ≠ failureLogger := by decide
  have hwarnings : failureRecords (h.policyWarnings y.request) = [] :=
    failureRecords_map_logged (fun _ => hlogger) _
  refine Or.inr ⟨.ofAction action, .handshake action, rfl, ?_, ?_, ?_⟩
  · cases action <;> rfl
  · rw [events_handshake, Event.counts_append, Event.counts_append, hwarned, hcounts]
    rfl
  · rw [← hrequest, events_handshake, failureRecords_append, failureRecords_append, hwarnings,
      hrecords, List.nil_append, List.append_nil]
    exact .handshake action (h.schemes y.request) (h.ascending_schemes y.request)
      fun _ => mem_schemes

theorem balances_present (h : Handler) {q : Problem} {y : Exchange}
    (hrequest : y.request = x.request) : h.Balances x i (present format i.error q y) := by
  rcases present_cases format i.error q y with ⟨t, -, heq⟩ | ⟨body, -, heq⟩
  · rw [heq]
    exact Or.inl ⟨t, rfl, rfl, rfl⟩
  · rw [heq]
    refine Or.inr ⟨.problem, .problem i.error.kind q.status, rfl, rfl, rfl, ?_⟩
    show Recorded h x.request i q.status .problem (failureRecords
      [.counted (.problem i.error.kind q.status), .logged (problemEntry y i.error q.status)])
    have hentry : failureRecords [.counted (.problem i.error.kind q.status),
        .logged (problemEntry y i.error q.status)] = [problemEntry y i.error q.status] := by
      unfold problemEntry
      split <;> rfl
    rw [hentry]
    unfold problemEntry entry
    rw [hrequest]
    by_cases hstatus : 500 ≤ q.status
    · rw [if_pos hstatus]
      exact .unhandled hstatus
    · rw [if_neg hstatus]
      exact .handled (Int.not_le.mp hstatus)

theorem balances_handle (hdiscreet : h.IsDiscreet) (x : Exchange) (i : Incident) :
    h.Balances x i (h.handle i x) := by
  cases hreason : x.reasonToDecline? i with
  | some reason =>
      rw [handle_of_declined hreason]
      refine Or.inr ⟨.bypass, .bypass reason, rfl, ?_, rfl, .bypass⟩
      show (x.reasonToDecline? i).map Metric.bypass = some (.bypass reason)
      rw [hreason]
      rfl
  | none =>
      obtain ⟨format, -, heq⟩ := handle_of_accepted (h := h) hreason
      rw [heq]
      rcases h.resolve_shown_cases format i x.polled with ⟨t, -, heq⟩ | ⟨q, memo, -, -, heq⟩
      · rw [heq]
        exact Or.inl ⟨t, rfl, rfl, rfl⟩
      · rw [heq]
        unfold dispose
        cases actionFor? q.status with
        | some action => exact balances_handshake hdiscreet action rfl
        | none => exact h.balances_present rfl

end Handler

/-! ## Whole runs -/

theorem Http.Response.status_of_make {status : Int} {body : String} {mediaType : Option String}
    {r : Response} (hmake : make status body mediaType = .ok r) : r.status = status := by
  unfold make at hmake
  split at hmake
  · cases hmake
  · split at hmake
    · cases hmake
    · obtain rfl := Except.ok.inj hmake
      rfl

theorem Draft.status_of_render {d : Draft} {response : Http.Response}
    (hrender : d.render = .ok response) : response.status = d.status := by
  unfold render at hrender
  split at hrender
  · cases hrender
  · rename_i r hmake
    have hstatus : r.status = d.status := Http.Response.status_of_make hmake
    split at hrender
    · cases hrender
    · obtain rfl := Except.ok.inj hrender
      exact hstatus

namespace Office

variable {h : Handler} {o : Office} {acts : List Act} {t : Transaction}

theorem moved_of_mem_run (ht : t ∈ o.run h acts) : t.moved = h.move t.found t.act.move := by
  induction acts generalizing o with
  | nil => cases ht
  | cons a acts ih =>
      rcases List.mem_cons.mp ht with rfl | hrest
      · rfl
      · exact ih hrest

/-- An act counts up the counter that it has, if any, and no other. -/
theorem counts_of_mem_run (hdiscreet : h.IsDiscreet) (ht : t ∈ o.run h acts) :
    Event.counts t.moved.events = t.counter?.toList := by
  obtain ⟨⟨sheet, m⟩, x, moved⟩ := t
  obtain rfl : moved = h.move x m := moved_of_mem_run ht
  cases m with
  | handle i =>
      show Event.counts (h.handle i x).events = _
      unfold Transaction.counter?
      simp only [Handler.move]
      rcases Handler.balances_handle hdiscreet x i with
        ⟨t, hraised, hcounts, -⟩ | ⟨outcome, m, houtcome, hcounter, hcounts, -⟩
      · rw [hcounts, hraised]
        rfl
      · rw [hcounts, houtcome]
        exact (congrArg Option.toList hcounter).symm
  | edit e =>
      unfold Transaction.counter? Handler.move
      cases hedit : x.draft.edit e <;> simp only [hedit] <;> rfl
  | poll => rfl
  | renew status => rfl

theorem count_events (hdiscreet : h.IsDiscreet) (o : Office) (acts : List Act) (m : Metric) :
    (Event.counts (o.events h acts)).count m =
      (o.run h acts).countP fun t => t.counter? = some m := by
  unfold events
  have hcounts : ∀ t ∈ o.run h acts, Event.counts t.moved.events = t.counter?.toList :=
    fun t ht => counts_of_mem_run hdiscreet ht
  -- The induction is on what the acts came to: each adds one to the counter that it has.
  generalize o.run h acts = ts at hcounts ⊢
  induction ts with
  | nil => rfl
  | cons t ts ih =>
      have hrest := ih fun t' ht' => hcounts t' (List.mem_cons_of_mem _ ht')
      have hfirst := hcounts t (List.mem_cons_self ..)
      rw [List.flatMap_cons, Event.counts_append, List.count_append, hrest, hfirst,
        List.countP_cons, Nat.add_comm]
      congr 1
      cases hm : t.counter? with
      | none => simp
      | some m' => by_cases heq : m' = m <;> simp [heq]

/-- **Every error is accounted for.** In a run of acts on any sheets of any clients, an
error that is handled with an outcome counts up one counter by one: that of the reason
for which it was declined, of the action, or of its kind and the status of the
response. The log of failures gets nothing of an error that is declined, one record
with the schemes in effect of a caller turned away, and of a problem one record with
the status of the response, which is an error from 500 on and else a warning. After
the run each counter stands at the number of acts with that outcome and those labels. -/
theorem every_error_is_accounted_for (h : Handler) (hdiscreet : h.IsDiscreet) (o : Office)
    (acts : List Act) :
    (∀ t ∈ o.run h acts, ∀ i outcome, t.act.move = .handle i →
      t.moved.answer = .ok (.handled outcome) →
      ∃ m, outcome.counter? i t.found t.moved.exchange.draft.status = some m
        ∧ Event.counts t.moved.events = [m]
        ∧ Recorded h t.found.request i t.moved.exchange.draft.status outcome
            (failureRecords t.moved.events)
        ∧ ∀ response, t.moved.exchange.draft.render = .ok response →
            response.status = t.moved.exchange.draft.status)
    ∧ ∀ m, (Event.counts (o.events h acts)).count m =
        (o.run h acts).countP fun t => t.counter? = some m := by
  refine ⟨fun t ht i outcome hmove hanswer => ?_, fun m => count_events hdiscreet o acts m⟩
  have hmoved : t.moved = h.move t.found (.handle i) := hmove ▸ moved_of_mem_run ht
  have hexchange : t.moved.exchange = (h.handle i t.found).exchange := congrArg (·.exchange) hmoved
  have hevents : t.moved.events = (h.handle i t.found).events := congrArg (·.events) hmoved
  have houtcome : (h.handle i t.found).outcome.map MoveAnswer.handled = .ok (.handled outcome) :=
    (congrArg (·.answer) hmoved).symm.trans hanswer
  rw [hexchange, hevents]
  rcases Handler.balances_handle hdiscreet t.found i with
    ⟨trouble, hraised, -⟩ | ⟨outcome', m, hgiven, hcounter, hcounts, hrecorded⟩
  · rw [hraised] at houtcome
    cases houtcome
  · rw [hgiven] at houtcome
    obtain rfl : outcome' = outcome := MoveAnswer.handled.inj (Except.ok.inj houtcome)
    exact ⟨m, hcounter, hcounts, hrecorded, fun _ hrender => Draft.status_of_render hrender⟩

/-- Two layers at work on the page that is not there, one of which has already set
another status. -/
def twoLayers : Office where
  sheets n := { request := missingPage.request, draft := { status := if n = 0 then 404 else 503 } }

/-- Both layers come across the same crash, and then one of them across a stranger. -/
def crashInBoth : List Act := [⟨0, .handle crash⟩, ⟨1, .handle crash⟩, ⟨1, .handle stranger⟩]

theorem crash_is_counted_under_its_first_status :
    ∃ t, (twoLayers.run bearerHandler crashInBoth)[1]? = some t
      ∧ Recorded bearerHandler missingPage.request crash 404 .problem
          (failureRecords t.moved.events)
      ∧ (Event.counts (twoLayers.events bearerHandler crashInBoth)).count
          (.problem .unknown 404) = 2 := by
  have hdiscreet : bearerHandler.IsDiscreet := by
    rintro a ⟨⟩
    exact Authenticator.isDiscreet_headers _ _
  obtain ⟨hbooked, hcount⟩ :=
    every_error_is_accounted_for bearerHandler hdiscreet twoLayers crashInBoth
  -- The run is evaluated once, for all that is read off it below.
  have hrun : (twoLayers.run bearerHandler crashInBoth).map (fun t =>
      (t.moved.answer.toOption, t.moved.exchange.draft.status, t.counter?)) = [
        (some (.handled .problem), 404, some (.problem .unknown 404)),
        (some (.handled .problem), 404, some (.problem .unknown 404)),
        (some (.handled .challenge), 401, some (.handshake .challenge))] := by decide +kernel
  have hsecond := congrArg (·[1]?) hrun
  rw [List.getElem?_map] at hsecond
  obtain ⟨t, ht, htold⟩ := Option.map_eq_some_iff.mp hsecond
  obtain ⟨hanswer, hrest⟩ := Prod.mk.inj htold
  have hstatus : t.moved.exchange.draft.status = 404 := (Prod.mk.inj hrest).1
  have hact : (twoLayers.run bearerHandler crashInBoth)[1]?.map (·.act) =
      some ⟨1, .handle crash⟩ := rfl
  have hrequest : (twoLayers.run bearerHandler crashInBoth)[1]?.map (·.found.request) =
      some missingPage.request := rfl
  rw [ht] at hact hrequest
  have hsame : t.found.request = missingPage.request := Option.some.inj hrequest
  obtain ⟨m, -, -, hrecorded, -⟩ := hbooked t (List.mem_of_getElem? ht) crash .problem
    (congrArg Act.move (Option.some.inj hact)) (eq_ok_of_toOption hanswer)
  rw [hstatus, hsame] at hrecorded
  refine ⟨t, ht, hrecorded, ?_⟩
  have hcounters := congrArg (List.map fun told => told.2.2) hrun
  rw [List.map_map] at hcounters
  have hcounted := congrArg (List.countP fun c => c = some (Metric.problem .unknown 404)) hcounters
  rw [List.countP_map] at hcounted
  rw [hcount]
  exact hcounted

end Office

end Triage
