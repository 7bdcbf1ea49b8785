import Triage.Handler.Run
import Triage.Proofs.Remembering

/-!
# What handling an error comes to

The handling of an error is taken apart once, here: either the error is declined
for the first of the grounds that hold, and only the inbox is touched
(`handle_of_declined`); or it is resolved in one of three ways (`resolve_cases`).
Everything else said about handling is read off these cases, and nothing else
opens the definitions.

The invariant behind it: a request keeps its path, its request id and its
format, so an incident that has been classified is presented as one and the same
problem from then on, whatever moves are made (`move_presented?`).
-/

namespace Triage

open Http

/-! ## Grounds for leaving an error alone -/

namespace Exchange

/-- The grounds for leaving an error alone, in the order in which they are looked
into: whether each holds, and the reason that is given for it. -/
def grounds (x : Exchange) (i : Incident) : List (Bool × BypassReason) := [
  (i.error.isCancellation, .cancelled),
  (x.inbox.poll.1, .cancelled),
  (!canWriteProblem x.request.accept, .notAcceptable),
  (x.request.format.isNone, .formatMissing)]

/-- The reason of the first ground that holds. -/
def reasonToDecline? (x : Exchange) (i : Incident) : Option BypassReason :=
  ((x.grounds i).find? (·.1)).map (·.2)

/-- The exchange after the client has been looked at. -/
def polled (x : Exchange) : Exchange := { x with inbox := x.inbox.poll.2 }

/-- The exchange after the client has been looked at on account of an incident: a
cancellation is none of the business of the client. -/
def lookedAt (x : Exchange) (i : Incident) : Exchange :=
  if i.error.isCancellation then x else x.polled

@[simp] theorem lookedAt_request (x : Exchange) (i : Incident) :
    (x.lookedAt i).request = x.request := by
  unfold lookedAt
  split <;> rfl

@[simp] theorem lookedAt_draft (x : Exchange) (i : Incident) :
    (x.lookedAt i).draft = x.draft := by
  unfold lookedAt
  split <;> rfl

@[simp] theorem lookedAt_memo (x : Exchange) (i : Incident) :
    (x.lookedAt i).memo = x.memo := by
  unfold lookedAt
  split <;> rfl

/-- The problem of an incident as this exchange presents it. -/
def presented? (x : Exchange) (n : Nat) : Option Problem :=
  x.memo.presented? x.request.path x.request.requestId n

/-- What an incident is presented as in this exchange, asked about now. -/
def shown (x : Exchange) (i : Incident) (development : Bool) : Except Trouble Problem :=
  x.memo.shown i x.draft.status development x.request.path x.request.requestId

theorem reasonToDecline?_eq_none_iff {x : Exchange} {i : Incident} :
    x.reasonToDecline? i = none ↔
      i.error.isCancellation = false ∧ x.inbox.poll.1 = false
        ∧ canWriteProblem x.request.accept = true ∧ x.request.format ≠ none := by
  simp [reasonToDecline?, grounds, Option.ne_none_iff_isSome]

end Exchange

namespace Outcome

/-- The outcome that a problem of a status leads to. -/
def ofStatus (status : Int) : Outcome :=
  match Handler.actionFor? status with
  | some action => .ofAction action
  | none => .problem

theorem ofStatus_ne_bypass (status : Int) : ofStatus status ≠ .bypass := by
  unfold ofStatus
  cases Handler.actionFor? status with
  | some action => cases action <;> exact fun heq => nomatch heq
  | none => exact fun heq => nomatch heq

theorem ofAction_inj {action action' : Action} (h : ofAction action = ofAction action') :
    action = action' := by
  cases action <;> cases action' <;> first | rfl | cases h

end Outcome

namespace Handler

variable {h : Handler} {x : Exchange} {i : Incident} {format : BodyFormat}

/-- A declined error leaves a count, and an inbox that has been looked into. -/
theorem handle_of_declined {reason : BypassReason} (hreason : x.reasonToDecline? i = some reason) :
    h.handle i x = bypass reason (x.lookedAt i) := by
  unfold Exchange.reasonToDecline? Exchange.grounds at hreason
  unfold handle Exchange.lookedAt Exchange.polled
  cases hcancel : i.error.isCancellation with
  | true =>
      obtain rfl : BypassReason.cancelled = reason := by simpa [hcancel] using hreason
      rfl
  | false =>
      cases hgone : x.inbox.poll.1 with
      | true =>
          obtain rfl : BypassReason.cancelled = reason := by
            simpa [hcancel, hgone] using hreason
          simp [hgone]
      | false =>
          cases hwrite : canWriteProblem x.request.accept with
          | false =>
              obtain rfl : BypassReason.notAcceptable = reason := by
                simpa [hcancel, hgone, hwrite] using hreason
              simp [hgone, hwrite]
          | true =>
              cases hformat : x.request.format with
              | none =>
                  obtain rfl : BypassReason.formatMissing = reason := by
                    simpa [hcancel, hgone, hwrite, hformat] using hreason
                  simp [hgone, hwrite, hformat]
              | some format => simp [hcancel, hgone, hwrite, hformat] at hreason

/-- An error that is not declined is resolved in the format of the request. -/
theorem handle_of_accepted (hreason : x.reasonToDecline? i = none) :
    ∃ format, x.request.format = some format
      ∧ h.handle i x = h.resolve format i x.polled := by
  obtain ⟨hcancel, hgone, hwrite, hformat⟩ := Exchange.reasonToDecline?_eq_none_iff.mp hreason
  obtain ⟨format, hsome⟩ := Option.ne_none_iff_exists'.mp hformat
  refine ⟨format, hsome, ?_⟩
  unfold handle Exchange.polled
  simp [hcancel, hgone, hwrite, hsome]

theorem actionFor?_eq_some {status : Int} {action : Action}
    (h : actionFor? status = some action) : status = action.status := by
  unfold actionFor? at h
  split at h
  · obtain rfl := Option.some.inj h
    assumption
  · split at h
    · obtain rfl := Option.some.inj h
      assumption
    · cases h

/-! ## Resolving

Three ends: the error cannot be classified, and nothing has changed; its problem
calls for a handshake; or the problem is filled in and written, which fails for
texts that no body can hold. -/

@[simp] theorem handshake_outcome (h : Handler) (action : Action) (x : Exchange) :
    (h.handshake action x).outcome = .ok (.ofAction action) := rfl

@[simp] theorem handshake_request (h : Handler) (action : Action) (x : Exchange) :
    (h.handshake action x).exchange.request = x.request := rfl

@[simp] theorem handshake_memo (h : Handler) (action : Action) (x : Exchange) :
    (h.handshake action x).exchange.memo = x.memo := rfl

/-- What is left of an exchange when a problem has been written as `body`. -/
def written (format : BodyFormat) (p : Problem) (body : String) (x : Exchange) : Exchange :=
  { x with draft := { x.draft with
      status := p.status, content := some ⟨body, format.contentType⟩ } }

theorem present_cases (format : BodyFormat) (e : Error) (p : Problem) (x : Exchange) :
    (∃ t, format.write p.payload = .error t
        ∧ present format e p x = ⟨.error t, { x with draft := x.draft.setStatus p.status }, []⟩)
      ∨ ∃ body, format.write p.payload = .ok body
        ∧ present format e p x = ⟨.ok .problem, written format p body x,
            [.counted (.problem e.kind p.status), .logged (problemEntry x e p.status)]⟩ := by
  unfold present Draft.write
  cases hwrite : format.write p.payload with
  | error t => exact Or.inl ⟨t, rfl, rfl⟩
  | ok body => exact Or.inr ⟨body, rfl, rfl⟩

@[simp] theorem present_request (format : BodyFormat) (e : Error) (p : Problem) (x : Exchange) :
    (present format e p x).exchange.request = x.request := by
  rcases present_cases format e p x with ⟨t, -, heq⟩ | ⟨body, -, heq⟩ <;> rw [heq] <;> rfl

@[simp] theorem present_memo (format : BodyFormat) (e : Error) (p : Problem) (x : Exchange) :
    (present format e p x).exchange.memo = x.memo := by
  rcases present_cases format e p x with ⟨t, -, heq⟩ | ⟨body, -, heq⟩ <;> rw [heq] <;> rfl

theorem resolve_cases (h : Handler) (format : BodyFormat) (i : Incident) (x : Exchange) :
    (∃ t, x.memo.classify i (.int x.draft.status) h.development = (.error t, x.memo)
        ∧ h.resolve format i x = ⟨.error t, x, []⟩)
      ∨ (∃ r memo action,
          x.memo.classify i (.int x.draft.status) h.development = (.ok r, memo)
          ∧ actionFor? r.problem.status = some action
          ∧ h.resolve format i x = h.handshake action { x with memo })
      ∨ (∃ r memo,
          x.memo.classify i (.int x.draft.status) h.development = (.ok r, memo)
          ∧ actionFor? r.problem.status = none
          ∧ h.resolve format i x =
              present format i.error
                (r.problem.withDefaults x.request.path x.request.requestId)
                { x with memo := memo.fill i.number x.request.path x.request.requestId }) := by
  unfold resolve
  rcases hclass : x.memo.classify i (.int x.draft.status) h.development with ⟨answer, memo⟩
  cases answer with
  | error t =>
      have hmemo : memo = x.memo := Memo.eq_of_classify_error hclass
      subst hmemo
      exact Or.inl ⟨t, rfl, rfl⟩
  | ok r =>
      cases haction : actionFor? r.problem.status with
      | some action => exact Or.inr (Or.inl ⟨r, memo, action, rfl, haction, by simp [haction]⟩)
      | none => exact Or.inr (Or.inr ⟨r, memo, rfl, haction, by simp [haction]⟩)

/-! ## Disposing of a problem

What an error is shown as decides the rest: a handshake, or a problem in writing. -/

/-- Deals with a problem: by a handshake if its status calls for one, and otherwise
in writing. -/
def dispose (h : Handler) (format : BodyFormat) (e : Error) (q : Problem) (x : Exchange) :
    Handled :=
  match actionFor? q.status with
  | some action => h.handshake action x
  | none => present format e q x

theorem dispose_memo (h : Handler) (format : BodyFormat) (e : Error) (q : Problem)
    (x : Exchange) : (h.dispose format e q x).exchange.memo = x.memo := by
  unfold dispose
  cases actionFor? q.status with
  | some action => exact h.handshake_memo action x
  | none => exact present_memo format e q x

/-- The status of a problem decides what is done about it; when it is written, the
draft shows it. -/
theorem dispose_of_outcome {e : Error} {q : Problem} {o : Outcome}
    (ho : (h.dispose format e q x).outcome = .ok o) :
    o = .ofStatus q.status
      ∧ (o = .problem → ∃ body, format.write q.payload = .ok body
          ∧ (h.dispose format e q x).exchange.draft =
              { x.draft with status := q.status, content := some ⟨body, format.contentType⟩ }) := by
  unfold dispose at ho ⊢
  unfold Outcome.ofStatus
  cases haction : actionFor? q.status with
  | some action =>
      simp only [haction] at ho
      obtain rfl : Outcome.ofAction action = o := Except.ok.inj ho
      refine ⟨rfl, fun hproblem => ?_⟩
      cases action <;> cases hproblem
  | none =>
      simp only [haction] at ho
      rcases present_cases format e q x with ⟨t, -, heq⟩ | ⟨body, hwrite, heq⟩
      · rw [heq] at ho; cases ho
      · rw [heq] at ho
        obtain rfl : Outcome.problem = o := Except.ok.inj ho
        refine ⟨rfl, fun _ => ⟨body, hwrite, ?_⟩⟩
        simp only [heq]
        rfl

theorem resolve_shown_cases (h : Handler) (format : BodyFormat) (i : Incident) (x : Exchange) :
    (∃ t, x.shown i h.development = .error t ∧ h.resolve format i x = ⟨.error t, x, []⟩)
      ∨ ∃ q memo, x.shown i h.development = .ok q
        ∧ memo.presented? x.request.path x.request.requestId i.number = some q
        ∧ h.resolve format i x = h.dispose format i.error q { x with memo } := by
  unfold Exchange.shown Memo.shown
  rcases h.resolve_cases format i x with
    ⟨t, hclass, heq⟩ | ⟨r, memo, action, hclass, haction, heq⟩ | ⟨r, memo, hclass, haction, heq⟩
  · exact Or.inl ⟨t, by rw [hclass]; rfl, heq⟩
  · refine Or.inr ⟨_, memo, by rw [hclass]; rfl, Memo.presented?_of_classify hclass _ _, ?_⟩
    rw [heq]
    unfold dispose
    rw [Problem.withDefaults_status, haction]
  · refine Or.inr ⟨_, memo.fill i.number x.request.path x.request.requestId,
      by rw [hclass]; rfl, ?_, ?_⟩
    · rw [Memo.presented?_fill]
      exact Memo.presented?_of_classify hclass _ _
    · rw [heq]
      unfold dispose
      rw [Problem.withDefaults_status, haction]

theorem resolve_of_shown {q : Problem} (format : BodyFormat)
    (hq : x.shown i h.development = .ok q) :
    ∃ memo, h.resolve format i x = h.dispose format i.error q { x with memo } := by
  rcases h.resolve_shown_cases format i x with ⟨t, ht, -⟩ | ⟨q', memo, hq', -, heq⟩
  · rw [hq] at ht
    cases ht
  · obtain rfl := Except.ok.inj (hq.symm.trans hq')
    exact ⟨memo, heq⟩

/-- A resolved error is never left alone. -/
theorem resolve_ne_bypass (h : Handler) (format : BodyFormat) (i : Incident) (x : Exchange) :
    (h.resolve format i x).outcome ≠ .ok .bypass := by
  intro ho
  rcases h.resolve_shown_cases format i x with ⟨t, -, heq⟩ | ⟨q, memo, -, -, heq⟩
  · rw [heq] at ho; cases ho
  · rw [heq] at ho
    exact Outcome.ofStatus_ne_bypass q.status (dispose_of_outcome ho).1.symm

/-! ## What moves keep

The request never changes, and neither does the problem that an incident is
presented as. -/

@[simp] theorem resolve_request (h : Handler) (format : BodyFormat) (i : Incident)
    (x : Exchange) : (h.resolve format i x).exchange.request = x.request := by
  rcases h.resolve_cases format i x with
    ⟨t, -, heq⟩ | ⟨r, memo, action, -, -, heq⟩ | ⟨r, memo, -, -, heq⟩
  · rw [heq]
  · rw [heq, handshake_request]
  · rw [heq, present_request]

@[simp] theorem handle_request (h : Handler) (i : Incident) (x : Exchange) :
    (h.handle i x).exchange.request = x.request := by
  cases hreason : x.reasonToDecline? i with
  | some reason =>
      rw [handle_of_declined hreason]
      exact x.lookedAt_request i
  | none =>
      obtain ⟨format, -, heq⟩ := handle_of_accepted (h := h) hreason
      rw [heq, resolve_request]
      rfl

@[simp] theorem move_request (h : Handler) (x : Exchange) (m : Move) :
    (h.move x m).exchange.request = x.request := by
  cases m with
  | handle i => exact handle_request h i x
  | edit e =>
      unfold move
      cases hedit : x.draft.edit e <;> simp only [hedit]
  | poll => rfl
  | renew status => rfl

theorem presented?_resolve {n : Nat} {q : Problem} (hq : x.presented? n = some q)
    (h : Handler) (format : BodyFormat) (i : Incident) :
    (h.resolve format i x).exchange.presented? n = some q := by
  have hkept : ∀ {r memo}, x.memo.classify i (.int x.draft.status) h.development
      = (.ok r, memo) → memo.presented? x.request.path x.request.requestId n = some q := by
    intro r memo hclass
    have hafter := Memo.presented?_classify hq i (.int x.draft.status) h.development
    rwa [hclass] at hafter
  rcases h.resolve_cases format i x with
    ⟨t, -, heq⟩ | ⟨r, memo, action, hclass, -, heq⟩ | ⟨r, memo, hclass, -, heq⟩
  · rw [heq]; exact hq
  · rw [heq]; exact hkept hclass
  · rw [heq]
    unfold Exchange.presented?
    rw [present_memo, present_request, Memo.presented?_fill]
    exact hkept hclass

theorem presented?_handle {n : Nat} {q : Problem} (hq : x.presented? n = some q)
    (h : Handler) (i : Incident) : (h.handle i x).exchange.presented? n = some q := by
  cases hreason : x.reasonToDecline? i with
  | some reason =>
      rw [handle_of_declined hreason]
      unfold bypass Exchange.presented?
      rw [x.lookedAt_memo i, x.lookedAt_request i]
      exact hq
  | none =>
      obtain ⟨format, -, heq⟩ := handle_of_accepted (h := h) hreason
      rw [heq]
      exact presented?_resolve (x := x.polled) hq h format i

/-- **One presentation.** No move changes the problem that an incident is
presented as: another incident is entered under another number, and filling in
is done with the path and the request id of the request at hand. -/
theorem presented?_move {n : Nat} {q : Problem} (hq : x.presented? n = some q)
    (h : Handler) (m : Move) : (h.move x m).exchange.presented? n = some q := by
  cases m with
  | handle i => exact presented?_handle hq h i
  | edit e =>
      unfold move
      cases hedit : x.draft.edit e <;> simp only [hedit] <;> exact hq
  | poll => exact hq
  | renew status => exact hq

/-! ## What a resolved error leaves behind -/

/-- An error that is resolved is presented as some problem, whose status decides
the outcome; when it is written, the draft shows it. -/
theorem presented?_of_resolve {o : Outcome} (ho : (h.resolve format i x).outcome = .ok o) :
    ∃ q, (h.resolve format i x).exchange.presented? i.number = some q
      ∧ o = .ofStatus q.status
      ∧ (o = .problem → ∃ body, format.write q.payload = .ok body
          ∧ (h.resolve format i x).exchange.draft =
              { x.draft with status := q.status, content := some ⟨body, format.contentType⟩ }) := by
  rcases h.resolve_shown_cases format i x with ⟨t, -, heq⟩ | ⟨q, memo, -, hmemo, heq⟩
  · rw [heq] at ho; cases ho
  · have hq : (h.resolve format i x).exchange.presented? i.number = some q := by
      unfold Exchange.presented?
      rw [resolve_request, heq, dispose_memo]
      exact hmemo
    refine ⟨q, hq, ?_⟩
    rw [heq] at ho ⊢
    exact dispose_of_outcome ho

/-- `presented?_of_resolve`, for handling that is not a refusal to handle. -/
theorem presented?_of_handle {o : Outcome} (ho : (h.handle i x).outcome = .ok o)
    (hne : o ≠ .bypass) :
    ∃ format q, x.request.format = some format
      ∧ (h.handle i x).exchange.presented? i.number = some q
      ∧ o = .ofStatus q.status
      ∧ (o = .problem → ∃ body, format.write q.payload = .ok body
          ∧ (h.handle i x).exchange.draft =
              { x.draft with status := q.status, content := some ⟨body, format.contentType⟩ }) := by
  cases hreason : x.reasonToDecline? i with
  | some reason =>
      rw [handle_of_declined hreason] at ho
      exact absurd (Except.ok.inj ho).symm hne
  | none =>
      obtain ⟨format, hformat, heq⟩ := handle_of_accepted (h := h) hreason
      rw [heq] at ho ⊢
      obtain ⟨q, hq, hstatus, hdraft⟩ := presented?_of_resolve ho
      exact ⟨format, q, hformat, hq, hstatus, hdraft⟩

/-! ## Handling by what is shown -/

/-- An error is declined, or cannot be classified, or is disposed of as the problem
that the memo shows it as. -/
theorem handle_cases (h : Handler) (i : Incident) (hformat : x.request.format = some format) :
    (∃ reason, h.handle i x = bypass reason (x.lookedAt i))
      ∨ (∃ t, x.shown i h.development = .error t ∧ h.handle i x = ⟨.error t, x.polled, []⟩)
      ∨ ∃ q memo, x.shown i h.development = .ok q
        ∧ memo.presented? x.request.path x.request.requestId i.number = some q
        ∧ h.handle i x = h.dispose format i.error q { x.polled with memo } := by
  cases hreason : x.reasonToDecline? i with
  | some reason => exact Or.inl ⟨reason, handle_of_declined hreason⟩
  | none =>
      obtain ⟨format', hformat', heq⟩ := handle_of_accepted (h := h) hreason
      obtain rfl := Option.some.inj (hformat.symm.trans hformat')
      rw [heq]
      exact Or.inr (h.resolve_shown_cases format i x.polled)

/-- Handling an error does not change what it is shown as. -/
theorem shown_handle (h : Handler) (i : Incident) (hformat : x.request.format = some format) :
    (h.handle i x).exchange.memo.shown i x.draft.status h.development x.request.path
      x.request.requestId = x.shown i h.development := by
  rcases h.handle_cases i hformat with ⟨reason, heq⟩ | ⟨t, -, heq⟩ | ⟨q, memo, hshown, hmemo, heq⟩
  · rw [heq]
    unfold bypass Exchange.shown
    rw [x.lookedAt_memo i]
  · rw [heq]; rfl
  · rw [heq, dispose_memo, hshown]
    exact Memo.shown_of_presented? hmemo _ _

end Handler

/-! ## A sample

What statements about handling are tried on: a page that is not there, served
with the usual problem format and bearer tokens. -/

/-- A page that is not there. -/
def missingPage : Exchange :=
  { request := { path := "/things/1", format := some {} }, draft := { status := 404 } }

/-- The handler of a service with bearer tokens. -/
def bearerHandler : Handler := { authenticator := some (.headers (some "Bearer") none) }

/-- An error that nobody expected. -/
def crash : Incident := ⟨0, .ofCommon .runtimeError [.text "db down"]⟩

/-- A caller who could not be told. -/
def stranger : Incident := ⟨1, .ofService .authenticationFailed none⟩

theorem eq_ok_of_toOption {ε α : Type} {e : Except ε α} {a : α} (h : e.toOption = some a) :
    e = .ok a := by
  cases e with
  | error t => cases h
  | ok b => exact congrArg _ (Option.some.inj h)

end Triage
