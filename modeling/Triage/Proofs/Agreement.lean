import Triage.Proofs.Answering
import Triage.Proofs.Encodable
import Triage.Proofs.Handling

/-!
# Handling an error and answering a failure

The same error may be handled, in an exchange with a draft, or be the failure of
a result, for which a response is made at once. Both ask a memo for the problem,
and what they do depends on that answer alone (`handle_cases`,
`response_answerFailure`). Neither changes what the other will be told: the memo
shows an incident as the same problem before and after (`shown_handle`,
`shown_answerFailure`). So it does not matter whether they share a memo, nor who
comes first (`handling_and_answering_agree`).

Where the error is handled by a handshake there is no body, so texts that no body
can hold do no harm there. The answer to the failure has a body, and fails for them.
-/

namespace Triage

open Http

/-! ## Both ways beside each other -/

namespace Exchange

/-- The place where results of the request are answered. -/
def place (x : Exchange) : Place := ⟨x.request.path, x.draft.status, x.request.requestId⟩

/-- An exchange in which nothing has been drafted yet. -/
def started (request : Request) (status : Int) (inbox : Inbox) (memo : Memo) : Exchange :=
  { request, draft := { status }, inbox, memo }

end Exchange

/-- What handling an error and answering the same failure share. -/
inductive Sharing where
  /-- The failure is answered outside of any request. -/
  | nothing
  /-- The failure is answered in a later request. -/
  | laterRequest
  /-- Both belong to one request, and the error is handled first. -/
  | handledFirst
  /-- Both belong to one request, and the failure is answered first. -/
  | answeredFirst

/-- The handling of an error, and the answer to the same failure in the same place,
made with the same format. -/
def Handler.beside (h : Handler) (format : BodyFormat) (i : Incident) (x : Exchange) :
    Sharing → Handled × Except Trouble Response :=
  let r : Responder := ⟨h.development, format⟩
  fun
    | .nothing => (h.handle i x, (r.answerAlone (.failure i) x.place).1)
    | .laterRequest =>
      (h.handle i x, (r.answerFailure i x.place x.memo.nextRequest).response)
    | .handledFirst =>
      let handled := h.handle i x
      (handled, (r.answerFailure i x.place handled.exchange.memo).response)
    | .answeredFirst =>
      let responded := r.answerFailure i x.place x.memo
      (h.handle i { x with memo := responded.memo }, responded.response)

/-- How the answer to a failure matches the handling of its error, where the error
is shown as `problem`. -/
structure Agreement (format : BodyFormat) (problem : Except Trouble Problem)
    (handled : Handled) (answer : Except Trouble Response) : Prop where
  /-- A problem that has been written is the answer, header by header. -/
  written : handled.outcome = .ok .problem →
    ∃ response, handled.exchange.draft.render = .ok response ∧ answer = .ok response
  /-- A handshake goes with a problem of its status. The answer shows that problem in
  a body, without a challenge, when the format holds it. -/
  handshake : ∀ action, handled.outcome = .ok (.ofAction action) →
    ∃ q, problem = .ok q ∧ q.status = action.status
      ∧ (format.Holds q.payload → ∃ response, answer = .ok response
          ∧ response.status = action.status
          ∧ format.write q.payload = .ok response.body ∧ response.body ≠ ""
          ∧ response.headers.values "www-authenticate" = [])
      ∧ (¬format.Holds q.payload → ∃ run, answer = .error (.unpaired run))

theorem Action.fitsDigits_status (action : Action) : Number.fitsDigits action.status = true := by
  cases action <;> exact Number.fitsDigits_of_natAbs_lt (by decide)

namespace Handler

variable {h : Handler} {x : Exchange} {i : Incident} {format : BodyFormat}

theorem render_written (htype : Text.IsLatinText format.contentType) (q : Problem)
    (body : String) {x : Exchange} (hempty : x.draft.headers = []) :
    (written format q body x).draft.render =
      .ok ⟨q.status, Response.lengthHeader q.status body
        ++ Response.typeHeader (some format.contentType), body⟩ := by
  have hsendable : (written format q body x).draft.IsSendable := by
    refine ⟨?_, ?_⟩
    · show ∀ header ∈ x.draft.headers, IsLatinHeader header
      rw [hempty]
      exact fun header hmem => nomatch hmem
    · rintro c ⟨⟩
      exact htype
  rw [Draft.render_of_isSendable hsendable]
  simp [Draft.response, Draft.body, written, hempty]

/-- A problem disposed of on a draft that is still empty agrees with the answer that
shows the same problem. -/
theorem agreement_dispose (h : Handler) (htype : Text.IsLatinText format.contentType)
    (e : Error) (q : Problem) {x : Exchange} (hempty : x.draft.headers = []) :
    Agreement format (.ok q) (h.dispose format e q x)
      (Responder.problemResponse ⟨h.development, format⟩ q) := by
  unfold dispose
  cases haction : actionFor? q.status with
  | some action =>
      refine ⟨fun hproblem => ?_, fun action' ho => ?_⟩
      · cases action <;> cases hproblem
      · obtain rfl := Outcome.ofAction_inj (Except.ok.inj ho)
        have hstatus : Number.fitsDigits q.status = true := by
          rw [actionFor?_eq_some haction]
          exact action.fitsDigits_status
        refine ⟨q, rfl, actionFor?_eq_some haction, fun hholds => ?_, fun hfails => ?_⟩
        · rcases Problem.write_payload_cases hstatus format with
            ⟨-, body, hwrite, hbody⟩ | ⟨hnot, -⟩
          · exact ⟨_, Responder.problemResponse_of_write htype hwrite,
              actionFor?_eq_some haction, hwrite, hbody,
              Response.values_framing _ _ _ (by decide) (by decide)⟩
          · exact absurd hholds hnot
        · rcases Problem.write_payload_cases hstatus format with
            ⟨hholds, -⟩ | ⟨-, run, hwrite⟩
          · exact absurd hholds hfails
          · refine ⟨run, ?_⟩
            unfold Responder.problemResponse
            simp only [hwrite]
  | none =>
      rcases present_cases format e q x with ⟨t, -, heq⟩ | ⟨body, hwrite, heq⟩
      · rw [heq]
        exact ⟨fun ho => (nomatch ho), fun action ho => (nomatch ho)⟩
      · rw [heq]
        refine ⟨fun _ => ?_, fun action ho => ?_⟩
        · exact ⟨_, render_written htype q body hempty,
            Responder.problemResponse_of_write htype hwrite⟩
        · cases action <;> cases ho

/-- Handling and answering agree wherever both memos show the incident as the same
problem. -/
theorem agreement_of_shown (h : Handler) (hformat : x.request.format = some format)
    (htype : Text.IsLatinText format.contentType) (hempty : x.draft.headers = [])
    (place : Place) (m : Memo)
    (hshown : m.shown i place.ambient h.development place.path place.requestId =
      x.shown i h.development) :
    Agreement format (x.shown i h.development) (h.handle i x)
      (Responder.answerFailure ⟨h.development, format⟩ i place m).response := by
  rcases h.handle_cases i hformat with ⟨reason, heq⟩ | ⟨t, -, heq⟩ | ⟨q, memo, hq, -, heq⟩
  · rw [heq]
    refine ⟨fun ho => (nomatch ho), fun action ho => ?_⟩
    cases action <;> cases ho
  · rw [heq]
    exact ⟨fun ho => (nomatch ho), fun action ho => (nomatch ho)⟩
  · rw [heq, hq, Responder.response_answerFailure, hshown, hq]
    exact h.agreement_dispose htype i.error q hempty

/-- **Both ways agree.** For an error that the request does not know yet, the answer
to the failure is the problem that handling the error writes, and next to a
handshake it is a problem of that status, whatever the two share and whichever
comes first. -/
theorem handling_and_answering_agree (h : Handler) (request : Request) (status : Int)
    (inbox : Inbox) {memo : Memo} {i : Incident} {format : BodyFormat}
    (hformat : request.format = some format) (htype : Text.IsLatinText format.contentType)
    (hfresh : memo.find? i.number = none) (way : Sharing) :
    Agreement format
      ((classify i.error (.int status) h.development).map
        (·.withDefaults request.path request.requestId))
      (h.beside format i (.started request status inbox memo) way).1
      (h.beside format i (.started request status inbox memo) way).2 := by
  let x := Exchange.started request status inbox memo
  have hunknown : ∀ m : Memo, m.find? i.number = none →
      m.shown i status h.development request.path request.requestId =
        (classify i.error (.int status) h.development).map
          (·.withDefaults request.path request.requestId) :=
    fun m hm => Memo.shown_of_unknown hm status h.development request.path request.requestId
  have hx : x.shown i h.development = _ := hunknown memo hfresh
  rw [← hx]
  cases way with
  | nothing =>
      exact agreement_of_shown h hformat htype rfl x.place {} ((hunknown {} rfl).trans hx.symm)
  | laterRequest =>
      exact agreement_of_shown h hformat htype rfl x.place memo.nextRequest
        ((hunknown memo.nextRequest rfl).trans hx.symm)
  | handledFirst =>
      exact agreement_of_shown h hformat htype rfl x.place _ (h.shown_handle i hformat)
  | answeredFirst =>
      let r : Responder := ⟨h.development, format⟩
      let x' : Exchange := { x with memo := (r.answerFailure i x.place memo).memo }
      have hkept : x'.shown i h.development = x.shown i h.development :=
        r.shown_answerFailure i x.place memo
      rw [← hkept]
      exact agreement_of_shown h hformat htype rfl x.place memo hkept.symm

theorem crash_handled_and_answered_alike :
    ∃ response,
      (bearerHandler.beside {} crash (.started missingPage.request 404 {} {})
        .answeredFirst).1.exchange.draft.render = .ok response
      ∧ (bearerHandler.beside {} crash (.started missingPage.request 404 {} {})
        .answeredFirst).2 = .ok response := by
  have houtcome : (bearerHandler.beside {} crash (.started missingPage.request 404 {} {})
      .answeredFirst).1.outcome = .ok .problem :=
    eq_ok_of_toOption (by decide +kernel)
  exact (handling_and_answering_agree bearerHandler missingPage.request 404 {} rfl (by decide)
    rfl .answeredFirst).written houtcome

/-- A caller who could not be told, with half of a surrogate pair in the message. -/
def garbledStranger : Incident :=
  ⟨0, .ofService .authenticationFailed (some (.text (.singleton (.ofNat 0xd800))))⟩

/-- Next to a challenge there need not be an answer: during development the message
is shown, and here it is more than a body can hold. -/
theorem challenge_without_answer :
    (Handler.beside { development := true } {} garbledStranger
        (.started missingPage.request 200 {} {}) .nothing).1.outcome = .ok .challenge
      ∧ ∀ response, (Handler.beside { development := true } {} garbledStranger
        (.started missingPage.request 200 {} {}) .nothing).2 ≠ .ok response := by
  refine ⟨eq_ok_of_toOption (by decide +kernel), fun response hanswer => ?_⟩
  have hnone : (Handler.beside { development := true } {} garbledStranger
      (.started missingPage.request 200 {} {}) .nothing).2.toOption = none := by
    decide +kernel
  rw [hanswer] at hnone
  cases hnone

end Handler

end Triage
