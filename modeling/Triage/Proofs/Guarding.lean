import Triage.Guard
import Triage.Proofs.Handling

/-!
# One response, and no error lost

A guard lets every message through and knows at any time whether one of them has
started a response (`Relay.Tells.passAll`). So there are two ways for a run to end:
either the guard has nothing to say to it, and the run goes on as it came
(`guard_of_not_concerned`), or no response has started and the handler is asked
(`guard_of_concerned`). Only in the second case anything is sent that the application
did not send, and then it is one whole response.
-/

namespace Triage

open Http

/-! ## What a guard knows -/

namespace Relay

/-- The relay has let just these messages through, and knows whether one of them has
started a response. -/
structure Tells (r : Relay) (ms : List Message) : Prop where
  messages : r.messages = ms
  isStarted : r.isStarted = ms.any Message.isStart

theorem Tells.pass {r : Relay} {ms : List Message} (h : r.Tells ms) (m : Message) :
    (r.pass m).Tells (ms ++ [m]) := by
  constructor
  · show r.messages ++ [m] = ms ++ [m]
    rw [h.messages]
  · show (r.isStarted || m.isStart) = (ms ++ [m]).any Message.isStart
    rw [h.isStarted, List.any_append, List.any_cons, List.any_nil, Bool.or_false]

theorem Tells.passAll {r : Relay} {ms : List Message} (h : r.Tells ms) (ns : List Message) :
    (r.passAll ns).Tells (ms ++ ns) := by
  induction ns generalizing r ms with
  | nil =>
      rw [List.append_nil]
      exact h
  | cons n ns ih =>
      have hnext := ih (h.pass n)
      rwa [List.append_assoc, List.singleton_append] at hnext

/-- A relay that has only seen the messages of a run. -/
theorem passAll_messages (run : Run) :
    ({} : Relay).passAll run.messages = ⟨run.messages, run.isStarted⟩ := by
  have htells : (({} : Relay).passAll run.messages).Tells ([] ++ run.messages) :=
    Tells.passAll ⟨rfl, rfl⟩ run.messages
  exact (Relay.mk.injEq ..).mpr ⟨htells.messages, htells.isStarted⟩

end Relay

/-! ## The two ways for a run to end -/

namespace Guard

variable {handler : Option Handler} {number : Nat} {run : Run} {x : Exchange} {h : Handler}
  {raised : Raised}

/-- The end of a run that a handler is asked about: an error that is there to be
handled has escaped, and no response has started. -/
structure Concerned (handler : Option Handler) (run : Run) (h : Handler) (raised : Raised) :
    Prop where
  handlerIs : handler = some h
  raisedIs : run.raised = some raised
  ordinary : raised.error.isOrdinary = true
  notStarted : run.isStarted = false

theorem error_asIncident (raised : Raised) (number : Nat) :
    (raised.asIncident number).error = raised.error := by
  cases raised <;> rfl

theorem concerned_or_free (handler : Option Handler) (run : Run) :
    (∃ h raised, Concerned handler run h raised)
      ∨ ∀ raised, run.raised = some raised →
          run.isStarted = true ∨ raised.error.isOrdinary = false ∨ handler = none := by
  cases hhandler : handler with
  | none => exact Or.inr fun _ _ => Or.inr (Or.inr rfl)
  | some h =>
      cases hraised : run.raised with
      | none => exact Or.inr fun raised heq => nomatch heq
      | some raised =>
          cases hstarted : run.isStarted with
          | true => exact Or.inr fun _ _ => Or.inl rfl
          | false =>
              cases hordinary : raised.error.isOrdinary with
              | true => exact Or.inl ⟨h, raised, rfl, hraised, hordinary, hstarted⟩
              | false =>
                  refine Or.inr fun raised' heq => Or.inr (Or.inl ?_)
                  rw [← Option.some.inj heq]
                  exact hordinary

theorem guard_of_concerned (hc : Concerned handler run h raised) (number : Nat) (x : Exchange) :
    guard handler number run x =
      handle h ⟨run.messages, run.isStarted⟩ raised (raised.asIncident number) x := by
  have hconcerns : concerns ⟨run.messages, run.isStarted⟩ (raised.asIncident number) = true := by
    unfold concerns
    rw [error_asIncident, hc.ordinary, hc.notStarted]
    rfl
  unfold guard settle
  rw [Relay.passAll_messages, hc.raisedIs, hc.handlerIs]
  simp only [hconcerns, if_true]

/-- What is none of the guard's business goes on as it came. -/
theorem guard_of_not_concerned
    (hfree : ∀ raised, run.raised = some raised →
      run.isStarted = true ∨ raised.error.isOrdinary = false ∨ handler = none)
    (number : Nat) (x : Exchange) : guard handler number run x = ⟨run, x, []⟩ := by
  obtain ⟨messages, raised⟩ := run
  unfold guard settle
  rw [Relay.passAll_messages]
  cases raised with
  | none => rfl
  | some raised =>
      cases handler with
      | none => rfl
      | some h =>
          have hquiet : concerns ⟨messages, Run.isStarted ⟨messages, some raised⟩⟩
              (raised.asIncident number) = false := by
            unfold concerns
            rw [error_asIncident]
            rcases hfree raised rfl with hstarted | hordinary | hnone
            · rw [hstarted, Bool.not_true, Bool.and_false]
            · rw [hordinary, Bool.false_and]
            · cases hnone
          simp only [hquiet, Bool.false_eq_true, if_false]
          rfl

/-! ## Asking the handler -/

theorem handle_of_error {relay : Relay} {i : Incident} {t : Trouble}
    (ho : (h.handle i x).outcome = .error t) :
    handle h relay raised i x =
      ⟨⟨relay.messages, some (.trouble t)⟩, (h.handle i x).exchange, (h.handle i x).events⟩ := by
  unfold handle
  simp only [ho]

theorem handle_of_bypass {relay : Relay} {i : Incident}
    (ho : (h.handle i x).outcome = .ok .bypass) :
    handle h relay raised i x =
      ⟨⟨relay.messages, some raised⟩, (h.handle i x).exchange, (h.handle i x).events⟩ := by
  unfold handle
  simp only [ho]

theorem handle_of_handled {relay : Relay} {i : Incident} {o : Outcome}
    (ho : (h.handle i x).outcome = .ok o) (hne : o ≠ .bypass) :
    handle h relay raised i x =
      ⟨send relay (h.handle i x).exchange.draft, (h.handle i x).exchange,
        (h.handle i x).events⟩ := by
  unfold handle
  cases o with
  | bypass => exact absurd rfl hne
  | challenge => simp only [ho]
  | forbid => simp only [ho]
  | problem => simp only [ho]

/-! ## Counting responses -/

/-- The number of responses that messages start. -/
def starts (ms : List Message) : Nat := ms.countP Message.isStart

theorem starts_messages (response : Response) : starts response.messages = 1 := by
  have hstart : Message.isStart (.start response.status response.headers) = true :=
    beq_self_eq_true Message.startType
  have hbody : Message.isStart (.body response.body false) = false :=
    (by decide : (Message.bodyType == Message.startType) = false)
  unfold starts Response.messages
  rw [List.countP_cons_of_pos hstart, List.countP_cons_of_neg (by rw [hbody]; decide),
    List.countP_nil]

theorem starts_eq_zero (hnone : run.isStarted = false) : starts run.messages = 0 := by
  unfold Run.isStarted at hnone
  exact List.countP_eq_zero.mpr fun m hm => List.any_eq_false.mp hnone m hm

theorem starts_send_le {relay : Relay} (hnone : starts relay.messages = 0) (draft : Draft) :
    starts (send relay draft).messages ≤ 1 := by
  unfold send
  cases draft.render with
  | ok response =>
      show starts (relay.messages ++ response.messages) ≤ 1
      have hsent := starts_messages response
      unfold starts at hnone hsent ⊢
      rw [List.countP_append]
      omega
  | error t =>
      show starts relay.messages ≤ 1
      omega

theorem starts_handle_le {relay : Relay} {i : Incident} (hnone : starts relay.messages = 0) :
    starts (handle h relay raised i x).run.messages ≤ 1 := by
  have hrelay : starts relay.messages ≤ 1 := by omega
  cases ho : (h.handle i x).outcome with
  | error t =>
      rw [handle_of_error ho]
      exact hrelay
  | ok o =>
      by_cases hbypass : o = .bypass
      · subst hbypass
        rw [handle_of_bypass ho]
        exact hrelay
      · rw [handle_of_handled ho hbypass]
        exact starts_send_le hnone _

/-- A guard starts no second response. -/
theorem starts_guard_le (handler : Option Handler) (number : Nat) (run : Run) (x : Exchange) :
    starts (guard handler number run x).run.messages ≤ max 1 (starts run.messages) := by
  rcases concerned_or_free handler run with ⟨h, raised, hc⟩ | hfree
  · rw [guard_of_concerned hc]
    exact Nat.le_trans (starts_handle_le (starts_eq_zero hc.notStarted)) (Nat.le_max_left ..)
  · rw [guard_of_not_concerned hfree]
    exact Nat.le_max_right ..

/-! ## The whole guard -/

/-- **One response, and no error lost.** A run that ends without an error goes on as it
came. So does one whose error comes too late, is not there to be handled, or meets no
handler, and the handler is not asked. Otherwise the handler is asked: an error that it
leaves alone escapes as it was raised, and for any other one its response follows the
messages of the application, none of which has started one; if there is no response to
what was drafted, the trouble with it escapes instead. In no case a second response is
started. -/
theorem at_most_one_response (handler : Option Handler) (number : Nat) (run : Run)
    (x : Exchange) :
    (run.raised = none → guard handler number run x = ⟨run, x, []⟩)
      ∧ (∀ raised, run.raised = some raised →
          run.isStarted = true ∨ raised.error.isOrdinary = false ∨ handler = none →
          guard handler number run x = ⟨run, x, []⟩)
      ∧ (∀ h raised, Concerned handler run h raised →
          ∀ handled, h.handle (raised.asIncident number) x = handled →
          (handled.outcome = .ok .bypass →
            guard handler number run x = ⟨run, handled.exchange, handled.events⟩)
          ∧ ∀ o, handled.outcome = .ok o → o ≠ .bypass →
            (∀ m ∈ run.messages, m.isStart = false)
            ∧ (∀ response, handled.exchange.draft.render = .ok response →
                guard handler number run x =
                  ⟨⟨run.messages ++
                      [.start response.status response.headers, .body response.body false], none⟩,
                    handled.exchange, handled.events⟩)
            ∧ (∀ t, handled.exchange.draft.render = .error t →
                guard handler number run x =
                  ⟨⟨run.messages, some (.trouble t)⟩, handled.exchange, handled.events⟩))
      ∧ starts (guard handler number run x).run.messages ≤ max 1 (starts run.messages) := by
  refine ⟨fun hnone => ?_, fun raised hraised hfree => ?_, fun h raised hc handled hhandled => ?_,
    starts_guard_le handler number run x⟩
  · exact guard_of_not_concerned (fun raised hraised => by rw [hnone] at hraised; cases hraised) ..
  · refine guard_of_not_concerned (fun raised' hraised' => ?_) ..
    obtain rfl := Option.some.inj (hraised.symm.trans hraised')
    exact hfree
  · subst hhandled
    rw [guard_of_concerned hc]
    have hrun : (⟨run.messages, some raised⟩ : Run) = run := by
      rw [← hc.raisedIs]
    refine ⟨fun hbypass => ?_,
      fun o ho hne => ⟨?_, fun response hrender => ?_, fun t hrender => ?_⟩⟩
    · rw [handle_of_bypass hbypass, hrun]
    · exact fun m hm => by simpa using List.any_eq_false.mp hc.notStarted m hm
    · rw [handle_of_handled ho hne]
      unfold send
      rw [hrender]
      rfl
    · rw [handle_of_handled ho hne]
      unfold send
      rw [hrender]

/-- A run in which something was sent before the crash, but no response was started. -/
def crashAfterDebugging : Run := ⟨[.other "http.response.debug"], some (.incident crash)⟩

theorem crash_is_answered_once :
    ∃ response, (bearerHandler.handle crash missingPage).exchange.draft.render = .ok response
      ∧ (guard (some bearerHandler) 1 crashAfterDebugging missingPage).run =
        ⟨[.other "http.response.debug", .start response.status response.headers,
          .body response.body false], none⟩ := by
  have hc : Concerned (some bearerHandler) crashAfterDebugging bearerHandler (.incident crash) :=
    ⟨rfl, rfl, by decide, by decide⟩
  have houtcome : (bearerHandler.handle crash missingPage).outcome = .ok .problem :=
    eq_ok_of_toOption (by decide +kernel)
  have hrendered : (bearerHandler.handle crash missingPage).exchange.draft.render.toOption.isSome
      = true := by
    decide +kernel
  obtain ⟨response, hrender⟩ := Option.isSome_iff_exists.mp hrendered
  obtain ⟨-, -, hasked, -⟩ :=
    at_most_one_response (some bearerHandler) 1 crashAfterDebugging missingPage
  obtain ⟨-, hhandled⟩ := hasked bearerHandler (.incident crash) hc _ rfl
  obtain ⟨-, hsent, -⟩ := hhandled .problem houtcome (by decide)
  refine ⟨response, eq_ok_of_toOption hrender, ?_⟩
  rw [hsent response (eq_ok_of_toOption hrender)]
  rfl

/-- The handler of a service whose scheme has a name that no header can hold. -/
def foreignHandler : Handler := { authenticator := some (.headers (some "名前") none) }

/-- A challenge need not lead to a response: the stranger is to be told of a scheme that
cannot be told, so no response is started, and a trouble escapes. -/
theorem challenge_that_cannot_be_sent :
    (foreignHandler.handle stranger missingPage).outcome = .ok .challenge
      ∧ ∀ response : Response,
        (guard (some foreignHandler) 1 ⟨[], some (.incident stranger)⟩ missingPage).run ≠
          ⟨[.start response.status response.headers, .body response.body false], none⟩ := by
  refine ⟨eq_ok_of_toOption (by decide +kernel), fun response hsent => ?_⟩
  have hnothing : (guard (some foreignHandler) 1 ⟨[], some (.incident stranger)⟩
      missingPage).run.messages = [] := by
    decide +kernel
  rw [hsent] at hnothing
  cases hnothing

end Guard

end Triage
