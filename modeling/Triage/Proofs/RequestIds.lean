import Triage.Proofs.Answering
import Triage.Proofs.Encodable
import Triage.Proofs.Fields
import Triage.Proofs.Guarding
import Triage.Proofs.HeaderNames
import Triage.Proofs.Influence
import Triage.Proofs.PlainIds
import Triage.Web.Application

/-!
# One id for a request

A request is known by one id, which it brings or is given (`RequestId.bind`). The id
takes two ways to the client. Into the headers it is put at the very end, where it
replaces whatever stood under its names. Into a problem it is filled in where the
problem is shown, and stays there as long as the problem is remembered. What is
remembered is of this request alone, so nothing remembered has the id of another one
(`Memo.Bears`), although the error itself may be older than the request.

The layers around the endpoint are gone through one by one. What holds after each of
them is `Passage`: what is remembered bears the id, and if a problem was counted, then what is
on its way out shows a problem with the id. Somebody who is turned away is shown none, so
it matters that nobody is turned away for a trouble (`not_handshake_of_trouble`): what a
handshake leaves to be handled is a trouble at most.
-/

namespace Triage

open Http Text

/-! ## Ids -/

namespace RequestId

/-- Whatever a request brings, its id is not empty and can stand in a header. -/
theorem bind_spec (incoming : Option String) (next : Nat) :
    (bind incoming next).1 ≠ "" ∧ IsLatinText (bind incoming next).1 := by
  have hplain : IsPlain (bind incoming next).1 := by
    rw [bind, bindBy_eq]
    split
    · rename_i h
      exact h
    · exact (isGenerated_generated next).isPlain
  exact ⟨hplain.ne_empty, hplain.isLatinText⟩

end RequestId

namespace Web

theorem requestIdOf_eq_ok {a : Application} {problems : Problems} {c : Call} {n next : Nat}
    {requestId : Option String} (ha : a.problems = some problems)
    (h : requestIdOf a c n = .ok (requestId, next)) :
    requestId = some (RequestId.bind (c.header? (lowered problems.requestIdHeader)) n).1
      ∧ IsLatinText (lowered problems.requestIdHeader) := by
  unfold requestIdOf at h
  rw [ha] at h
  simp only at h
  cases hname : headerText (lowered problems.requestIdHeader) with
  | error t => rw [hname] at h; cases h
  | ok name =>
      obtain ⟨hsame, hlatin⟩ := isLatinText_of_headerText hname
      rw [string_ofString] at hsame
      rw [hname, hsame] at h
      exact ⟨(congrArg Prod.fst (Except.ok.inj h)).symm, hlatin⟩

/-! ## Headers -/

theorem isLatinText_correlationHeader : IsLatinText (lowered correlationHeader) := by
  decide +kernel

theorem set_of_isLatinText {name value : String} (hname : IsLatinText (lowered name))
    (hvalue : IsLatinText value) (h : Headers) :
    h.set name value = .ok (h.put (lowered name, value)) := by
  unfold Headers.set Headers.checked
  rw [headerText_of_isLatinText hname, headerText_of_isLatinText hvalue, string_ofString,
    string_ofString]

/-- The headers of a response after its id has been put in. -/
def withId (name id : String) (h : Headers) : Headers :=
  (h.put (lowered name, id)).put (lowered correlationHeader, id)

theorem identified_eq {name id : String} (hname : IsLatinText (lowered name))
    (hid : IsLatinText id) (h : Headers) : identified name id h = .ok (withId name id h) := by
  unfold identified
  rw [set_of_isLatinText hname hid]
  exact set_of_isLatinText isLatinText_correlationHeader hid _

theorem values_correlationHeader_withId (name id : String) (h : Headers) :
    (withId name id h).values (lowered correlationHeader) = [id] :=
  Headers.values_put_self ..

theorem values_withId (name id : String) (h : Headers) :
    (withId name id h).values (lowered name) = [id] := by
  unfold withId
  by_cases hsame : lowered name = lowered correlationHeader
  · rw [hsame]
    exact Headers.values_put_self ..
  · rw [Headers.values_put_of_ne _ hsame]
    exact Headers.values_put_self ..

theorem areSmall_withId {name id : String} {h : Headers} (hh : h.AreSmall) :
    (withId name id h).AreSmall :=
  Headers.areSmall_put (Headers.areSmall_put hh (isSmall_lowered name))
    (isSmall_lowered correlationHeader)

end Web

/-! ## Problems that bear an id -/

/-- Once filled in for a request with an id, the problem bears this id. -/
def Problem.Bears (p : Problem) (id : Text) : Prop :=
  p.requestId = none ∨ p.requestId = some id

theorem Problem.requestId_withDefaults {p : Problem} {id : Text} (hp : p.Bears id)
    (hid : id ≠ "") (path : Text) : (p.withDefaults path (some id)).requestId = some id := by
  unfold withDefaults presentId
  rcases hp with hnone | hsome
  · simp [hnone, hid]
  · simp [hsome]

/-- Everything that is remembered bears this id. -/
def Memo.Bears (m : Memo) (id : Text) : Prop := ∀ n r, m.find? n = some r → r.problem.Bears id

namespace Memo

variable {m : Memo} {id : Text}

theorem bears_empty (id : Text) : ({} : Memo).Bears id := fun _ _ h => nomatch h

/-- A problem comes without an id. -/
theorem bears_classify (hm : m.Bears id) (i : Incident) (ambient : Value) (development : Bool) :
    (m.classify i ambient development).2.Bears id := by
  rcases m.classify_cases i ambient development with
    ⟨r, -, heq⟩ | ⟨p, -, hclass, heq⟩ | ⟨t, -, -, heq⟩
  · rw [heq]; exact hm
  · rw [heq]
    intro n r hr
    rw [find?_remember] at hr
    split at hr
    · obtain rfl := Option.some.inj hr
      exact Or.inl (Error.isSketch_of_classify hclass).requestId
    · exact hm n r hr
  · rw [heq]; exact hm

theorem bears_fill (hm : m.Bears id) (hid : id ≠ "") (number : Nat) (path : Text) :
    (m.fill number path (some id)).Bears id := by
  intro n r hr
  rw [find?_fill] at hr
  split at hr
  · obtain ⟨known, hknown, rfl⟩ := Option.map_eq_some_iff.mp hr
    exact Or.inr (Problem.requestId_withDefaults (hm n known hknown) hid path)
  · exact hm n r hr

theorem requestId_of_shown (hm : m.Bears id) (hid : id ≠ "") {i : Incident} {ambient : Int}
    {development : Bool} {path : Text} {q : Problem}
    (hq : m.shown i ambient development path (some id) = .ok q) : q.requestId = some id := by
  unfold shown at hq
  obtain ⟨r, hr, rfl⟩ := map_eq_ok_iff.mp hq
  have hkept := bears_classify hm i (.int ambient) development
  rcases hclass : m.classify i (.int ambient) development with ⟨answer, memo⟩
  rw [hclass] at hr hkept
  obtain rfl : answer = .ok r := hr
  exact Problem.requestId_withDefaults (hkept _ r (find?_of_classify hclass)) hid path

end Memo

theorem Problem.lookup?_optionalField_of_ne {n : FieldName} {name : Text}
    (hne : (n.wire : Text) ≠ name) (s : Option Text) :
    Value.lookup? name (optionalField n s) = none := by
  cases s with
  | none => rfl
  | some s => exact if_neg hne

/-- The id of a problem is on the wire with it. -/
theorem Problem.field?_payload {q : Problem} {id : Text} (h : q.requestId = some id) :
    q.payload.field? requestIdField.wire = some (.text id) := by
  have hfailures : Value.lookup? requestIdField.wire
      (if q.failures.isEmpty then ([] : List (Text × Value))
        else [(failuresField.wire, .list (q.failures.map (·.toValue FieldName.wire)))]) =
      none := by
    split
    · rfl
    · exact if_neg (by decide)
  have hid : Value.lookup? requestIdField.wire (optionalField requestIdField (some id)) =
      some (.text id) := if_pos rfl
  show Value.lookup? requestIdField.wire q.wireFields = some (.text id)
  unfold wireFields
  rw [Value.lookup?, if_neg (by decide), h]
  simp only [Value.lookup?_append, hfailures, hid,
    lookup?_optionalField_of_ne (by decide : (titleField.wire : Text) ≠ requestIdField.wire),
    lookup?_optionalField_of_ne (by decide : (typeField.wire : Text) ≠ requestIdField.wire),
    lookup?_optionalField_of_ne (by decide : (detailField.wire : Text) ≠ requestIdField.wire),
    lookup?_optionalField_of_ne (by decide : (instanceField.wire : Text) ≠ requestIdField.wire),
    Option.none_or]

/-- The body is a problem in writing, with this id. -/
def ShowsProblem (id : Text) (body : String) : Prop :=
  ∃ (format : BodyFormat) (q : Problem), format.write q.payload = .ok body
    ∧ q.payload.field? Problem.requestIdField.wire = some (.text id)

theorem Http.Response.body_of_make {status : Int} {body : String} {mediaType : Option String}
    {r : Response} (h : make status body mediaType = .ok r) : r.body = body := by
  unfold make at h
  rw [checkBody_ofString] at h
  dsimp only at h
  split at h
  · cases h
  · rw [← Except.ok.inj h]

theorem Draft.body_of_render {d : Draft} {r : Response} (h : d.render = .ok r) :
    r.body = d.body := by
  unfold render at h
  split at h
  · cases h
  · rename_i hmake
    split at h
    · cases h
    · obtain rfl := Except.ok.inj h
      have hbody := Response.body_of_make hmake
      exact hbody

/-! ## What is counted -/

/-- Whether a counter tells of a problem that was written. -/
def Metric.isProblem : Metric → Bool
  | .problem .. | .resultFailure .. => true
  | _ => false

namespace Event

/-- Whether a problem was counted. -/
def tellOfProblem (events : List Event) : Bool := (counts events).any Metric.isProblem

theorem tellOfProblem_append (events others : List Event) :
    tellOfProblem (events ++ others) = (tellOfProblem events || tellOfProblem others) := by
  unfold tellOfProblem counts
  rw [List.filterMap_append, List.any_append]

end Event

open Event

/-! ## Troubles

Nobody is turned away for what goes wrong in the library itself. -/

theorem Trouble.kind_toError (t : Trouble) :
    t.toError.kind = .unknown ∨ t.toError.kind = .keyNotFound
      ∨ t.toError.kind = .validationFailure := by
  cases t with
  | missingKey key => exact Or.inr (Or.inl rfl)
  | missingPart position => exact Or.inr (Or.inl rfl)
  | invalid record issues => exact Or.inr (Or.inr rfl)
  | obstacle o => cases o <;> exact Or.inl rfl
  | _ => exact Or.inl rfl

theorem Trouble.status_of_classify {t : Trouble} {development : Bool} {q : Problem}
    (h : classify t.toError (.int 200) development = .ok q) :
    q.status = 400 ∨ q.status = 422 ∨ q.status = 500 := by
  unfold classify at h
  rcases t.kind_toError with hkind | hkind | hkind
  · rw [hkind] at h
    obtain ⟨status, detail, hstatus, rfl⟩ := Error.classifyUnknown_eq_ok h
    obtain rfl : 500 = status := Except.ok.inj hstatus
    exact Or.inr (Or.inr rfl)
  · rw [hkind] at h
    obtain ⟨detail, rfl⟩ := Error.openly_eq_ok h
    exact Or.inl rfl
  · rw [hkind] at h
    obtain ⟨detail, failures, rfl⟩ := Error.classifyValidation_eq_ok h
    exact Or.inr (Or.inl rfl)

theorem Handler.not_handshake_of_trouble (h : Handler) (t : Trouble) {x : Exchange} {n : Nat}
    (hstatus : x.draft.status = 200) (hn : x.memo.find? n = none) (action : Action) :
    Metric.handshake action ∉ counts (h.handle ⟨n, t.toError⟩ x).events := by
  cases hreason : x.reasonToDecline? ⟨n, t.toError⟩ with
  | some reason =>
      rw [handle_of_declined hreason]
      simp [bypass, counts]
  | none =>
      obtain ⟨format, -, heq⟩ := handle_of_accepted (h := h) hreason
      rw [heq]
      rcases h.resolve_shown_cases format ⟨n, t.toError⟩ x.polled with
        ⟨t', -, heq⟩ | ⟨q, memo, hshown, -, heq⟩
      · rw [heq]
        exact List.not_mem_nil
      · unfold Exchange.shown at hshown
        rw [Memo.shown_of_unknown (m := x.polled.memo) (i := ⟨n, t.toError⟩) hn] at hshown
        obtain ⟨q', hq', rfl⟩ := map_eq_ok_iff.mp hshown
        have hnone : actionFor? q'.status = none := by
          rw [show x.polled.draft.status = 200 from hstatus] at hq'
          rcases Trouble.status_of_classify hq' with h | h | h <;> rw [h] <;> rfl
        rw [heq]
        unfold dispose
        rw [Problem.withDefaults_status, hnone]
        dsimp only
        rcases present_cases format t.toError _ { x.polled with memo } with
          ⟨t', -, heq⟩ | ⟨body, -, heq⟩
        · rw [heq]
          exact List.not_mem_nil
        · rw [heq]
          simp [counts]

/-- The guard turns nobody away for a trouble either. -/
theorem Guard.not_handshake_of_trouble (handler : Option Handler) (t : Trouble) {x : Exchange}
    {n : Nat} (hstatus : x.draft.status = 200) (hn : x.memo.find? n = none) (action : Action) :
    Metric.handshake action ∉
      counts (guard handler n { raised := some (.trouble t) } x).events := by
  rcases concerned_or_free handler { raised := some (.trouble t) } with ⟨h, raised, hc⟩ | hfree
  · obtain rfl : Raised.trouble t = raised := Option.some.inj hc.raisedIs
    have hnone := h.not_handshake_of_trouble t hstatus hn action
    rw [guard_of_concerned hc]
    unfold handle Raised.asIncident
    dsimp only
    split <;> exact hnone
  · rw [guard_of_not_concerned hfree]
    exact List.not_mem_nil

/-! ## Handling and answering -/

namespace Handler

variable {h : Handler} {x : Exchange} {i : Incident} {id : Text}

theorem bears_handle (hm : x.memo.Bears id) (hid : id ≠ "")
    (hrequest : x.request.requestId = some id) : (h.handle i x).exchange.memo.Bears id := by
  cases hreason : x.reasonToDecline? i with
  | some reason =>
      rw [handle_of_declined hreason]
      show (x.lookedAt i).memo.Bears id
      rw [x.lookedAt_memo i]
      exact hm
  | none =>
      obtain ⟨format, -, heq⟩ := handle_of_accepted (h := h) hreason
      rw [heq]
      -- Looking for the client leaves the memo alone, so the bearing carries over.
      have hclassified : ∀ {r memo}, x.polled.memo.classify i (.int x.polled.draft.status)
          h.development = (.ok r, memo) → memo.Bears id := by
        intro r memo hclass
        have hafter := Memo.bears_classify (m := x.polled.memo) hm i
          (.int x.polled.draft.status) h.development
        rwa [hclass] at hafter
      rcases h.resolve_cases format i x.polled with
        ⟨t, -, heq⟩ | ⟨r, memo, action, hclass, -, heq⟩ | ⟨r, memo, hclass, -, heq⟩
      · rw [heq]; exact hm
      · rw [heq, handshake_memo]; exact hclassified hclass
      · rw [heq, present_memo]
        show (memo.fill i.number x.request.path x.request.requestId).Bears id
        rw [hrequest]
        exact Memo.bears_fill (hclassified hclass) hid _ _

theorem counts_handshake (h : Handler) (action : Action) (x : Exchange) :
    Metric.handshake action ∈ counts (h.handshake action x).events := by
  unfold handshake counts
  simp

/-- An error is left alone, or its caller is turned away, or a problem is written. -/
theorem outcome_cases {format : BodyFormat} (hformat : x.request.format = some format)
    {o : Outcome} (ho : (h.handle i x).outcome = .ok o) :
    o = .bypass ∨ (∃ action, Metric.handshake action ∈ counts (h.handle i x).events)
      ∨ o = .problem := by
  rcases h.handle_cases i hformat with ⟨reason, heq⟩ | ⟨t, -, heq⟩ | ⟨q, memo, -, -, heq⟩
  · rw [heq] at ho
    exact Or.inl (Except.ok.inj ho).symm
  · rw [heq] at ho
    cases ho
  · rw [heq] at ho ⊢
    unfold dispose at ho ⊢
    cases haction : actionFor? q.status with
    | some action => exact Or.inr (Or.inl ⟨action, counts_handshake ..⟩)
    | none =>
        rw [haction] at ho
        dsimp only at ho
        rcases present_cases format i.error q { x.polled with memo } with
          ⟨t, -, heq⟩ | ⟨body, -, heq⟩
        · rw [heq] at ho
          cases ho
        · rw [heq] at ho
          exact Or.inr (Or.inr (Except.ok.inj ho).symm)

/-- A problem that is written is drafted with the id. -/
theorem shows_handle {format : BodyFormat} (hm : x.memo.Bears id) (hid : id ≠ "")
    (hrequest : x.request.requestId = some id) (hformat : x.request.format = some format)
    (ho : (h.handle i x).outcome = .ok .problem) :
    ShowsProblem id (h.handle i x).exchange.draft.body := by
  rcases h.handle_cases i hformat with ⟨reason, heq⟩ | ⟨t, -, heq⟩ | ⟨q, memo, hq, -, heq⟩
  · rw [heq] at ho
    cases ho
  · rw [heq] at ho
    cases ho
  · unfold Exchange.shown at hq
    rw [hrequest] at hq
    have hshown := Problem.field?_payload (Memo.requestId_of_shown hm hid hq)
    rw [heq] at ho ⊢
    unfold dispose at ho ⊢
    cases haction : actionFor? q.status with
    | some action =>
        rw [haction] at ho
        cases action <;> cases ho
    | none =>
        rw [haction] at ho
        dsimp only at ho ⊢
        rcases present_cases format i.error q { x.polled with memo } with
          ⟨t, -, heq⟩ | ⟨body, hwrite, heq⟩
        · rw [heq] at ho
          cases ho
        · rw [heq]
          exact ⟨format, q, hwrite, hshown⟩

end Handler

namespace Responder

variable {r : Responder} {place : Place} {m : Memo} {id : Text}

theorem bears_answer (hm : m.Bears id) (hid : id ≠ "") (hplace : place.requestId = some id)
    (result : Result) : (r.answer result place m).memo.Bears id := by
  cases result with
  | success v => exact hm
  | failure i =>
      have hafter := Memo.bears_classify hm i (.int place.ambient) r.development
      show (r.answerFailure i place m).memo.Bears id
      unfold answerFailure
      rcases hclass : m.classify i (.int place.ambient) r.development with ⟨known, memo⟩
      rw [hclass] at hafter
      cases known with
      | error t => exact hafter
      | ok known =>
          show (memo.fill i.number place.path place.requestId).Bears id
          rw [hplace]
          exact Memo.bears_fill hafter hid _ _

/-- A problem is counted just where a failure is answered, and then with the id. -/
theorem shows_answer (hm : m.Bears id) (hid : id ≠ "") (hplace : place.requestId = some id)
    {result : Result} (htold : tellOfProblem (r.answer result place m).events = true)
    {response : Response} (hresponse : (r.answer result place m).response = .ok response) :
    ShowsProblem id response.body := by
  cases result with
  | success v => cases htold
  | failure i =>
      unfold answer at hresponse
      rw [response_answerFailure] at hresponse
      obtain ⟨q, hq, hwritten⟩ := bind_eq_ok_iff.mp hresponse
      rw [hplace] at hq
      have hshown := Problem.field?_payload (Memo.requestId_of_shown hm hid hq)
      unfold problemResponse at hwritten
      cases hwrite : r.format.write q.payload with
      | error t => rw [hwrite] at hwritten; cases hwritten
      | ok body =>
          rw [hwrite] at hwritten
          rw [Response.body_of_make hwritten]
          exact ⟨r.format, q, hwrite, hshown⟩

end Responder

end Triage
