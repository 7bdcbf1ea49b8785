import Triage.Proofs.Handling
import Triage.Proofs.Latin

/-!
# One representation per request

However a run goes on, an incident that is handled twice is handled alike: the
outcome is the same, and where it is a problem, status and body of the response
are the same. `same_representation` compares both times with the end of the run,
where the incident is presented as *one* problem; `presented?_move` carries
either time there.

That the response can be rendered at all rests on a second invariant: a draft
has Latin-1 headers throughout, when those that are appended are Latin-1
(`hasLatinHeaders_move`).
-/

namespace Triage

open Http Text

/-! ## Headers stay Latin-1 -/

/-- The authenticator of a handler, asked for the schemes in effect, adds no header
beyond Latin-1. -/
def Handler.KeepsLatin (h : Handler) (request : Request) : Prop :=
  ∀ a ∈ h.authenticator, ∀ action, ∀ scheme ∈ Handler.schemesToTrigger (h.schemes request),
    ∀ draft : Draft, draft.HasLatinHeaders →
      (a.react action scheme request draft).1.HasLatinHeaders

namespace Draft

theorem hasLatinHeaders_clear (d : Draft) : d.clear.HasLatinHeaders :=
  fun header hmem => by cases hmem

theorem hasLatinHeaders_appendHeader {d : Draft} (hd : d.HasLatinHeaders) {name : String}
    {value : Text} (hl : IsLatinHeader (name, value)) :
    (d.appendHeader name value).HasLatinHeaders := by
  intro header hmem
  rcases List.mem_append.mp hmem with hold | hnew
  · exact hd header hold
  · rw [List.mem_singleton.mp hnew]
    exact hl

/-- An edit keeps the headers Latin-1; one that appends a header has to bring a
Latin-1 one. -/
theorem hasLatinHeaders_edit {d d' : Draft} (hd : d.HasLatinHeaders) {e : Edit}
    (he : ∀ name value, e = .appendHeader name value → IsLatinHeader (name, value))
    (hedit : d.edit e = .ok d') : d'.HasLatinHeaders := by
  cases e with
  | setStatus status =>
      obtain rfl := Except.ok.inj hedit
      exact hd
  | appendHeader name value =>
      obtain rfl := Except.ok.inj hedit
      exact hasLatinHeaders_appendHeader hd (he name value rfl)
  | write format value mediaType =>
      simp only [edit, write] at hedit
      split at hedit
      · cases hedit
      · obtain rfl := Except.ok.inj hedit
        exact hd
  | clear =>
      obtain rfl := Except.ok.inj hedit
      exact hasLatinHeaders_clear d

end Draft

namespace Handler

variable {h : Handler} {x : Exchange}

theorem hasLatinHeaders_trigger {a : Authenticator} {action : Action} {request : Request} :
    ∀ {schemes : List (Option Text)},
      (∀ scheme ∈ schemes, ∀ draft : Draft, draft.HasLatinHeaders →
        (a.react action scheme request draft).1.HasLatinHeaders) →
      ∀ {draft : Draft}, draft.HasLatinHeaders →
        (trigger a action request schemes draft).1.HasLatinHeaders
  | [], _, _, hd => hd
  | scheme :: rest, hreact, draft, hd => by
      have hrest : ∀ scheme' ∈ rest, ∀ draft : Draft, draft.HasLatinHeaders →
          (a.react action scheme' request draft).1.HasLatinHeaders :=
        fun scheme' hmem => hreact scheme' (List.mem_cons_of_mem _ hmem)
      exact hasLatinHeaders_trigger hrest (hreact scheme (List.mem_cons_self ..) draft hd)

theorem hasLatinHeaders_handshake (hauth : h.KeepsLatin x.request) (action : Action) :
    (h.handshake action x).exchange.draft.HasLatinHeaders := by
  have hcleared : (x.draft.clear.setStatus action.status).HasLatinHeaders :=
    x.draft.hasLatinHeaders_clear
  unfold handshake
  cases hsome : h.authenticator with
  | none => exact hcleared
  | some a => exact hasLatinHeaders_trigger (hauth a hsome action) hcleared

theorem hasLatinHeaders_handle (hauth : h.KeepsLatin x.request) (hd : x.draft.HasLatinHeaders)
    (i : Incident) : (h.handle i x).exchange.draft.HasLatinHeaders := by
  cases hreason : x.reasonToDecline? i with
  | some reason =>
      rw [handle_of_declined hreason]
      show (x.lookedAt i).draft.HasLatinHeaders
      rw [x.lookedAt_draft i]
      exact hd
  | none =>
      obtain ⟨format, -, heq⟩ := handle_of_accepted (h := h) hreason
      rw [heq]
      rcases h.resolve_cases format i x.polled with
        ⟨t, -, heq⟩ | ⟨r, memo, action, -, -, heq⟩ | ⟨r, memo, -, -, heq⟩
      · rw [heq]; exact hd
      · rw [heq]; exact hasLatinHeaders_handshake (x := { x.polled with memo }) hauth action
      · rw [heq]
        rcases present_cases format i.error _ _ with ⟨t, -, heq⟩ | ⟨body, -, heq⟩ <;>
          rw [heq] <;> exact hd

theorem hasLatinHeaders_move (hauth : h.KeepsLatin x.request) (hd : x.draft.HasLatinHeaders)
    {m : Move}
    (hm : ∀ name value, m = .edit (.appendHeader name value) → IsLatinHeader (name, value)) :
    (h.move x m).exchange.draft.HasLatinHeaders := by
  cases m with
  | handle i => exact hasLatinHeaders_handle hauth hd i
  | edit e =>
      unfold move
      cases hedit : x.draft.edit e with
      | error t =>
          simp only [hedit]
          exact hd
      | ok d =>
          simp only [hedit]
          exact Draft.hasLatinHeaders_edit hd
            (fun name value he => hm name value (congrArg Move.edit he)) hedit
  | poll => exact hd
  | renew status => exact fun header hmem => by cases hmem

/-- The installed authenticator keeps to Latin-1 when the schemes and the realm do. -/
theorem keepsLatin_headers {request : Request} {defaultScheme realm : Option Text}
    (hsome : h.authenticator = some (.headers defaultScheme realm))
    (hdefault : ∀ s ∈ defaultScheme, IsLatinText s) (hrealm : ∀ s ∈ realm, IsLatinText s)
    (hschemes : ∀ s ∈ h.schemes request, IsLatinText s) : h.KeepsLatin request := by
  intro a ha action scheme hscheme draft hd
  obtain rfl := Option.some.inj (hsome.symm.trans ha)
  have hnamed : ∀ {o : Option Text}, (∀ s ∈ o, IsLatinText s) →
      ∀ s, Authenticator.headers.named o = some s → IsLatinText s := by
    intro o ho s hs
    unfold Authenticator.headers.named at hs
    split at hs
    · split at hs
      · cases hs
      · exact ho s hs
    · cases hs
  have hasked : ∀ s ∈ scheme, IsLatinText s := by
    intro s hs
    unfold schemesToTrigger at hscheme
    split at hscheme
    · rw [List.mem_singleton.mp hscheme] at hs
      cases hs
    · obtain ⟨s', hs', rfl⟩ := List.mem_map.mp hscheme
      rw [← Option.some.inj hs]
      exact hschemes s' hs'
  unfold Authenticator.headers
  cases action with
  | forbid => exact hd
  | challenge =>
      dsimp only
      split
      · exact hd
      · rename_i s hs
        have hs' : IsLatinText s := by
          rcases Option.or_eq_some_iff.mp hs with hown | ⟨-, hown⟩
          · exact hnamed hasked s hown
          · exact hnamed hdefault s hown
        refine Draft.hasLatinHeaders_appendHeader hd
          ⟨show IsLatinText "WWW-Authenticate" by decide, ?_⟩
        unfold Authenticator.headers.challengeText
        split
        · rename_i r hr
          exact isLatinText_append (isLatinText_append (isLatinText_append hs' (by decide))
            (hnamed hrealm r hr)) (by decide)
        · exact hs'

end Handler

/-! ## Along a run -/

namespace Handler

variable {h : Handler} {x : Exchange} {ms : List Move}

@[simp] theorem after_request (h : Handler) (x : Exchange) (ms : List Move) :
    (h.after x ms).request = x.request :=
  after_induction (P := fun y => y.request = x.request)
    (fun y m _ hy => (move_request h y m).trans hy) rfl

theorem presented?_after {n : Nat} {q : Problem} (hq : x.presented? n = some q)
    (h : Handler) (ms : List Move) : (h.after x ms).presented? n = some q :=
  after_induction (P := fun y => y.presented? n = some q)
    (fun _ m _ hy => presented?_move hy h m) hq

theorem hasLatinHeaders_after (hauth : h.KeepsLatin x.request) (hd : x.draft.HasLatinHeaders)
    (hms : ∀ name value, .edit (.appendHeader name value) ∈ ms → IsLatinHeader (name, value)) :
    (h.after x ms).draft.HasLatinHeaders := by
  have hboth : (h.after x ms).request = x.request ∧ (h.after x ms).draft.HasLatinHeaders := by
    refine after_induction (P := fun y => y.request = x.request ∧ y.draft.HasLatinHeaders)
      (fun y m hm hy => ⟨(move_request h y m).trans hy.1, ?_⟩) ⟨rfl, hd⟩
    exact hasLatinHeaders_move (hy.1 ▸ hauth) hy.2
      (fun name value heq => hms name value (heq ▸ hm))
  exact hboth.2

theorem hasLatinHeaders_run (hauth : h.KeepsLatin x.request) (hd : x.draft.HasLatinHeaders)
    (hms : ∀ name value, .edit (.appendHeader name value) ∈ ms → IsLatinHeader (name, value))
    {k : Nat} {r : Moved} (hr : (h.run x ms)[k]? = some r) :
    r.exchange.draft.HasLatinHeaders := by
  rw [getElem?_run] at hr
  obtain ⟨m, hm, rfl⟩ := Option.map_eq_some_iff.mp hr
  have hbefore : (h.after x (ms.take k)).draft.HasLatinHeaders :=
    hasLatinHeaders_after hauth hd
      (fun name value hmem => hms name value (List.mem_of_mem_take hmem))
  exact hasLatinHeaders_move ((after_request h x (ms.take k)).symm ▸ hauth) hbefore
    (fun name value heq => hms name value (heq ▸ List.mem_of_getElem? hm))

/-- What is left of a run after one of its moves. -/
theorem after_eq_of_getElem? {k : Nat} {m : Move} (hk : ms[k]? = some m) :
    h.after x ms = h.after (h.move (h.after x (ms.take k)) m).exchange (ms.drop (k + 1)) := by
  obtain ⟨hlt, rfl⟩ := List.getElem?_eq_some_iff.mp hk
  have hsplit : ms = ms.take k ++ ms[k] :: ms.drop (k + 1) := by
    rw [← List.drop_eq_getElem_cons hlt, List.take_append_drop]
  have hafter := congrArg (h.after x) hsplit
  rwa [after_append] at hafter

/-- An incident that a run handles is presented as one problem at the end of the
run. Its status decides the outcome, and a problem that is written is that one. -/
theorem presented?_of_run {i : Incident} {k : Nat} (hk : ms[k]? = some (.handle i))
    {r : Moved} (hr : (h.run x ms)[k]? = some r) {o : Outcome}
    (ho : r.answer = .ok (.handled o)) (hne : o ≠ .bypass) :
    ∃ format q, x.request.format = some format
      ∧ (h.after x ms).presented? i.number = some q
      ∧ o = .ofStatus q.status
      ∧ (o = .problem → ∃ body, format.write q.payload = .ok body
          ∧ r.exchange.draft.status = q.status
          ∧ r.exchange.draft.content = some ⟨body, format.contentType⟩) := by
  rw [getElem?_run, hk] at hr
  obtain rfl := Option.some.inj hr
  have hout : (h.handle i (h.after x (ms.take k))).outcome = .ok o := by
    have hmapped : (h.handle i (h.after x (ms.take k))).outcome.map MoveAnswer.handled
        = .ok (.handled o) := ho
    cases hres : (h.handle i (h.after x (ms.take k))).outcome with
    | error t => rw [hres] at hmapped; cases hmapped
    | ok o' => rw [hres] at hmapped; cases hmapped; rfl
  obtain ⟨format, q, hformat, hq, hstatus, hdraft⟩ := presented?_of_handle hout hne
  rw [after_request] at hformat
  refine ⟨format, q, hformat, ?_, hstatus, fun hproblem => ?_⟩
  · rw [after_eq_of_getElem? hk]
    exact presented?_after hq h _
  · obtain ⟨body, hwrite, heq⟩ := hdraft hproblem
    have hexchange : (h.move (h.after x (ms.take k)) (.handle i)).exchange.draft
        = (h.handle i (h.after x (ms.take k))).exchange.draft := rfl
    rw [hexchange, heq]
    exact ⟨body, hwrite, rfl, rfl⟩

/-- **One representation.** In a run whose header texts and problem type are
Latin-1, two handlings of the same incident that end in something else than being
declined end alike; and where that is a problem, both responses can be rendered
and have the same status and the same body. -/
theorem same_representation (h : Handler) (x : Exchange) (ms : List Move)
    (hstart : x.draft.HasLatinHeaders) (hauth : h.KeepsLatin x.request)
    (happended : ∀ name value, .edit (.appendHeader name value) ∈ ms →
      IsLatinHeader (name, value))
    (htype : ∀ format ∈ x.request.format, IsLatinText format.contentType)
    {i : Incident} {a b : Nat}
    (ha : ms[a]? = some (.handle i)) (hb : ms[b]? = some (.handle i))
    {r s : Moved} (hr : (h.run x ms)[a]? = some r) (hs : (h.run x ms)[b]? = some s)
    {o o' : Outcome} (ho : r.answer = .ok (.handled o)) (ho' : s.answer = .ok (.handled o'))
    (hne : o ≠ .bypass) (hne' : o' ≠ .bypass) :
    o = o' ∧ (o = .problem → ∃ response response',
      r.exchange.draft.render = .ok response ∧ s.exchange.draft.render = .ok response'
        ∧ response.status = response'.status ∧ response.body = response'.body) := by
  obtain ⟨format, q, hformat, hq, hstatus, hdraft⟩ := presented?_of_run ha hr ho hne
  obtain ⟨format', q', hformat', hq', hstatus', hdraft'⟩ := presented?_of_run hb hs ho' hne'
  -- Both times the incident is presented as what it is presented as in the end.
  obtain rfl := Option.some.inj (hformat.symm.trans hformat')
  obtain rfl := Option.some.inj (hq.symm.trans hq')
  obtain rfl : o = o' := hstatus.trans hstatus'.symm
  refine ⟨rfl, fun hproblem => ?_⟩
  obtain ⟨body, hwrite, hst, hcontent⟩ := hdraft hproblem
  obtain ⟨body', hwrite', hst', hcontent'⟩ := hdraft' hproblem
  obtain rfl := Except.ok.inj (hwrite.symm.trans hwrite')
  obtain ⟨response, hrender, hrst, hbody⟩ :=
    Draft.render_of_written (hasLatinHeaders_run hauth hstart happended hr) hcontent
      (htype format hformat)
  obtain ⟨response', hrender', hrst', hbody'⟩ :=
    Draft.render_of_written (hasLatinHeaders_run hauth hstart happended hs) hcontent'
      (htype format hformat)
  exact ⟨response, response', hrender, hrender', by rw [hrst, hrst', hst, hst'],
    by rw [hbody, hbody']⟩

/-- A run that handles one crash twice, with a handshake and a new draft between. -/
def crashTwice : List Move :=
  [.handle crash, .edit (.appendHeader "X-Partial" "1"), .handle stranger, .renew 503,
    .handle crash]

theorem same_representation_of_crash :
    ∃ r s, (bearerHandler.run missingPage crashTwice)[0]? = some r
      ∧ (bearerHandler.run missingPage crashTwice)[4]? = some s
      ∧ ∃ response response', r.exchange.draft.render = .ok response
        ∧ s.exchange.draft.render = .ok response'
        ∧ response.status = response'.status ∧ response.body = response'.body := by
  have hanswers : ∀ k ∈ [0, 4],
      ((bearerHandler.run missingPage crashTwice)[k]?.bind fun r => r.answer.toOption)
        = some (.handled .problem) := by
    decide +kernel
  obtain ⟨r, hr, ho⟩ := Option.bind_eq_some_iff.mp (hanswers 0 (by decide))
  obtain ⟨s, hs, ho'⟩ := Option.bind_eq_some_iff.mp (hanswers 4 (by decide))
  have happended : ∀ name value, .edit (.appendHeader name value) ∈ crashTwice →
      IsLatinHeader (name, value) := by
    intro name value hmem
    simp only [crashTwice, List.mem_cons, reduceCtorEq, Move.edit.injEq, Edit.appendHeader.injEq,
      List.not_mem_nil, or_false, false_or] at hmem
    obtain ⟨rfl, rfl⟩ := hmem
    exact ⟨by decide, by decide⟩
  have htype : ∀ format ∈ missingPage.request.format, IsLatinText format.contentType := by
    rintro format ⟨⟩
    exact (by decide : IsLatinText "application/problem+json")
  refine ⟨r, s, hr, hs, (same_representation bearerHandler missingPage crashTwice
    (fun header hmem => nomatch hmem)
    (keepsLatin_headers rfl (by decide) (by decide) (by decide)) happended htype
    (i := crash) rfl rfl hr hs (eq_ok_of_toOption ho) (eq_ok_of_toOption ho')
    (by decide) (by decide)).2 rfl⟩

end Handler

end Triage
