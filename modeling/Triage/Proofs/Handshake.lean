import Triage.Proofs.Handling
import Triage.Proofs.Latin
import Triage.Proofs.Schemes

/-!
# Turning a caller away

A handshake starts from a blank draft: nothing of what was drafted, handled or
remembered before is left in the response. What is put into it depends on the
authenticator and on the set of schemes in effect, and on nothing else
(`handshake_erases_the_past`). The authenticator is asked about each scheme once,
in ascending order, or once about no scheme in particular.

Authenticators may do what they like with a draft. The response is known in full
for those that only add headers (`Authenticator.Adds`), and it is spelled out for
the one that names schemes and a realm in a header (`Authenticator.headers`).
-/

namespace Triage

open Http Text

/-! ## Triggers among events -/

namespace Event

theorem triggers_append (es fs : List Event) : triggers (es ++ fs) = triggers es ++ triggers fs :=
  List.filterMap_append

theorem triggers_map_logged {α : Type} (f : α → LogEntry) (l : List α) :
    triggers (l.map fun a => .logged (f a)) = [] := by
  unfold triggers
  rw [List.filterMap_map]
  exact List.filterMap_eq_nil_iff.mpr fun a _ => rfl

end Event

/-! ## Blank drafts -/

namespace Draft

/-- The draft that a handshake starts from. -/
def blank (action : Action) : Draft := { status := action.status }

/-- With headers in it, a blank draft becomes a response without a body. -/
theorem render_blank (action : Action) {headers : List (String × Text)}
    (hlatin : ∀ header ∈ headers, IsLatinHeader header) :
    render { blank action with headers } =
      .ok ⟨action.status, ("content-length", "0") :: headers.map keptHeader, ""⟩ := by
  have hsendable : IsSendable { blank action with headers } :=
    ⟨hlatin, fun c hc => nomatch hc⟩
  have hlength : Response.lengthHeader action.status "" = [("content-length", "0")] := by
    cases action <;> decide +kernel
  have hresponse : response { blank action with headers } =
      ⟨action.status,
        Response.lengthHeader action.status "" ++ [] ++ headers.map keptHeader, ""⟩ := rfl
  rw [render_of_isSendable hsendable, hresponse, hlength]
  rfl

end Draft

/-! ## Authenticators that add headers -/

namespace Authenticator

variable {a : Authenticator} {action : Action} {request : Request}
  {schemes : List (Option Text)} {d : Draft}

/-- The headers that the calls for several schemes add to a draft, in order. -/
def additions (a : Authenticator) (action : Action) (request : Request) :
    List (Option Text) → Draft → List (String × Text)
  | [], _ => []
  | scheme :: rest, d =>
    let next := (a.react action scheme request d).1
    next.headers.drop d.headers.length ++ a.additions action request rest next

/-- Asked about any of several schemes, an authenticator adds headers that can be
sent, and changes nothing else of a draft for the action. -/
def Adds (a : Authenticator) (action : Action) (request : Request)
    (schemes : List (Option Text)) : Prop :=
  ∀ scheme ∈ schemes, ∀ d : Draft, d.status = action.status →
    ∃ added, (∀ header ∈ added, IsLatinHeader header)
      ∧ (a.react action scheme request d).1 = { d with headers := d.headers ++ added }

/-- An authenticator triggers nothing itself: it is asked, and does not ask. -/
def TriggersNothing (a : Authenticator) (action : Action) (request : Request) : Prop :=
  ∀ scheme d, Event.triggers (a.react action scheme request d).2 = []

/-- The calls leave a draft with their headers added. -/
theorem Adds.trigger_draft (ha : a.Adds action request schemes) (hd : d.status = action.status) :
    (Handler.trigger a action request schemes d).1 =
        { d with headers := d.headers ++ a.additions action request schemes d }
      ∧ ∀ header ∈ a.additions action request schemes d, IsLatinHeader header := by
  -- The induction is on the schemes, from the draft that the calls so far have left.
  induction schemes generalizing d with
  | nil =>
      refine ⟨?_, fun header hmem => nomatch hmem⟩
      rw [additions, List.append_nil]
      rfl
  | cons scheme rest ih =>
      obtain ⟨added, hlatin, hreact⟩ := ha scheme (List.mem_cons_self ..) d hd
      have hnext : (a.react action scheme request d).1.status = action.status := by
        rw [hreact]
        exact hd
      obtain ⟨hrest, hlatinRest⟩ := ih (fun s hs => ha s (List.mem_cons_of_mem _ hs)) hnext
      have hown : (a.react action scheme request d).1.headers.drop d.headers.length = added := by
        rw [hreact]
        exact List.drop_left
      rw [additions, hown]
      constructor
      · show (Handler.trigger a action request rest (a.react action scheme request d).1).1 = _
        rw [hrest, hreact, List.append_assoc]
      · intro header hmem
        exact (List.mem_append.mp hmem).elim (hlatin header) (hlatinRest header)

/-- Each of the calls is noted once. -/
theorem TriggersNothing.triggers_trigger (ha : a.TriggersNothing action request)
    (schemes : List (Option Text)) (d : Draft) :
    Event.triggers (Handler.trigger a action request schemes d).2 = schemes.map (action, ·) := by
  induction schemes generalizing d with
  | nil => rfl
  | cons scheme rest ih =>
      have hown := ha scheme d
      have hrest := ih (a.react action scheme request d).1
      show Event.triggers (.triggered action scheme :: (a.react action scheme request d).2
        ++ (Handler.trigger a action request rest (a.react action scheme request d).1).2) = _
      rw [List.cons_append, ← List.singleton_append, Event.triggers_append, Event.triggers_append,
        hown, hrest]
      rfl

/-! ### Schemes in a header -/

namespace headers

/-- The header of a call: a challenge names the scheme, or else the preferred one. -/
def header? (preferred realm : Option Text) : Action → Option Text → Option (String × Text)
  | .forbid, _ => none
  | .challenge, scheme =>
    ((named scheme).or (named preferred)).map fun name =>
      ("WWW-Authenticate", challengeText realm name)

variable {preferred realm : Option Text} {name : Text}

theorem named_of_ne_empty (h : name ≠ "") : named (some name) = some name := by
  have hnonempty : name.isEmpty = false := Text.isEmpty_eq_false_iff.mpr h
  simp only [named, hnonempty, Bool.false_eq_true, if_false]

theorem eq_of_named {s : Option Text} (h : named s = some name) : s = some name := by
  unfold named at h
  split at h
  · split at h
    · cases h
    · exact h
  · cases h

theorem isLatinText_challengeText (hrealm : ∀ r ∈ realm, IsLatinText r) (hname : IsLatinText name) :
    IsLatinText (challengeText realm name) := by
  unfold challengeText
  split
  · rename_i r hr
    have hlatin := hrealm r (eq_of_named hr)
    exact isLatinText_append (isLatinText_append (isLatinText_append hname (by decide)) hlatin)
      (by decide)
  · exact hname

theorem react_draft (action : Action) (scheme : Option Text) (request : Request) (d : Draft) :
    ((headers preferred realm).react action scheme request d).1 =
      { d with
        status := action.status
        headers := d.headers ++ (header? preferred realm action scheme).toList } := by
  cases action with
  | forbid => simp [headers, header?, Draft.setStatus]
  | challenge =>
      simp only [headers, header?]
      cases (named scheme).or (named preferred) with
      | none => simp [Draft.setStatus]
      | some name => rfl

theorem triggersNothing (action : Action) (request : Request) :
    (headers preferred realm).TriggersNothing action request := by
  intro scheme d
  cases action with
  | forbid => rfl
  | challenge =>
      simp only [headers]
      cases (named scheme).or (named preferred) <;> rfl

theorem isLatinHeader_of_header? {action : Action} {scheme : Option Text}
    {header : String × Text} (hpreferred : ∀ s ∈ preferred, IsLatinText s)
    (hrealm : ∀ r ∈ realm, IsLatinText r) (hscheme : ∀ s ∈ scheme, IsLatinText s)
    (h : header? preferred realm action scheme = some header) : IsLatinHeader header := by
  cases action with
  | forbid => cases h
  | challenge =>
      obtain ⟨name, hname, rfl⟩ := Option.map_eq_some_iff.mp h
      have hlatin : IsLatinText name := by
        rcases Option.or_eq_some_iff.mp hname with hnamed | ⟨-, hnamed⟩
        · exact hscheme name (eq_of_named hnamed)
        · exact hpreferred name (eq_of_named hnamed)
      have hlabel : IsLatinText "WWW-Authenticate" := by decide
      exact ⟨hlabel, isLatinText_challengeText hrealm hlatin⟩

theorem adds {action : Action} {schemes : List (Option Text)} (request : Request)
    (hpreferred : ∀ s ∈ preferred, IsLatinText s) (hrealm : ∀ r ∈ realm, IsLatinText r)
    (hschemes : ∀ scheme ∈ schemes, ∀ s ∈ scheme, IsLatinText s) :
    (headers preferred realm).Adds action request schemes := by
  intro scheme hmem d hd
  refine ⟨(header? preferred realm action scheme).toList, fun header h => ?_, ?_⟩
  · exact isLatinHeader_of_header? hpreferred hrealm (hschemes scheme hmem)
      (Option.mem_toList.mp h)
  · rw [react_draft, ← hd]

theorem additions_eq (action : Action) (request : Request) (schemes : List (Option Text))
    (d : Draft) :
    (headers preferred realm).additions action request schemes d =
      schemes.flatMap fun scheme => (header? preferred realm action scheme).toList := by
  induction schemes generalizing d with
  | nil => rfl
  | cons scheme rest ih =>
      rw [additions, react_draft, ih, List.flatMap_cons]
      exact congrArg (· ++ _) List.drop_left

/-- The headers of a handshake: a challenge names the schemes, or else the preferred
one; forbidding names none. -/
def written (preferred realm : Option Text) (names : List Text) : Action → Headers
  | .forbid => []
  | .challenge =>
    (if names.isEmpty then (named preferred).toList else names).map fun name =>
      ("www-authenticate", (challengeText realm name).string)

theorem keptHeader_challenge (text : Text) :
    keptHeader ("WWW-Authenticate", text) = ("www-authenticate", text.string) := by
  have hlabel : lowered "WWW-Authenticate" = "www-authenticate" := by decide
  unfold keptHeader
  rw [hlabel]

theorem flatMap_header? {names : List Text} (hnames : ∀ name ∈ names, name ≠ "") :
    ((names.map some).flatMap fun scheme => (header? preferred realm .challenge scheme).toList) =
      names.map fun name => ("WWW-Authenticate", challengeText realm name) := by
  induction names with
  | nil => rfl
  | cons name rest ih =>
      have hname := named_of_ne_empty (hnames name (List.mem_cons_self ..))
      rw [List.map_cons, List.flatMap_cons, ih fun n hn => hnames n (List.mem_cons_of_mem _ hn)]
      simp [header?, hname]

/-- What a challenge names: the schemes, or else the preferred one. -/
def named? (preferred : Option Text) (names : List Text) : List Text :=
  if names.isEmpty then (named preferred).toList else names

theorem flatMap_header?_schemesToTrigger {names : List Text}
    (hnames : ∀ name ∈ names, name ≠ "") :
    ((Handler.schemesToTrigger names).flatMap fun scheme =>
        (header? preferred realm .challenge scheme).toList) =
      (named? preferred names).map fun name => ("WWW-Authenticate", challengeText realm name) := by
  cases names with
  | nil =>
      simp only [Handler.schemesToTrigger, named?, List.isEmpty_nil, if_true,
        List.flatMap_singleton, header?]
      cases named preferred <;> simp [named]
  | cons name rest => exact flatMap_header? hnames

theorem keptHeader_additions {names : List Text} (hnames : ∀ name ∈ names, name ≠ "")
    (action : Action) (request : Request) (d : Draft) :
    ((headers preferred realm).additions action request
        (Handler.schemesToTrigger names) d).map keptHeader =
      written preferred realm names action := by
  rw [additions_eq]
  cases action with
  | forbid => simp [header?, written]
  | challenge =>
      rw [flatMap_header?_schemesToTrigger hnames, List.map_map]
      exact List.map_congr_left fun name _ => keptHeader_challenge _

end headers

end Authenticator

/-! ## Handshakes -/

namespace Handler

variable {h h' : Handler} {x x' : Exchange} {i i' : Incident} {action : Action}

/-- What the authenticator makes of a blank draft, and what happens meanwhile. -/
def reactions (h : Handler) (action : Action) (request : Request) : Draft × List Event :=
  match h.authenticator with
  | none => (.blank action, [])
  | some a => trigger a action request (schemesToTrigger (h.schemes request)) (.blank action)

theorem draft_handshake (h : Handler) (action : Action) (x : Exchange) :
    (h.handshake action x).exchange.draft = (h.reactions action x.request).1 := by
  unfold handshake reactions
  cases h.authenticator <;> rfl

theorem events_handshake (h : Handler) (action : Action) (x : Exchange) :
    (h.handshake action x).events =
      h.policyWarnings x.request ++ [
        .logged (entry x .info "auth_handshake" [
          ("action", .text action.label), ("schemes", .list ((h.schemes x.request).map .text)),
          ("path", .text x.request.path)]),
        .counted (.handshake action)] ++ (h.reactions action x.request).2 := by
  unfold handshake reactions
  cases h.authenticator <;> rfl

theorem triggers_handshake (h : Handler) (action : Action) (x : Exchange) :
    Event.triggers (h.handshake action x).events =
      Event.triggers (h.reactions action x.request).2 := by
  have hwarnings : Event.triggers (h.policyWarnings x.request) = [] :=
    Event.triggers_map_logged _ _
  unfold handshake reactions
  dsimp only
  rw [Event.triggers_append, Event.triggers_append, hwarnings]
  cases h.authenticator <;> rfl

theorem ascending_schemes (h : Handler) (request : Request) : Ascending (h.schemes request) := by
  unfold schemes
  cases resolvePolicy h.provider request.requirements with
  | none => exact .nil
  | some policy => exact policy.ascending

theorem mem_schemes {request : Request} {name : Text} :
    name ∈ h.schemes request ↔
      ∃ policy, resolvePolicy h.provider request.requirements = some policy
        ∧ name ∈ policy.names := by
  unfold schemes
  cases resolvePolicy h.provider request.requirements with
  | none => simp
  | some policy => simp

theorem ne_empty_of_mem_schemes (hprovider : ∀ p ∈ h.provider, p.IsBuilt) {request : Request}
    {name : Text} (hname : name ∈ h.schemes request) : name ≠ "" := by
  obtain ⟨policy, hpolicy, hmem⟩ := mem_schemes.mp hname
  exact ne_empty_of_mem_resolvePolicy hprovider hpolicy hmem

theorem trigger_congr {a : Authenticator} {request request' : Request}
    (hreact : ∀ scheme d, a.react action scheme request' d = a.react action scheme request d)
    (schemes : List (Option Text)) (d : Draft) :
    trigger a action request' schemes d = trigger a action request schemes d := by
  induction schemes generalizing d with
  | nil => rfl
  | cons scheme rest ih => simp only [trigger, hreact, ih]

/-- The reactions depend on the schemes in effect, whichever way they came to be. -/
theorem reactions_congr {request request' : Request}
    (hauthenticator : h'.authenticator = h.authenticator)
    (hschemes : ∀ name, name ∈ h'.schemes request' ↔ name ∈ h.schemes request)
    (hreact : ∀ a ∈ h.authenticator, ∀ scheme d,
      a.react action scheme request' d = a.react action scheme request d) :
    h'.reactions action request' = h.reactions action request := by
  -- Names that ascend are known by which they are.
  have hsame : h'.schemes request' = h.schemes request :=
    (h'.ascending_schemes request').eq_of_mem_iff (h.ascending_schemes request) hschemes
  unfold reactions
  rw [hauthenticator, hsame]
  cases ha : h.authenticator with
  | none => rfl
  | some a => exact trigger_congr (hreact a ha) _ _

/-- An error that is not left alone, and is a problem of the status of an action. -/
structure TurnsAway (h : Handler) (x : Exchange) (i : Incident) (action : Action) : Prop where
  shown : ∃ q, x.shown i h.development = .ok q ∧ q.status = action.status
  handled : (h.handle i x).outcome ≠ .ok .bypass

theorem TurnsAway.handle_eq (haway : h.TurnsAway x i action) :
    ∃ y : Exchange, y.request = x.request ∧ h.handle i x = h.handshake action y := by
  obtain ⟨q, hshown, hstatus⟩ := haway.shown
  cases hreason : x.reasonToDecline? i with
  | some reason =>
      have hdeclined := handle_of_declined (h := h) hreason
      exact absurd (congrArg Handled.outcome hdeclined) haway.handled
  | none =>
      obtain ⟨format, -, hresolve⟩ := handle_of_accepted (h := h) hreason
      obtain ⟨memo, hdispose⟩ := resolve_of_shown (x := x.polled) format hshown
      refine ⟨{ x.polled with memo }, rfl, ?_⟩
      have haction : actionFor? q.status = some action := by
        rw [hstatus]
        cases action <;> rfl
      rw [hresolve, hdispose]
      unfold dispose
      rw [haction]

/-- The caller is turned away: the authenticator was asked about some schemes, and the
response has some headers and no body. -/
structure Rejects (action : Action) (asked : List (Option Text)) (headers : Headers)
    (handled : Handled) : Prop where
  calls : Event.triggers handled.events = asked.map (action, ·)
  response : handled.exchange.draft.render =
    .ok ⟨action.status, ("content-length", "0") :: headers, ""⟩

namespace TurnsAway

theorem outcome_eq (haway : h.TurnsAway x i action) :
    (h.handle i x).outcome = .ok (.ofAction action) := by
  obtain ⟨y, -, hhandle⟩ := haway.handle_eq
  rw [hhandle, handshake_outcome]

theorem draft_eq (haway : h.TurnsAway x i action) :
    (h.handle i x).exchange.draft = (h.reactions action x.request).1 := by
  obtain ⟨y, hrequest, hhandle⟩ := haway.handle_eq
  rw [hhandle, draft_handshake, hrequest]

theorem triggers_eq (haway : h.TurnsAway x i action) :
    Event.triggers (h.handle i x).events = Event.triggers (h.reactions action x.request).2 := by
  obtain ⟨y, hrequest, hhandle⟩ := haway.handle_eq
  rw [hhandle, triggers_handshake, hrequest]

theorem rejects_of_none (haway : h.TurnsAway x i action) (hnone : h.authenticator = none) :
    Rejects action [] [] (h.handle i x) := by
  have hreactions : h.reactions action x.request = (.blank action, []) := by
    unfold reactions
    rw [hnone]
  constructor
  · rw [haway.triggers_eq, hreactions]
    rfl
  · rw [haway.draft_eq, hreactions]
    exact Draft.render_blank action fun header hmem => nomatch hmem

theorem reactions_of_some {a : Authenticator} (ha : h.authenticator = some a) (action : Action)
    (request : Request) :
    h.reactions action request =
      trigger a action request (schemesToTrigger (h.schemes request)) (.blank action) := by
  unfold reactions
  rw [ha]

theorem calls_eq (haway : h.TurnsAway x i action) {a : Authenticator}
    (ha : h.authenticator = some a) (hquiet : a.TriggersNothing action x.request) :
    Event.triggers (h.handle i x).events =
      (schemesToTrigger (h.schemes x.request)).map (action, ·) := by
  rw [haway.triggers_eq, reactions_of_some ha]
  exact hquiet.triggers_trigger _ _

theorem response_eq (haway : h.TurnsAway x i action) {a : Authenticator}
    (ha : h.authenticator = some a)
    (hadds : a.Adds action x.request (schemesToTrigger (h.schemes x.request))) :
    (h.handle i x).exchange.draft.render =
      .ok ⟨action.status, ("content-length", "0") ::
        (a.additions action x.request (schemesToTrigger (h.schemes x.request))
          (.blank action)).map keptHeader, ""⟩ := by
  obtain ⟨htrigger, hlatin⟩ := hadds.trigger_draft (d := .blank action) rfl
  rw [haway.draft_eq, reactions_of_some ha, htrigger]
  exact Draft.render_blank action hlatin

theorem rejects_of_headers (haway : h.TurnsAway x i action) {preferred realm : Option Text}
    (ha : h.authenticator = some (.headers preferred realm))
    (hprovider : ∀ p ∈ h.provider, p.IsBuilt)
    (hlatin : ∀ name ∈ h.schemes x.request, IsLatinText name)
    (hpreferred : ∀ name ∈ preferred, IsLatinText name) (hrealm : ∀ r ∈ realm, IsLatinText r) :
    Rejects action (schemesToTrigger (h.schemes x.request))
      (Authenticator.headers.written preferred realm (h.schemes x.request) action)
      (h.handle i x) := by
  have hschemes : ∀ scheme ∈ schemesToTrigger (h.schemes x.request), ∀ s ∈ scheme,
      IsLatinText s := by
    intro scheme hmem s hs
    unfold schemesToTrigger at hmem
    split at hmem
    · obtain rfl := List.mem_singleton.mp hmem
      cases hs
    · obtain ⟨name, hname, rfl⟩ := List.mem_map.mp hmem
      obtain rfl := Option.some.inj hs
      exact hlatin name hname
  have hnames : ∀ name ∈ h.schemes x.request, name ≠ "" := fun name hname =>
    ne_empty_of_mem_schemes hprovider hname
  rw [← Authenticator.headers.keptHeader_additions hnames action x.request (.blank action)]
  exact ⟨haway.calls_eq ha (Authenticator.headers.triggersNothing action x.request),
    haway.response_eq ha (Authenticator.headers.adds x.request hpreferred hrealm hschemes)⟩

end TurnsAway

/-- A caller is turned away with the status of the action. What is put into the
response, and what the authenticator is asked, depends on the authenticator and on the
set of schemes in effect, and not on what was drafted, handled or remembered before.
An authenticator is asked about each scheme once, in ascending order, or once about
none. If it only adds headers, the response has these and no body; the headers of
`Authenticator.headers` name the schemes, or the preferred one if there are none. -/
theorem handshake_erases_the_past (h : Handler) (x : Exchange) (i : Incident) (action : Action)
    (haway : h.TurnsAway x i action) :
    (h.handle i x).outcome = .ok (.ofAction action)
      ∧ (∀ (h' : Handler) (x' : Exchange) (i' : Incident), h'.TurnsAway x' i' action →
          h'.authenticator = h.authenticator →
          (∀ name, name ∈ h'.schemes x'.request ↔ name ∈ h.schemes x.request) →
          (∀ a ∈ h.authenticator, ∀ scheme d,
            a.react action scheme x'.request d = a.react action scheme x.request d) →
          (h'.handle i' x').exchange.draft = (h.handle i x).exchange.draft
            ∧ Event.triggers (h'.handle i' x').events = Event.triggers (h.handle i x).events)
      ∧ (h.schemes x.request).Pairwise (· < ·)
      ∧ (h.authenticator = none → Rejects action [] [] (h.handle i x))
      ∧ (∀ a, h.authenticator = some a → a.TriggersNothing action x.request →
          Event.triggers (h.handle i x).events =
            (schemesToTrigger (h.schemes x.request)).map (action, ·))
      ∧ (∀ a, h.authenticator = some a →
          a.Adds action x.request (schemesToTrigger (h.schemes x.request)) →
          (h.handle i x).exchange.draft.render =
            .ok ⟨action.status, ("content-length", "0") ::
              (a.additions action x.request (schemesToTrigger (h.schemes x.request))
                (.blank action)).map keptHeader, ""⟩)
      ∧ (∀ preferred realm, h.authenticator = some (.headers preferred realm) →
          (∀ p ∈ h.provider, p.IsBuilt) → (∀ name ∈ h.schemes x.request, IsLatinText name) →
          (∀ name ∈ preferred, IsLatinText name) → (∀ r ∈ realm, IsLatinText r) →
          Rejects action (schemesToTrigger (h.schemes x.request))
            (Authenticator.headers.written preferred realm (h.schemes x.request) action)
            (h.handle i x)) := by
  refine ⟨haway.outcome_eq, fun h' x' i' haway' hauthenticator hschemes hreact => ?_,
    h.ascending_schemes x.request, fun hnone => haway.rejects_of_none hnone,
    fun a ha hquiet => haway.calls_eq ha hquiet, fun a ha hadds => haway.response_eq ha hadds,
    fun preferred realm ha hprovider hlatin hpreferred hrealm =>
      haway.rejects_of_headers ha hprovider hlatin hpreferred hrealm⟩
  have hsame := reactions_congr hauthenticator hschemes hreact
  constructor
  · rw [haway'.draft_eq, haway.draft_eq, hsame]
  · rw [haway'.triggers_eq, haway.triggers_eq, hsame]

/-- A service that knows two schemes, and names its realm. -/
def doorkeeper : Handler where
  authenticator := some (.headers (some "Bearer") (some "shop"))
  provider := some (.ofLists [] ["Digest", "Basic", "Digest"] [])

/-- A page that has been written in part. -/
def halfPage : Exchange :=
  { missingPage with draft := {
      status := 200, headers := [("X-Partial", "1")], content := some ⟨"half", "text/plain"⟩ } }

/-- A stranger is told both schemes, and nothing of the page. -/
theorem stranger_is_told_the_schemes :
    Rejects .challenge [some "Basic", some "Digest"]
      [("www-authenticate", "Basic realm=\"shop\""), ("www-authenticate", "Digest realm=\"shop\"")]
      (doorkeeper.handle stranger halfPage) := by
  have haway : doorkeeper.TurnsAway halfPage stranger .challenge := by
    have hstatus : (halfPage.shown stranger doorkeeper.development).toOption.map (·.status) =
        some 401 := by decide +kernel
    have houtcome : (doorkeeper.handle stranger halfPage).outcome.toOption = some .challenge := by
      decide +kernel
    obtain ⟨q, hq, hq401⟩ := Option.map_eq_some_iff.mp hstatus
    refine ⟨⟨q, eq_ok_of_toOption hq, hq401⟩, fun hbypass => ?_⟩
    rw [hbypass] at houtcome
    cases houtcome
  have hschemes : doorkeeper.schemes halfPage.request = ["Basic", "Digest"] := by decide
  obtain ⟨-, -, -, -, -, -, hheaders⟩ :=
    handshake_erases_the_past doorkeeper halfPage stranger .challenge haway
  have hrejects := hheaders (some "Bearer") (some "shop") rfl
    (fun p hp => Option.some.inj hp ▸ Provider.isBuilt_ofLists ..)
    (by rw [hschemes]; decide) (by decide) (by decide)
  rw [hschemes] at hrejects
  exact hrejects

end Handler

end Triage
