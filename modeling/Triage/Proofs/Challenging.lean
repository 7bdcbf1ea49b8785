import Triage.Proofs.Handshake
import Triage.Web.Application

/-!
# Challenges that name a scheme

A challenge is of use to a caller if it says how to log in. The settings write
schemes down in several places, and what is written down may be blank; the schemes
in effect for a route are the names written down for it that are not blank
(`Settings.mem_schemes_iff`). When none is left, the challenge falls back on the
first default scheme, and it is only this one that is looked at: so a challenge names
a scheme unless every name for the route and the first default scheme are blank
(`challenge_names_a_scheme_iff`). That another default scheme is not blank does not
help (`challenge_without_any_scheme`).
-/

namespace Triage

open Http Text

/-- Some of the names is not empty. -/
def NamesScheme (names : List Text) : Prop := ∃ name ∈ names, name ≠ ""

/-! ## What settings write down for a route -/

namespace Settings

variable {s : Settings} {h : Handler} {name : Text}

/-- The names in the list that a policy is made from; none for an unknown policy. -/
def listed (s : Settings) (policy : Text) : List Text :=
  ((s.policies.find? fun entry => entry.1 == policy).map (·.2)).getD []

/-- The names that are written down for a requirement: those of the policy that it
names and its own, or the default ones when it states neither. -/
def asked (s : Settings) (r : Requirement) : List Text :=
  if r.policyName? = none ∧ r.schemes = [] then s.defaultSchemes
  else (r.policyName?.map s.listed).getD [] ++ r.schemes

/-- The names that are written down for a route with certain requirements. -/
def writtenFor (s : Settings) (requirements : List Requirement) : List Text :=
  if requirements = [] then
    if s.defaultSchemes = [] then s.fallbackSchemes else s.defaultSchemes
  else requirements.flatMap s.asked

theorem policy?_provider (s : Settings) (policy : Text) :
    s.provider.policy? policy =
      ((s.policies.find? fun entry => entry.1 == policy).map (·.2)).map .ofList := by
  unfold provider Provider.ofLists Provider.policy?
  dsimp only
  rw [List.find?_map, Option.map_map, Option.map_map]
  rfl

theorem mem_policy? (s : Settings) (policy name : Text) :
    (∃ part ∈ s.provider.policy? policy, name ∈ part.names) ↔
      name ∈ s.listed policy ∧ name ≠ "" := by
  rw [policy?_provider]
  unfold listed
  cases s.policies.find? fun entry => entry.1 == policy with
  | none => simp
  | some entry => simp [SchemeSet.mem_ofList]

theorem mem_policyOf? (names : List Text) (name : Text) :
    (∃ part ∈ Provider.policyOf? names, name ∈ part.names) ↔ name ∈ names ∧ name ≠ "" := by
  unfold Provider.policyOf?
  cases names with
  | nil => simp
  | cons other rest => simp [SchemeSet.mem_ofList]

/-- What a requirement asks for are the names written down for it that are not blank. -/
theorem mem_parts {r : Requirement} :
    (∃ part ∈ s.provider.parts r, name ∈ part.names) ↔ name ∈ s.asked r ∧ name ≠ "" := by
  have hdefault : s.provider.default = Provider.policyOf? s.defaultSchemes := rfl
  unfold Provider.parts asked
  cases hpolicy : r.policyName? with
  | none =>
      cases hschemes : r.schemes with
      | nil => simpa [hdefault] using mem_policyOf? s.defaultSchemes name
      | cons other rest => simp [SchemeSet.mem_ofList]
  | some policy =>
      have hnamed := s.mem_policy? policy name
      cases hschemes : r.schemes with
      | nil => simpa using hnamed
      | cons other rest =>
          simp only [Option.mem_def] at hnamed
          simp [SchemeSet.mem_ofList, or_and_right, exists_or, hnamed]

theorem policyOf?_or (names others : List Text) :
    (Provider.policyOf? names).or (Provider.policyOf? others) =
      Provider.policyOf? (if names = [] then others else names) := by
  cases names with
  | nil => rfl
  | cons name rest => rfl

/-- **The schemes in effect** are the names written down for the route, less the blank
ones. -/
theorem mem_schemes_iff (hprovider : h.provider = some s.provider) {request : Request} :
    name ∈ h.schemes request ↔ name ∈ s.writtenFor request.requirements ∧ name ≠ "" := by
  rw [Handler.mem_schemes, hprovider]
  unfold resolvePolicy writtenFor
  cases request.requirements with
  | nil =>
      show (∃ policy ∈ (Provider.policyOf? s.defaultSchemes).or
        (Provider.policyOf? s.fallbackSchemes), name ∈ policy.names) ↔ _
      rw [policyOf?_or, mem_policyOf?]
      rfl
  | cons r rest =>
      show (∃ policy ∈ some (s.provider.combined (r :: rest)), name ∈ policy.names) ↔
        name ∈ (r :: rest).flatMap s.asked ∧ name ≠ ""
      simp only [Option.mem_some_iff, exists_eq_left', Provider.mem_combined, mem_parts,
        List.mem_flatMap]
      constructor
      · rintro ⟨required, hmem, hasked, hne⟩
        exact ⟨⟨required, hmem, hasked⟩, hne⟩
      · rintro ⟨⟨required, hmem, hasked⟩, hne⟩
        exact ⟨required, hmem, hasked, hne⟩

theorem schemes_ne_nil_iff (hprovider : h.provider = some s.provider) {request : Request} :
    h.schemes request ≠ [] ↔ NamesScheme (s.writtenFor request.requirements) := by
  rw [Ne, List.eq_nil_iff_forall_not_mem, not_forall_not]
  exact exists_congr fun name => mem_schemes_iff hprovider

/-- Whether a challenge on a route has a scheme to name: one of those written down for
the route, or else the first default scheme. -/
def HasChallenge (s : Settings) (requirements : List Requirement) : Prop :=
  NamesScheme (s.writtenFor requirements) ∨ NamesScheme (s.defaultSchemes.take 1)

end Settings

/-! ## The headers of a challenge -/

namespace Authenticator.headers

variable {preferred realm : Option Text}

theorem headers_trigger (action : Action) (request : Request) (schemes : List (Option Text))
    (d : Draft) :
    (Handler.trigger (headers preferred realm) action request schemes d).1.headers =
      d.headers ++
        schemes.flatMap fun scheme => (header? preferred realm action scheme).toList := by
  induction schemes generalizing d with
  | nil => simp [Handler.trigger]
  | cons scheme rest ih =>
      show (Handler.trigger (headers preferred realm) action request rest
        ((headers preferred realm).react action scheme request d).1).1.headers = _
      rw [ih, react_draft, List.flatMap_cons, List.append_assoc]

theorem named?_ne_nil_iff {names : List Text} :
    named? preferred names ≠ [] ↔ names ≠ [] ∨ NamesScheme preferred.toList := by
  unfold named? NamesScheme
  cases names with
  | cons name rest => simp
  | nil =>
      cases preferred with
      | none => simp [named]
      | some name => by_cases hname : name = "" <;> simp [named, hname]

end Authenticator.headers

/-- Only the status of an action leads to a handshake. -/
theorem Outcome.eq_status_of_ofAction {action : Action} {status : Int}
    (h : Outcome.ofAction action = .ofStatus status) : status = action.status := by
  unfold Outcome.ofStatus at h
  cases haction : Handler.actionFor? status with
  | some other =>
      rw [haction] at h
      obtain rfl := Outcome.ofAction_inj h
      exact Handler.actionFor?_eq_some haction
  | none =>
      rw [haction] at h
      cases action <;> cases h

namespace Handler

variable {h : Handler} {x : Exchange} {i : Incident} {action : Action}

theorem turnsAway_of_outcome (houtcome : (h.handle i x).outcome = .ok (.ofAction action)) :
    h.TurnsAway x i action := by
  have hstays : (h.handle i x).outcome ≠ .ok .bypass := by
    rw [houtcome]
    cases action <;> exact fun heq => nomatch heq
  cases hreason : x.reasonToDecline? i with
  | some reason => exact absurd (congrArg Handled.outcome (handle_of_declined hreason)) hstays
  | none =>
      obtain ⟨format, -, heq⟩ := handle_of_accepted (h := h) hreason
      rcases h.resolve_shown_cases format i x.polled with
        ⟨t, -, hresolve⟩ | ⟨q, memo, hshown, -, hresolve⟩
      · rw [heq, hresolve] at houtcome
        cases houtcome
      · rw [heq, hresolve] at houtcome
        have hstatus := (dispose_of_outcome houtcome).1
        exact ⟨⟨q, hshown, Outcome.eq_status_of_ofAction hstatus⟩, hstays⟩

end Handler

namespace Web.Problems

variable {s : Settings} {development : Option Bool} {x : Exchange} {i : Incident}

/-- How errors are handled when the makers of an application choose neither an
authenticator nor a provider. -/
abbrev preset (s : Settings) (development : Option Bool) : Handler :=
  (ofSettings s { development }).handler

theorem authenticator_preset : (preset s development).authenticator =
    some (.headers s.defaultSchemes.head? none) := rfl

theorem isBuilt_provider : ∀ p ∈ (preset s development).provider, p.IsBuilt := by
  rintro p ⟨⟩
  exact Provider.isBuilt_ofLists ..

/-- What a challenge names on a route. -/
def named? (s : Settings) (development : Option Bool) (request : Request) : List Text :=
  Authenticator.headers.named? s.defaultSchemes.head? ((preset s development).schemes request)

theorem named?_ne_nil_iff (s : Settings) (development : Option Bool) (request : Request) :
    named? s development request ≠ [] ↔ s.HasChallenge request.requirements := by
  unfold named? Settings.HasChallenge
  rw [Authenticator.headers.named?_ne_nil_iff, Settings.schemes_ne_nil_iff rfl,
    List.take_one]

theorem headers_of_challenge
    (hchallenge : ((preset s development).handle i x).outcome = .ok .challenge) :
    ((preset s development).handle i x).exchange.draft.headers =
      (named? s development x.request).map fun name => ("WWW-Authenticate", name) := by
  have haway : (preset s development).TurnsAway x i .challenge :=
    Handler.turnsAway_of_outcome hchallenge
  rw [haway.draft_eq, Handler.TurnsAway.reactions_of_some authenticator_preset,
    Authenticator.headers.headers_trigger,
    Authenticator.headers.flatMap_header?_schemesToTrigger
      fun name hname => Handler.ne_empty_of_mem_schemes isBuilt_provider hname]
  rfl

theorem response_of_challenge
    (hchallenge : ((preset s development).handle i x).outcome = .ok .challenge)
    (hlatin : ∀ name ∈ s.writtenFor x.request.requirements ++ s.defaultSchemes.take 1,
      IsLatinText name) :
    ((preset s development).handle i x).exchange.draft.render =
      .ok ⟨401, ("content-length", "0") :: (named? s development x.request).map fun name =>
        ("www-authenticate", name.string), ""⟩ := by
  have haway : (preset s development).TurnsAway x i .challenge :=
    Handler.turnsAway_of_outcome hchallenge
  refine (haway.rejects_of_headers authenticator_preset isBuilt_provider
    (fun name hname => hlatin name ?_) (fun name hname => hlatin name ?_)
    (fun realm hrealm => nomatch hrealm)).response
  · have hwritten := ((Settings.mem_schemes_iff rfl).mp hname).1
    exact List.mem_append_left _ hwritten
  · have hfirst : name ∈ s.defaultSchemes.head?.toList := Option.mem_toList.mpr hname
    rw [← List.take_one] at hfirst
    exact List.mem_append_right _ hfirst

/-- **What it takes for a challenge to name a scheme.** With nothing but the settings to
go by, a challenge leaves a header with a scheme in the draft exactly if one of the names
written down for the route, or the first default scheme, is not blank; and if these names
are Latin-1, such a draft becomes a response with the header, and without it otherwise. -/
theorem challenge_names_a_scheme_iff (s : Settings) (development : Option Bool) (x : Exchange)
    (i : Incident) (hchallenge : ((preset s development).handle i x).outcome = .ok .challenge) :
    ((∃ name, ("WWW-Authenticate", name) ∈
        ((preset s development).handle i x).exchange.draft.headers) ↔
      s.HasChallenge x.request.requirements)
    ∧ ((∀ name ∈ s.writtenFor x.request.requirements ++ s.defaultSchemes.take 1,
        IsLatinText name) →
      ∃ response, ((preset s development).handle i x).exchange.draft.render = .ok response
        ∧ response.status = 401
        ∧ (response.headers.values "www-authenticate" ≠ [] ↔
          s.HasChallenge x.request.requirements)) := by
  rw [← named?_ne_nil_iff s development]
  constructor
  · rw [headers_of_challenge hchallenge]
    cases named? s development x.request <;> simp
  · intro hlatin
    refine ⟨_, response_of_challenge hchallenge hlatin, rfl, ?_⟩
    cases named? s development x.request <;> simp [Headers.values]

/-- A page for those who fulfil a policy that nobody has set up. -/
def adminPage : Exchange :=
  { missingPage with request := { missingPage.request with
      requirements := [{ policy := some "admins" }] } }

theorem stranger_is_told_the_first_scheme :
    ∃ response, ((preset { defaultSchemes := ["Bearer", ""] } none).handle stranger
        adminPage).exchange.draft.render = .ok response
      ∧ response.headers.values "www-authenticate" ≠ [] := by
  have houtcome : ((preset { defaultSchemes := ["Bearer", ""] } none).handle stranger
      adminPage).outcome.toOption = some .challenge := by decide +kernel
  obtain ⟨-, hresponse⟩ := challenge_names_a_scheme_iff { defaultSchemes := ["Bearer", ""] } none
    adminPage stranger (eq_ok_of_toOption houtcome)
  obtain ⟨response, hrender, -, hnames⟩ := hresponse (by decide)
  exact ⟨response, hrender, hnames.mpr (Or.inr ⟨"Bearer", by decide, by decide⟩)⟩

/-- With a blank in front, the other default schemes are of no use: nothing is written down
for the page of the admins, and the caller is not told how to log in. -/
theorem challenge_without_any_scheme :
    NamesScheme ["", "Bearer"] ∧ (∀ name ∈ ["", "Bearer"], IsLatinText name)
      ∧ ((preset { defaultSchemes := ["", "Bearer"] } none).handle stranger adminPage).outcome =
        .ok .challenge
      ∧ ((preset { defaultSchemes := ["", "Bearer"] } none).handle stranger
        adminPage).exchange.draft.render = .ok ⟨401, [("content-length", "0")], ""⟩ := by
  have hrun : ((preset { defaultSchemes := ["", "Bearer"] } none).handle stranger
      adminPage).outcome.toOption = some .challenge
      ∧ ((preset { defaultSchemes := ["", "Bearer"] } none).handle stranger
        adminPage).exchange.draft.render.toOption =
          some ⟨401, [("content-length", "0")], ""⟩ := by decide +kernel
  exact ⟨⟨"Bearer", by decide, by decide⟩, by decide, eq_ok_of_toOption hrun.1,
    eq_ok_of_toOption hrun.2⟩

end Web.Problems

end Triage
