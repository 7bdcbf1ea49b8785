import Triage.Proofs.Challenging

/-!
# The policy in effect

A requirement asks for a scheme in one of three ways: it names a policy that has the scheme,
it lists the scheme itself, or it says nothing at all and the scheme is a default one
(`Provider.AsksFor`). The policy in effect for a route has the schemes that one of its
requirements asks for. Since a set of schemes is known by its members, it does not matter in
which order the requirements are stated or how often (`resolvePolicy_congr`), and stating
more of them takes nothing away.

A route that requires nothing has the default policy, or else the fallback. The settings
make a default policy of any default schemes that are listed, even if all of them are blank;
then no scheme is left, and the fallback is not asked. When that makes a difference is said
in `Settings.useless_defaults_give_way_iff`.
-/

namespace Triage

/-! ## What a requirement asks for -/

namespace Requirement

variable {r : Requirement} {policy : Text}

theorem policyName?_eq_some_iff :
    r.policyName? = some policy ↔ r.policy = some policy ∧ policy ≠ "" := by
  unfold policyName?
  cases r.policy with
  | none => simp
  | some name =>
      by_cases hname : name = ""
      · simpa [hname] using Eq.symm
      · simp only [Text.isEmpty_iff, hname, if_false, Option.some.injEq]
        exact ⟨fun heq => ⟨heq, heq ▸ hname⟩, And.left⟩

theorem policyName?_eq_none_iff :
    r.policyName? = none ↔ r.policy = none ∨ r.policy = some "" := by
  unfold policyName?
  cases r.policy with
  | none => simp
  | some name => by_cases hname : name = "" <;> simp [hname]

end Requirement

namespace Provider

/-- A requirement asks for a scheme: through a policy that it names, by listing it, or
through the default policy, when it does neither of the two. -/
inductive AsksFor (p : Provider) (r : Requirement) (scheme : Text) : Prop where
  | named {policy : Text} {known : SchemeSet} (hpolicy : r.policy = some policy)
      (hne : policy ≠ "") (hknown : p.policy? policy = some known)
      (hscheme : scheme ∈ known.names)
  | listed (hscheme : scheme ∈ r.schemes) (hne : scheme ≠ "")
  | preset {default : SchemeSet} (hpolicy : r.policy = none ∨ r.policy = some "")
      (hschemes : r.schemes = []) (hdefault : p.default = some default)
      (hscheme : scheme ∈ default.names)

/-- A requirement names a policy that nobody knows. -/
def AsksInVain (p : Provider) (r : Requirement) : Prop :=
  ∃ policy, r.policy = some policy ∧ policy ≠ "" ∧ p.policy? policy = none

variable {p : Provider} {r : Requirement} {requirements : List Requirement} {scheme : Text}

theorem exists_mem_parts_iff :
    (∃ part ∈ p.parts r, scheme ∈ part.names) ↔ p.AsksFor r scheme := by
  unfold parts
  constructor
  · rintro ⟨part, hpart, hscheme⟩
    rcases List.mem_append.mp hpart with hpart | hpreset
    · rcases List.mem_append.mp hpart with hnamed | hown
      · obtain ⟨policy, hname, hknown⟩ := Option.bind_eq_some_iff.mp (Option.mem_toList.mp hnamed)
        obtain ⟨hpolicy, hne⟩ := Requirement.policyName?_eq_some_iff.mp hname
        exact .named hpolicy hne hknown hscheme
      · split at hown
        · cases hown
        · obtain rfl := List.mem_singleton.mp hown
          obtain ⟨hlisted, hne⟩ := SchemeSet.mem_ofList.mp hscheme
          exact .listed hlisted hne
    · split at hpreset
      · rename_i hneither
        obtain ⟨hname, hschemes⟩ : r.policyName? = none ∧ r.schemes = [] := by
          simpa using hneither
        exact .preset (Requirement.policyName?_eq_none_iff.mp hname) hschemes
          (Option.mem_toList.mp hpreset) hscheme
      · cases hpreset
  · intro hasks
    cases hasks with
    | named hpolicy hne hknown hscheme =>
        refine ⟨_, ?_, hscheme⟩
        simp [Requirement.policyName?_eq_some_iff.mpr ⟨hpolicy, hne⟩, hknown]
    | listed hlisted hne =>
        refine ⟨.ofList r.schemes, ?_, SchemeSet.mem_ofList.mpr ⟨hlisted, hne⟩⟩
        simp [List.ne_nil_of_mem hlisted]
    | preset hpolicy hschemes hdefault hscheme =>
        refine ⟨_, ?_, hscheme⟩
        simp [Requirement.policyName?_eq_none_iff.mpr hpolicy, hschemes, hdefault]

theorem mem_combined_iff :
    scheme ∈ (p.combined requirements).names ↔ ∃ r ∈ requirements, p.AsksFor r scheme := by
  rw [mem_combined]
  exact exists_congr fun r => and_congr_right fun _ => exists_mem_parts_iff

/-! ## Policies that are not known -/

theorem asksInVain_iff :
    p.AsksInVain r ↔ ∃ policy, r.policyName? = some policy ∧ p.policy? policy = none := by
  unfold AsksInVain
  simp only [Requirement.policyName?_eq_some_iff, and_assoc]

instance (p : Provider) (r : Requirement) : Decidable (p.AsksInVain r) :=
  decidable_of_iff (∃ policy ∈ r.policyName?, p.policy? policy = none) asksInVain_iff.symm

/-- The names that are missing are those that the requirements which ask in vain ask for. -/
theorem missing_eq (p : Provider) (requirements : List Requirement) :
    p.missing requirements =
      (requirements.filter (p.AsksInVain ·)).map fun r => r.policy.getD "" := by
  unfold missing
  rw [← List.filterMap_eq_map, List.filterMap_filter]
  refine List.filterMap_congr fun r _ => ?_
  cases hname : r.policyName? with
  | none => simp [asksInVain_iff, hname]
  | some policy =>
      obtain ⟨hpolicy, -⟩ := Requirement.policyName?_eq_some_iff.mp hname
      cases hknown : p.policy? policy <;> simp [asksInVain_iff, hname, hknown, hpolicy]

end Provider

/-! ## What is in effect -/

section

variable {p : Provider} {requirements others : List Requirement}

theorem resolvePolicy_of_ne_nil (hsome : requirements ≠ []) :
    resolvePolicy (some p) requirements = some (p.combined requirements) := by
  unfold resolvePolicy
  simp [hsome]

/-- Only which requirements there are matters. -/
theorem resolvePolicy_congr (provider : Option Provider)
    (hsame : ∀ r, r ∈ requirements ↔ r ∈ others) :
    resolvePolicy provider requirements = resolvePolicy provider others := by
  cases provider with
  | none => rfl
  | some p =>
      have hempty : requirements = [] ↔ others = [] := by
        simp only [List.eq_nil_iff_forall_not_mem, hsame]
      by_cases hnone : requirements = []
      · rw [hnone, hempty.mp hnone]
      · rw [resolvePolicy_of_ne_nil hnone, resolvePolicy_of_ne_nil (mt hempty.mpr hnone)]
        congr 1
        refine SchemeSet.eq_of_mem_iff fun scheme => ?_
        simp only [Provider.mem_combined_iff, hsame]

end

theorem Handler.policyWarnings_eq {h : Handler} {p : Provider} (hp : h.provider = some p)
    (request : Request) :
    h.policyWarnings request = (request.requirements.filter (p.AsksInVain ·)).map fun r =>
      .logged {
        level := .warning, logger := "faultline.auth", message := "authorization_policy_missing"
        requestId := request.requestId, extra := [("policy", .text (r.policy.getD ""))] } := by
  unfold policyWarnings missingPolicies
  rw [hp]
  dsimp only
  rw [Provider.missing_eq, List.map_map]
  rfl

/-- **The policy in effect is the union of what is required.** With requirements, its
schemes are those that one of them asks for, and the fallback plays no part; without any it
is the default policy, or else the fallback; without a provider there is none. Neither the
order of requirements nor stating one again makes a difference, and further requirements
take no scheme away. A handshake warns once of each requirement that names an unknown
policy, then it is reported and counted, and the rest is what the authenticator leaves. -/
theorem policy_in_effect_is_the_union (p : Provider) (requirements : List Requirement) :
    (requirements ≠ [] → ∃ policy, resolvePolicy (some p) requirements = some policy
      ∧ ∀ scheme, scheme ∈ policy.names ↔ ∃ r ∈ requirements, p.AsksFor r scheme)
    ∧ (requirements ≠ [] → ∀ fallback,
      resolvePolicy (some { p with fallback }) requirements = resolvePolicy (some p) requirements)
    ∧ resolvePolicy (some p) [] = p.default.or p.fallback
    ∧ resolvePolicy none requirements = none
    ∧ (∀ others, (∀ r, r ∈ others ↔ r ∈ requirements) →
      resolvePolicy (some p) others = resolvePolicy (some p) requirements)
    ∧ (requirements ≠ [] → ∀ more, requirements ⊆ more → ∃ narrow wide,
      resolvePolicy (some p) requirements = some narrow ∧ resolvePolicy (some p) more = some wide
        ∧ narrow.names ⊆ wide.names)
    ∧ ∀ (h : Handler) (action : Action) (x : Exchange),
      h.provider = some p → x.request.requirements = requirements →
        (h.handshake action x).events =
          ((requirements.filter (p.AsksInVain ·)).map fun r => .logged {
            level := .warning, logger := "faultline.auth"
            message := "authorization_policy_missing", requestId := x.request.requestId
            extra := [("policy", .text (r.policy.getD ""))] })
          ++ [.logged (Handler.entry x .info "auth_handshake" [
              ("action", .text action.label),
              ("schemes", .list ((h.schemes x.request).map .text)),
              ("path", .text x.request.path)]),
            .counted (.handshake action)]
          ++ (h.reactions action x.request).2 := by
  refine ⟨?_, ?_, rfl, rfl, ?_, ?_, ?_⟩
  · intro hsome
    exact ⟨_, resolvePolicy_of_ne_nil hsome, fun scheme => Provider.mem_combined_iff⟩
  · intro hsome fallback
    rw [resolvePolicy_of_ne_nil hsome, resolvePolicy_of_ne_nil hsome]
    rfl
  · intro others hsame
    exact resolvePolicy_congr (some p) hsame
  · intro hsome more hmore
    have hstill : more ≠ [] := fun hnone => hsome (List.subset_nil.mp (hnone ▸ hmore))
    refine ⟨_, _, resolvePolicy_of_ne_nil hsome, resolvePolicy_of_ne_nil hstill, ?_⟩
    intro scheme hscheme
    obtain ⟨r, hr, hasks⟩ := Provider.mem_combined_iff.mp hscheme
    exact Provider.mem_combined_iff.mpr ⟨r, hmore hr, hasks⟩
  · intro h action x hp hrequirements
    have hwarnings := Handler.policyWarnings_eq hp x.request
    rw [hrequirements] at hwarnings
    rw [← hwarnings]
    exact h.events_handshake action x

/-- A club whose members show a cookie, and everybody else a token. -/
def club : Provider where
  policies := [("members", .ofList ["Cookie"])]
  default := some (.ofList ["Bearer"])
  fallback := some (.ofList ["Digest"])

/-- Rules of three hands: one knows no guests, and one says nothing. -/
def clubRules : List Requirement :=
  [{ policy := some "members" }, { policy := some "guests", schemes := ["", "ApiKey"] },
    { policy := some "" }]

theorem club_takes_cookies_keys_and_tokens :
    ∃ policy, resolvePolicy (some club) clubRules = some policy
      ∧ ("Cookie" : Text) ∈ policy.names ∧ ("ApiKey" : Text) ∈ policy.names
      ∧ ("Bearer" : Text) ∈ policy.names
      ∧ resolvePolicy (some club) (clubRules.reverse ++ clubRules) = some policy
      ∧ (({ provider := some club } : Handler).handshake .challenge
          { request := { path := "/", requirements := clubRules } }).events = [
        .logged {
          level := .warning, logger := "faultline.auth"
          message := "authorization_policy_missing"
          extra := [("policy", .text "guests")] },
        .logged {
          level := .info, logger := "faultline.failures", message := "auth_handshake"
          extra := [
            ("action", .text "challenge"),
            ("schemes", .list [.text "ApiKey", .text "Bearer", .text "Cookie"]),
            ("path", .text "/")] },
        .counted (.handshake .challenge)] := by
  obtain ⟨hunion, -, -, -, hsame, -, hwarns⟩ := policy_in_effect_is_the_union club clubRules
  obtain ⟨policy, hpolicy, hschemes⟩ := hunion (by decide)
  refine ⟨policy, hpolicy, (hschemes _).mpr ?_, (hschemes _).mpr ?_, (hschemes _).mpr ?_,
    (hsame _ fun r => ?_).trans hpolicy, ?_⟩
  · exact ⟨{ policy := some "members" }, by decide, .named rfl (by decide) rfl (by decide)⟩
  · exact ⟨{ policy := some "guests", schemes := ["", "ApiKey"] }, by decide,
      .listed (by decide) (by decide)⟩
  · exact ⟨{ policy := some "" }, by decide, .preset (Or.inr rfl) rfl rfl (by decide)⟩
  · simp
  · have hevents := hwarns { provider := some club } .challenge
      { request := { path := "/", requirements := clubRules } } rfl rfl
    have hvain : clubRules.filter (club.AsksInVain ·) =
        [{ policy := some "guests", schemes := ["", "ApiKey"] }] := by decide
    rw [hvain] at hevents
    exact hevents

/-! ## Where nothing is required -/

namespace Settings

variable {s : Settings} {scheme : Text}

/-- A scheme is in effect for routes that require nothing. -/
def IsOpenTo (s : Settings) (scheme : Text) : Prop :=
  ∃ policy ∈ resolvePolicy (some s.provider) [], scheme ∈ policy.names

theorem isOpenTo_iff :
    s.IsOpenTo scheme ↔
      scheme ≠ ""
        ∧ (scheme ∈ s.defaultSchemes ∨ s.defaultSchemes = [] ∧ scheme ∈ s.fallbackSchemes) := by
  have hresolved : resolvePolicy (some s.provider) [] =
      Provider.policyOf? (if s.defaultSchemes = [] then s.fallbackSchemes else s.defaultSchemes) :=
    policyOf?_or s.defaultSchemes s.fallbackSchemes
  unfold IsOpenTo
  rw [hresolved, mem_policyOf?, and_comm]
  refine and_congr_right fun _ => ?_
  by_cases hnone : s.defaultSchemes = []
  · simp [hnone]
  · simp [hnone]

/-- Default schemes that are of no use give way to the fallback: in effect are those that
are not blank, and when there is none, those of the fallback that are not. -/
def DefaultsGiveWay (s : Settings) : Prop :=
  ∀ scheme, s.IsOpenTo scheme ↔
    scheme ≠ "" ∧ (scheme ∈ s.defaultSchemes
      ∨ ¬NamesScheme s.defaultSchemes ∧ scheme ∈ s.fallbackSchemes)

/-- **When default schemes give way to the fallback.** In effect are the default schemes that
are not blank if any are listed, and those of the fallback otherwise. So those that are of no
use give way just if none is listed, or one is of use after all, or the fallback has none that
is. -/
theorem useless_defaults_give_way_iff (s : Settings) :
    (∀ scheme, s.IsOpenTo scheme ↔
      scheme ≠ ""
        ∧ (scheme ∈ s.defaultSchemes ∨ s.defaultSchemes = [] ∧ scheme ∈ s.fallbackSchemes))
    ∧ (s.DefaultsGiveWay ↔
      s.defaultSchemes = [] ∨ NamesScheme s.defaultSchemes ∨ ¬NamesScheme s.fallbackSchemes) := by
  refine ⟨fun scheme => isOpenTo_iff, ?_, ?_⟩
  · intro hway
    by_contra hnot
    obtain ⟨hlisted, hblank, scheme, hfallback, hne⟩ :
        s.defaultSchemes ≠ [] ∧ ¬NamesScheme s.defaultSchemes ∧ NamesScheme s.fallbackSchemes := by
      simpa [not_or] using hnot
    obtain ⟨-, hdefault | ⟨hnone, -⟩⟩ :=
      isOpenTo_iff.mp ((hway scheme).mpr ⟨hne, Or.inr ⟨hblank, hfallback⟩⟩)
    · exact hblank ⟨scheme, hdefault, hne⟩
    · exact hlisted hnone
  · intro hcase scheme
    rw [isOpenTo_iff]
    refine and_congr_right fun hne => or_congr_right (and_congr_left fun hfallback => ?_)
    constructor
    · rintro hnone ⟨other, hother, -⟩
      rw [hnone] at hother
      cases hother
    · intro hblank
      rcases hcase with hnone | hsome | huseless
      · exact hnone
      · exact absurd hsome hblank
      · exact absurd ⟨scheme, hfallback, hne⟩ huseless

/-- A single blank in front of a fallback: nothing is left. -/
theorem blank_default_stays_in_the_way :
    ¬DefaultsGiveWay { defaultSchemes := [""], fallbackSchemes := ["Bearer"] }
      ∧ ¬NamesScheme [""] ∧ NamesScheme ["Bearer"]
      ∧ resolvePolicy
          (some (provider { defaultSchemes := [""], fallbackSchemes := ["Bearer"] })) [] =
        some .empty := by
  have hblank : ¬NamesScheme [""] := by
    rintro ⟨scheme, hscheme, hne⟩
    exact hne (List.mem_singleton.mp hscheme)
  have hbearer : NamesScheme ["Bearer"] := ⟨"Bearer", by decide, by decide⟩
  refine ⟨fun hway => ?_, hblank, hbearer, rfl⟩
  have hopen := (hway "Bearer").mpr ⟨by decide, Or.inr ⟨hblank, by decide⟩⟩
  obtain ⟨policy, hpolicy, hscheme⟩ := hopen
  obtain rfl : SchemeSet.empty = policy := Option.some.inj hpolicy
  cases hscheme

end Settings

end Triage
