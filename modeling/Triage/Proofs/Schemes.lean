import Mathlib.Data.List.Sort
import Triage.Access.Policy

/-!
# The schemes in effect

A set of schemes is looked at through its members: what inserting, joining and
building do is said of membership alone, and sets with the same members are the
same (`SchemeSet.eq_of_mem_iff`). Policies that are built from lists of schemes
hold no empty name, and neither does what comes of resolving them
(`ne_empty_of_mem_resolvePolicy`).
-/

namespace Triage

namespace SchemeSet

variable {s t : SchemeSet} {name : Text} {names : List Text}

theorem mem_foldl_insert :
    name ∈ (names.foldl insert s).names ↔ name ∈ s.names ∨ name ∈ names := by
  induction names generalizing s with
  | nil => simp
  | cons other rest ih =>
      have hinsert : name ∈ (s.insert other).names ↔ name = other ∨ name ∈ s.names :=
        mem_insertName
      rw [List.foldl_cons, ih, hinsert, List.mem_cons]
      constructor
      · rintro ((h | h) | h) <;> simp [h]
      · rintro (h | h | h) <;> simp [h]

theorem mem_union : name ∈ (s.union t).names ↔ name ∈ s.names ∨ name ∈ t.names :=
  mem_foldl_insert

theorem mem_ofList : name ∈ (ofList names).names ↔ name ∈ names ∧ name ≠ "" := by
  unfold ofList
  rw [mem_foldl_insert, List.mem_filter]
  simp [empty]

theorem mem_foldl_union {parts : List SchemeSet} :
    name ∈ (parts.foldl union s).names ↔ name ∈ s.names ∨ ∃ part ∈ parts, name ∈ part.names := by
  induction parts generalizing s with
  | nil => simp
  | cons part rest ih =>
      rw [List.foldl_cons, ih, mem_union, or_assoc]
      simp

/-- A set is known by its members. -/
theorem eq_of_mem_iff (h : ∀ name, name ∈ s.names ↔ name ∈ t.names) : s = t := by
  obtain ⟨names, hs⟩ := s
  obtain ⟨names', ht⟩ := t
  obtain rfl : names = names' := hs.eq_of_mem_iff ht h
  rfl

/-- A set that was built from a list of schemes. -/
def IsBuilt (s : SchemeSet) : Prop := ∃ names, s = ofList names

theorem IsBuilt.ne_empty (hs : s.IsBuilt) (hname : name ∈ s.names) : name ≠ "" := by
  obtain ⟨names, rfl⟩ := hs
  exact (mem_ofList.mp hname).2

end SchemeSet

namespace Provider

/-- Every policy of the provider was built from a list of schemes. -/
structure IsBuilt (p : Provider) : Prop where
  policies : ∀ entry ∈ p.policies, entry.2.IsBuilt
  default : ∀ policy ∈ p.default, policy.IsBuilt
  fallback : ∀ policy ∈ p.fallback, policy.IsBuilt

variable {p : Provider} {name : Text}

theorem isBuilt_of_policyOf? {schemes : List Text} {policy : SchemeSet}
    (h : policyOf? schemes = some policy) : policy.IsBuilt := by
  unfold policyOf? at h
  split at h
  · cases h
  · exact ⟨schemes, (Option.some.inj h).symm⟩

theorem isBuilt_ofLists (policies : List (Text × List Text)) (default fallback : List Text) :
    (ofLists policies default fallback).IsBuilt := by
  refine ⟨fun entry hentry => ?_, fun policy h => isBuilt_of_policyOf? h,
    fun policy h => isBuilt_of_policyOf? h⟩
  obtain ⟨⟨name, schemes⟩, -, rfl⟩ := List.mem_map.mp hentry
  exact ⟨schemes, rfl⟩

theorem IsBuilt.of_mem_parts (hp : p.IsBuilt) {r : Requirement} {part : SchemeSet}
    (hpart : part ∈ p.parts r) : part.IsBuilt := by
  unfold parts at hpart
  rcases List.mem_append.mp hpart with hpart | hpreset
  · rcases List.mem_append.mp hpart with hnamed | hown
    · obtain ⟨policy, -, hknown⟩ := Option.bind_eq_some_iff.mp (Option.mem_toList.mp hnamed)
      obtain ⟨entry, hfind, rfl⟩ := Option.map_eq_some_iff.mp hknown
      exact hp.policies entry (List.mem_of_find?_eq_some hfind)
    · split at hown
      · cases hown
      · exact ⟨r.schemes, List.mem_singleton.mp hown⟩
  · split at hpreset
    · exact hp.default part (Option.mem_toList.mp hpreset)
    · cases hpreset

/-- The schemes of a route are those that its requirements ask for. -/
theorem mem_combined {requirements : List Requirement} :
    name ∈ (p.combined requirements).names ↔
      ∃ r ∈ requirements, ∃ part ∈ p.parts r, name ∈ part.names := by
  unfold combined
  rw [SchemeSet.mem_foldl_union]
  simp only [List.mem_flatMap, SchemeSet.empty, List.not_mem_nil, false_or]
  constructor
  · rintro ⟨part, ⟨r, hr, hpart⟩, hname⟩
    exact ⟨r, hr, part, hpart, hname⟩
  · rintro ⟨r, hr, part, hpart, hname⟩
    exact ⟨part, ⟨r, hr, hpart⟩, hname⟩

end Provider

theorem ne_empty_of_mem_resolvePolicy {provider : Option Provider}
    {requirements : List Requirement} {policy : SchemeSet} {name : Text}
    (hprovider : ∀ p ∈ provider, p.IsBuilt)
    (hpolicy : resolvePolicy provider requirements = some policy)
    (hname : name ∈ policy.names) : name ≠ "" := by
  cases provider with
  | none => cases hpolicy
  | some p =>
      have hp := hprovider p rfl
      unfold resolvePolicy at hpolicy
      dsimp only at hpolicy
      split at hpolicy
      · rcases Option.or_eq_some_iff.mp hpolicy with hdefault | ⟨-, hfallback⟩
        · exact (hp.default policy hdefault).ne_empty hname
        · exact (hp.fallback policy hfallback).ne_empty hname
      · obtain rfl := Option.some.inj hpolicy
        obtain ⟨r, -, part, hpart, hmem⟩ := Provider.mem_combined.mp hname
        exact (hp.of_mem_parts hpart).ne_empty hmem

end Triage
