import Triage.Proofs.HeaderNames

/-!
# Merging an error's headers

An HTTP error brings headers along for its response, under names in any letter case and
perhaps one name in several. On a problem they are set one after the other, so each name
that is brought ends up there once, with the value that came last for it
(`Headers.values_putAll`), and headers of other names are not touched
(`Headers.filter_putAll`). On a challenge only further challenges are added, after what is
there already. Both halves are put together in `Outcome.mergeHeaders_spec`.
-/

namespace Triage

open Http Text

namespace Http.Headers

variable {h k : Headers} {brought : List (String × Text)} {name : String}

/-! ## Putting several headers -/

/-- Puts headers one after the other. -/
def putAll (h : Headers) (added : List (String × String)) : Headers := added.foldl put h

theorem putAll_cons (h : Headers) (header : String × String) (added : List (String × String)) :
    h.putAll (header :: added) = (h.put header).putAll added := rfl

/-- Of the headers that are put under a name the last one stands, and alone; without any,
there is what there was. -/
theorem values_putAll (h : Headers) (added : List (String × String)) (name : String) :
    (h.putAll added).values name =
      match (values added name).getLast? with
      | some value => [value]
      | none => h.values name := by
  induction added generalizing h with
  | nil => rfl
  | cons header rest ih =>
      rw [putAll_cons, ih, values_cons]
      by_cases hname : header.1 = name
      · subst hname
        rw [if_pos rfl, List.singleton_append, List.getLast?_cons, values_put_self]
        cases (values rest header.1).getLast? <;> rfl
      · rw [if_neg hname, List.nil_append, values_put_of_ne h (Ne.symm hname)]

/-- Putting a header does not touch those that are told apart from it by their names. -/
theorem filter_put (h : Headers) {header : String × String} (keeps : String → Bool)
    (hheader : keeps header.1 = false) :
    (h.put header).filter (keeps ·.1) = h.filter (keeps ·.1) := by
  induction h with
  | nil => simp [put, hheader]
  | cons other rest ih =>
      rw [put]
      split
      · rename_i hsame
        have hrest : (rest.filter (·.1 != header.1)).filter (keeps ·.1) =
            rest.filter (keeps ·.1) := by
          rw [List.filter_filter]
          refine List.filter_congr fun kept _ => ?_
          by_cases hname : kept.1 = header.1 <;> simp [hname, hheader]
        rw [List.filter_cons_of_neg (by simp [hheader]), hrest,
          List.filter_cons_of_neg (by simp [hsame, hheader])]
      · rw [List.filter_cons, List.filter_cons, ih]

theorem filter_putAll (h : Headers) {added : List (String × String)} (keeps : String → Bool)
    (hadded : ∀ header ∈ added, keeps header.1 = false) :
    (h.putAll added).filter (keeps ·.1) = h.filter (keeps ·.1) := by
  induction added generalizing h with
  | nil => rfl
  | cons header rest ih =>
      rw [putAll_cons, ih _ fun other hmem => hadded other (List.mem_cons_of_mem _ hmem),
        filter_put h keeps (hadded header (List.mem_cons_self ..))]

/-! ## Setting what is brought -/

theorem isLatinHeader_lowered {header : String × Text} (hl : IsLatinHeader header) :
    IsLatinHeader (lowered header.1, header.2) :=
  ⟨isLatinText_lowered hl.1, hl.2⟩

/-- Setting headers succeeds just if all of them can be kept, and puts them. -/
theorem setAll_eq_ok_iff :
    h.setAll brought = .ok k ↔
      (∀ header ∈ brought, IsLatinHeader (lowered header.1, header.2))
        ∧ h.putAll (brought.map keptHeader) = k := by
  induction brought generalizing h with
  | nil => simp [setAll, putAll]
  | cons header rest ih =>
      rw [setAll, set, List.forall_mem_cons, List.map_cons, putAll_cons]
      cases hchecked : checked header.1 header.2 with
      | ok kept =>
          obtain ⟨hlatin, rfl⟩ := checked_eq_ok_iff.mp hchecked
          simp [ih, hlatin]
      | error t =>
          have hnot : ¬IsLatinHeader (lowered header.1, header.2) := by
            intro hlatin
            rw [checked_eq_ok_iff.mpr ⟨hlatin, rfl⟩] at hchecked
            cases hchecked
          simp [hnot]

/-! ## What is brought under a name -/

/-- The values that are brought for a name, in any letter case. -/
def valuesBrought (brought : List (String × Text)) (name : String) : List String :=
  (brought.filter fun header => lowered header.1 == lowered name).map (·.2.string)

theorem values_map_keptHeader (brought : List (String × Text)) (name : String) :
    values (brought.map keptHeader) (lowered name) = valuesBrought brought name := by
  unfold values valuesBrought
  rw [List.filter_map, List.map_map]
  rfl

theorem valuesInAnyCase_append (h k : Headers) (name : String) :
    valuesInAnyCase (h ++ k) name = h.valuesInAnyCase name ++ k.valuesInAnyCase name := by
  unfold valuesInAnyCase
  rw [List.filter_append, List.map_append]

theorem valuesInAnyCase_map (values : List String) (name : String) :
    valuesInAnyCase (values.map (name, ·)) name = values := by
  unfold valuesInAnyCase
  rw [List.filter_eq_self.mpr (by simp), List.map_map]
  exact List.map_id _

/-- After setting what is brought, the values of a name are the last one brought for it, or
what they were before. -/
theorem valuesInAnyCase_of_setAll (hsmall : h.AreSmall) (hset : h.setAll brought = .ok k)
    (name : String) :
    k.valuesInAnyCase name =
      match (valuesBrought brought name).getLast? with
      | some value => [value]
      | none => h.valuesInAnyCase name := by
  have hk : k.AreSmall := areSmall_of_setAll hsmall hset
  obtain ⟨-, rfl⟩ := setAll_eq_ok_iff.mp hset
  rw [valuesInAnyCase_eq hk, values_putAll, values_map_keptHeader, valuesInAnyCase_eq hsmall]

/-- The headers of a name that is not brought, in whatever letter case. -/
def apartFrom (h : Headers) (brought : List (String × Text)) : Headers :=
  h.filter fun header => brought.all fun other => lowered header.1 != lowered other.1

theorem apartFrom_of_setAll (hset : h.setAll brought = .ok k) :
    k.apartFrom brought = h.apartFrom brought := by
  obtain ⟨-, rfl⟩ := setAll_eq_ok_iff.mp hset
  refine h.filter_putAll (fun name => brought.all fun other => lowered name != lowered other.1)
    fun kept hkept => ?_
  obtain ⟨header, hheader, rfl⟩ := List.mem_map.mp hkept
  have hsmall : lowered (lowered header.1) = lowered header.1 :=
    isSmall_lowered header.1
  exact List.all_eq_false.mpr ⟨header, hheader, by simp [keptHeader, hsmall]⟩

end Http.Headers

open Http.Headers

/-! ## Further challenges -/

theorem lowered_challengeHeader : lowered challengeHeader = challengeHeader := by decide

theorem contains_map_ofString (known : List String) {value : Text} (hvalue : IsPairedText value) :
    (known.map ofString).contains value = known.contains value.string := by
  have hsame : value ∈ known.map ofString ↔ value.string ∈ known := by
    rw [List.mem_map]
    refine ⟨fun ⟨s, hs, heq⟩ => ?_, fun h => ⟨_, h, ofString_string hvalue⟩⟩
    rwa [← heq, string_ofString]
  rw [Bool.eq_iff_iff, List.contains_iff_mem, List.contains_iff_mem, hsame]

theorem keptHeader_newChallenges (known : List String) {brought : List (String × Text)}
    (hlatin : ∀ header ∈ brought, IsLatinHeader header) :
    (newChallenges known brought).map keptHeader =
      ((valuesBrought brought challengeHeader).filter (!known.contains ·)).map
        (challengeHeader, ·) := by
  have hnew : newChallenges known brought = brought.filter fun header =>
      !known.contains header.2.string && lowered header.1 == challengeHeader := by
    refine List.filter_congr fun header hheader => ?_
    rw [contains_map_ofString known (hlatin header hheader).2.isPairedText, Bool.and_comm]
  unfold valuesBrought
  rw [hnew, lowered_challengeHeader, List.filter_map, List.map_map, List.filter_filter]
  refine List.map_congr_left fun header hheader => ?_
  obtain ⟨-, hname⟩ := List.mem_filter.mp hheader
  rw [Bool.and_eq_true, beq_iff_eq] at hname
  show (lowered header.1, header.2.string) = (challengeHeader, header.2.string)
  rw [hname.2]

/-! ## Merging -/

namespace Outcome

/-- **What merging keeps.** Take the headers of a response, which are kept under small names,
and Latin-1 headers that an error brings; names are compared in any letter case. On a problem
each name that is brought is there once, with the value that came last for it, and all other
headers are there as before. On a challenge the response's headers stay as they are, and after
them come the challenges that are brought and were not there yet, in the order in which they
are brought, so that every challenge brought is there. When somebody is refused, or the error
is left alone, nothing changes. -/
theorem mergeHeaders_spec (h : Headers) (hsmall : h.AreSmall) (brought : List (String × Text))
    (hlatin : ∀ header ∈ brought, IsLatinHeader header) :
    (∃ merged, problem.mergeHeaders h brought = .ok merged
      ∧ (∀ name ∈ brought.map (·.1), ∃ value,
        (valuesBrought brought name).getLast? = some value
          ∧ merged.valuesInAnyCase name = [value])
      ∧ merged.apartFrom brought = h.apartFrom brought)
    ∧ (∃ added, challenge.mergeHeaders h brought = .ok (h ++ added)
      ∧ added = ((valuesBrought brought challengeHeader).filter
        fun value => !(h.valuesInAnyCase challengeHeader).contains value).map (challengeHeader, ·)
      ∧ ∀ value ∈ valuesBrought brought challengeHeader,
        value ∈ valuesInAnyCase (h ++ added) challengeHeader)
    ∧ forbid.mergeHeaders h brought = .ok h
    ∧ bypass.mergeHeaders h brought = .ok h := by
  refine ⟨?_, ?_, rfl, rfl⟩
  · have hset : h.setAll brought = .ok (h.putAll (brought.map keptHeader)) :=
      setAll_eq_ok_iff.mpr
        ⟨fun header hmem => isLatinHeader_lowered (hlatin header hmem), rfl⟩
    refine ⟨_, hset, ?_, apartFrom_of_setAll hset⟩
    intro name hname
    obtain ⟨header, hheader, rfl⟩ := List.mem_map.mp hname
    have hbrought : valuesBrought brought header.1 ≠ [] :=
      List.ne_nil_of_mem (List.mem_map_of_mem (List.mem_filter.mpr ⟨hheader, by simp⟩))
    have hlast := List.getLast?_eq_some_getLast hbrought
    refine ⟨_, hlast, ?_⟩
    rw [valuesInAnyCase_of_setAll hsmall hset, hlast]
  · have hnew : ∀ header ∈ newChallenges (h.values challengeHeader) brought,
        IsLatinHeader header := by
      intro header hmem
      exact hlatin header (List.mem_filter.mp hmem).1
    have hadd := appendAll_of_isLatinHeader hnew h
    rw [keptHeader_newChallenges _ hlatin] at hadd
    have hmerge : challenge.mergeHeaders h brought =
        h.appendAll (newChallenges (h.values challengeHeader) brought) := rfl
    have hknown : h.valuesInAnyCase challengeHeader = h.values challengeHeader := by
      rw [valuesInAnyCase_eq hsmall, lowered_challengeHeader]
    refine ⟨_, hmerge.trans hadd, by rw [hknown], ?_⟩
    intro value hvalue
    rw [valuesInAnyCase_append, valuesInAnyCase_map, hknown]
    by_cases hold : value ∈ h.values challengeHeader
    · exact List.mem_append_left _ hold
    · exact List.mem_append_right _ (List.mem_filter.mpr ⟨hvalue, by simpa using hold⟩)

/-- A reason is brought in two spellings, where there are two already; and two challenges, of
which one is there. -/
theorem spellings_and_challenges_are_merged :
    (∃ merged, problem.mergeHeaders [("x-why", "old"), ("allow", "GET"), ("x-why", "older")]
        [("X-Why", "new"), ("x-why", "newest")] = .ok merged
      ∧ merged.valuesInAnyCase "X-Why" = ["newest"] ∧ ("allow", "GET") ∈ merged)
    ∧ challenge.mergeHeaders [("www-authenticate", "Bearer")]
        [("WWW-Authenticate", "Basic"), ("X-Why", "new"), ("www-Authenticate", "Bearer")] =
      .ok [("www-authenticate", "Bearer"), ("www-authenticate", "Basic")] := by
  constructor
  · obtain ⟨⟨merged, hmerged, hnames, hothers⟩, -⟩ := mergeHeaders_spec
      [("x-why", "old"), ("allow", "GET"), ("x-why", "older")] (by decide)
      [("X-Why", "new"), ("x-why", "newest")] (by decide)
    obtain ⟨value, hlast, hvalues⟩ := hnames "X-Why" (by decide)
    have hnewest : (valuesBrought [("X-Why", "new"), ("x-why", "newest")] "X-Why").getLast? =
        some "newest" := by decide
    obtain rfl := Option.some.inj (hlast.symm.trans hnewest)
    have hallow : ("allow", "GET") ∈ merged.apartFrom [("X-Why", "new"), ("x-why", "newest")] := by
      rw [hothers]
      decide
    exact ⟨merged, hmerged, hvalues, (List.mem_filter.mp hallow).1⟩
  · obtain ⟨-, ⟨added, hmerged, hadded, -⟩, -⟩ := mergeHeaders_spec
      [("www-authenticate", "Bearer")] (by decide)
      [("WWW-Authenticate", "Basic"), ("X-Why", "new"), ("www-Authenticate", "Bearer")]
      (by decide)
    have hbasic : added = [("www-authenticate", "Basic")] := hadded.trans (by decide)
    rw [hmerged, hbasic]
    rfl

end Outcome

end Triage
