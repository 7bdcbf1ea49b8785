import Triage.Proofs.Latin
import Triage.Handler.ErrorHeaders

/-!
# Names of headers

The headers of a response are kept under names in small letters, and a name is looked
up by its small letters. Lower-casing a name that has been lower-cased changes nothing
(`Text.isSmall_lowered`), so every way of adding headers keeps all names small, and two
headers have the same name in any letter case just if their names are equal. Setting a
header leaves one header of its name, whatever there was before, and the others as they
were.
-/

namespace Triage

/-! ## Small letters -/

namespace Text

/-- Lower-casing does not change the text. -/
def IsSmall (s : String) : Prop := lowered s = s

instance (s : String) : Decidable (IsSmall s) := inferInstanceAs (Decidable (_ = _))

theorem isSmall_lowered (s : String) : IsSmall (lowered s) := by
  unfold IsSmall lowered
  rw [String.toList_ofList, lower_lower]

end Text

open Text

/-! ## Headers under their names -/

namespace Http

theorem isLatinText_of_headerText {t : Text} {s : String} (h : headerText t = .ok s) :
    s = t.string ∧ IsLatinText t := by
  unfold headerText at h
  cases hunfit : beyondLatin? t with
  | none =>
      rw [hunfit] at h
      exact ⟨(Except.ok.inj h).symm, beyondLatin?_eq_none_iff.mp hunfit⟩
  | some run =>
      rw [hunfit] at h
      cases h

namespace Headers

/-- Every header is kept under a name in small letters. -/
def AreSmall (h : Headers) : Prop := ∀ header ∈ h, IsSmall header.1

instance : DecidablePred AreSmall := fun h =>
  List.decidableBAll (fun header : String × String => IsSmall header.1) h

/-- The values of all headers of a name, in any letter case. -/
def valuesInAnyCase (h : Headers) (name : String) : List String :=
  (h.filter fun header => lowered header.1 == lowered name).map (·.2)

theorem areSmall_nil : AreSmall [] := fun _ hmem => nomatch hmem

theorem areSmall_append {h k : Headers} (hh : h.AreSmall) (hk : k.AreSmall) :
    AreSmall (h ++ k) := by
  intro header hmem
  exact (List.mem_append.mp hmem).elim (hh header) (hk header)

/-- Where names are small, it does not matter in which letter case they are asked for. -/
theorem valuesInAnyCase_eq {h : Headers} (hsmall : h.AreSmall) (name : String) :
    h.valuesInAnyCase name = h.values (lowered name) := by
  unfold valuesInAnyCase values
  refine congrArg _ (List.filter_congr fun header hmem => ?_)
  rw [hsmall header hmem]

theorem values_cons (header : String × String) (h : Headers) (name : String) :
    values (header :: h) name = (if header.1 = name then [header.2] else []) ++ h.values name := by
  unfold values
  by_cases hname : header.1 = name <;> simp [hname]

theorem values_filter_ne (h : Headers) {name other : String} (hne : name ≠ other) :
    values (h.filter (·.1 != other)) name = h.values name := by
  unfold values
  rw [List.filter_filter]
  refine congrArg _ (List.filter_congr fun header _ => ?_)
  by_cases hname : header.1 = name <;> simp [hname, hne]

theorem values_filter_self (h : Headers) (name : String) :
    values (h.filter (·.1 != name)) name = [] := by
  unfold values
  rw [List.filter_filter]
  simp

/-- A header that is put is the only one of its name. -/
theorem values_put_self (h : Headers) (header : String × String) :
    (h.put header).values header.1 = [header.2] := by
  induction h with
  | nil => rw [put, values_cons, if_pos rfl]; rfl
  | cons other rest ih =>
      rw [put]
      split
      · rw [values_cons, if_pos rfl, values_filter_self]; rfl
      · rename_i hne
        rw [values_cons, if_neg hne, ih]; rfl

/-- The headers of other names stay as they are. -/
theorem values_put_of_ne (h : Headers) {header : String × String} {name : String}
    (hne : name ≠ header.1) : (h.put header).values name = h.values name := by
  induction h with
  | nil => rw [put, values_cons, if_neg hne.symm]; rfl
  | cons other rest ih =>
      rw [put]
      split
      · rename_i hsame
        rw [values_cons, values_cons, if_neg hne.symm, if_neg (by rw [hsame]; exact hne.symm),
          values_filter_ne rest hne]
      · rw [values_cons, values_cons, ih]

theorem areSmall_put {h : Headers} {header : String × String} (hh : h.AreSmall)
    (hheader : IsSmall header.1) : (h.put header).AreSmall := by
  induction h with
  | nil =>
      intro other hmem
      rw [List.mem_singleton.mp hmem]
      exact hheader
  | cons first rest ih =>
      have hrest : AreSmall rest := fun other hmem => hh other (List.mem_cons_of_mem _ hmem)
      rw [put]
      split
      · intro other hmem
        rcases List.mem_cons.mp hmem with rfl | hmem
        · exact hheader
        · exact hrest other (List.mem_filter.mp hmem).1
      · intro other hmem
        rcases List.mem_cons.mp hmem with rfl | hmem
        · exact hh _ (List.mem_cons_self ..)
        · exact ih hrest other hmem

/-! ### Setting and adding -/

/-- A header is kept just if its small name and its value can be had by a header. -/
theorem checked_eq_ok_iff {name : String} {value : Text} {kept : String × String} :
    checked name value = .ok kept ↔
      IsLatinHeader (lowered name, value) ∧ keptHeader (name, value) = kept := by
  constructor
  · intro hchecked
    unfold checked at hchecked
    cases hname : headerText (lowered name) with
    | error t => rw [hname] at hchecked; cases hchecked
    | ok small =>
        cases hvalue : headerText value with
        | error t => simp [hname, hvalue] at hchecked
        | ok text =>
            obtain ⟨rfl, hsmall⟩ := isLatinText_of_headerText hname
            obtain ⟨rfl, htext⟩ := isLatinText_of_headerText hvalue
            simp only [hname, hvalue, string_ofString] at hchecked
            exact ⟨⟨hsmall, htext⟩, Except.ok.inj hchecked⟩
  · rintro ⟨⟨hname, hvalue⟩, rfl⟩
    have hsmall := headerText_of_isLatinText hname
    have htext := headerText_of_isLatinText hvalue
    unfold checked
    simp only [hsmall, htext, string_ofString]
    rfl

theorem checked_eq_ok {name : String} {value : Text} {header : String × String}
    (h : checked name value = .ok header) :
    header = keptHeader (name, value) ∧ IsSmall (lowered name) := by
  obtain ⟨-, rfl⟩ := checked_eq_ok_iff.mp h
  exact ⟨rfl, isSmall_lowered name⟩

theorem set_eq_ok {h k : Headers} {name : String} {value : Text}
    (hset : h.set name value = .ok k) :
    k = h.put (keptHeader (name, value)) ∧ IsSmall (lowered name) := by
  unfold set at hset
  cases hchecked : checked name value with
  | error t => rw [hchecked] at hset; cases hset
  | ok header =>
      obtain ⟨rfl, hsmall⟩ := checked_eq_ok hchecked
      rw [hchecked] at hset
      exact ⟨(Except.ok.inj hset).symm, hsmall⟩

theorem append_eq_ok {h k : Headers} {name : String} {value : Text}
    (happend : h.append name value = .ok k) :
    k = h ++ [keptHeader (name, value)] ∧ IsSmall (lowered name) := by
  unfold append at happend
  cases hchecked : checked name value with
  | error t => rw [hchecked] at happend; cases happend
  | ok header =>
      obtain ⟨rfl, hsmall⟩ := checked_eq_ok hchecked
      rw [hchecked] at happend
      exact ⟨(Except.ok.inj happend).symm, hsmall⟩

theorem areSmall_of_set {h k : Headers} {name : String} {value : Text} (hh : h.AreSmall)
    (hset : h.set name value = .ok k) : k.AreSmall := by
  obtain ⟨rfl, hsmall⟩ := set_eq_ok hset
  exact areSmall_put hh hsmall

theorem areSmall_of_append {h k : Headers} {name : String} {value : Text} (hh : h.AreSmall)
    (happend : h.append name value = .ok k) : k.AreSmall := by
  obtain ⟨rfl, hsmall⟩ := append_eq_ok happend
  refine areSmall_append hh fun header hmem => ?_
  rw [List.mem_singleton.mp hmem]
  exact hsmall

theorem areSmall_of_setAll {added : List (String × Text)} :
    ∀ {h k : Headers}, h.AreSmall → h.setAll added = .ok k → k.AreSmall := by
  induction added with
  | nil =>
      intro h k hh hset
      obtain rfl := Except.ok.inj hset
      exact hh
  | cons header rest ih =>
      intro h k hh hset
      rw [setAll] at hset
      cases hfirst : h.set header.1 header.2 with
      | error t => rw [hfirst] at hset; cases hset
      | ok next =>
          rw [hfirst] at hset
          exact ih (areSmall_of_set hh hfirst) hset

theorem areSmall_of_appendAll {added : List (String × Text)} :
    ∀ {h k : Headers}, h.AreSmall → h.appendAll added = .ok k → k.AreSmall := by
  induction added with
  | nil =>
      intro h k hh happend
      obtain rfl := Except.ok.inj happend
      exact hh
  | cons header rest ih =>
      intro h k hh happend
      rw [appendAll] at happend
      cases hfirst : h.append header.1 header.2 with
      | error t => rw [hfirst] at happend; cases happend
      | ok next =>
          rw [hfirst] at happend
          exact ih (areSmall_of_append hh hfirst) happend

end Headers

/-! ## Responses -/

namespace Response

/-- The headers of a response are kept under names in small letters. -/
def IsSmall (r : Response) : Prop := r.headers.AreSmall

variable {r : Response} {status : Int} {body : String} {mediaType : Option String}

theorem areSmall_of_framing {size : Nat} {h : Headers}
    (hframing : framing status size mediaType = .ok h) : h.AreSmall := by
  have hlength : Headers.AreSmall
      (if isBodiless status then [] else [("content-length", Number.decimalText size)]) := by
    split
    · exact Headers.areSmall_nil
    · intro header hmem
      rw [List.mem_singleton.mp hmem]
      exact (by decide : Text.IsSmall "content-length")
  unfold framing at hframing
  cases mediaType with
  | none =>
      obtain rfl := Except.ok.inj hframing
      exact hlength
  | some m =>
      simp only at hframing
      split at hframing
      · cases hframing
      · obtain rfl := Except.ok.inj hframing
        refine Headers.areSmall_append hlength fun header hmem => ?_
        rw [List.mem_singleton.mp hmem]
        exact (by decide : Text.IsSmall "content-type")

theorem isSmall_of_make (h : make status body mediaType = .ok r) : r.IsSmall := by
  unfold make at h
  split at h
  · cases h
  · split at h
    · cases h
    · rename_i hframing
      obtain rfl := Except.ok.inj h
      exact areSmall_of_framing hframing

theorem isSmall_of_makeWith {given : List (String × Text)}
    (h : makeWith status given body mediaType = .ok r) : r.IsSmall := by
  unfold makeWith at h
  split at h
  · cases h
  · rename_i hgiven
    split at h
    · cases h
    · rename_i hframing
      obtain rfl := Except.ok.inj h
      refine Headers.areSmall_append
        (Headers.areSmall_of_appendAll Headers.areSmall_nil hgiven) fun header hmem => ?_
      exact areSmall_of_framing hframing header (List.mem_filter.mp hmem).1

theorem isSmall_of_json {given : List (String × Text)} {v : Value}
    (h : json status given v = .ok r) : r.IsSmall := by
  unfold json at h
  split at h
  · cases h
  · exact isSmall_of_makeWith h

end Response

end Http

open Http

theorem Draft.isSmall_of_render {d : Draft} {r : Response} (h : d.render = .ok r) :
    r.IsSmall := by
  unfold render at h
  split at h
  · cases h
  · rename_i hmake
    split at h
    · cases h
    · rename_i happend
      obtain rfl := Except.ok.inj h
      exact Headers.areSmall_of_appendAll (Response.isSmall_of_make hmake) happend

theorem Outcome.areSmall_of_mergeHeaders {outcome : Outcome} {h k : Headers}
    {brought : List (String × Text)} (hh : h.AreSmall)
    (hmerge : outcome.mergeHeaders h brought = .ok k) : k.AreSmall := by
  cases outcome with
  | problem => exact Headers.areSmall_of_setAll hh hmerge
  | challenge => exact Headers.areSmall_of_appendAll hh hmerge
  | forbid | bypass =>
      obtain rfl := Except.ok.inj hmerge
      exact hh

end Triage
