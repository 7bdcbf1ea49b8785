import Mathlib.Data.List.Nodup
import Triage.Memo.Run

/-!
# What a problem is filled in from

A problem is filled in as often as it is asked for, from the path and the id of one request
after the other. Whoever comes first with a value for an open field has it there for good,
so any number of fillings has a closed form (`filledFromAll_cons`): title and type are those
that the tables know for the status, the path is that of the first filling, and the id is
the first that is not empty. Hence two fillings are one, and a filling that has been made
before changes nothing (`first_writer_wins`).
-/

namespace Triage

/-! ## What the tables know -/

namespace ProblemDefault

/-- The title, if there is one, and the type that the tables know for a status: those of its
entry, and for a status without an entry its phrase and the blank type. -/
inductive Knows (status : Int) : Option String → String → Prop where
  | listed (entry : ProblemDefault) (h : (status, entry) ∈ listed) :
      Knows status (some entry.title) entry.typeUri
  | unlisted (h : ∀ entry, (status, entry) ∉ listed) :
      Knows status (Http.phrase? status) blankType

theorem nodup_listed : (listed.map (·.1)).Nodup := by decide

theorem ofStatus?_eq_some_iff {status : Int} {entry : ProblemDefault} :
    ofStatus? status = some entry ↔ (status, entry) ∈ listed := by
  unfold ofStatus?
  constructor
  · intro h
    obtain ⟨found, hfind, rfl⟩ := Option.map_eq_some_iff.mp h
    obtain rfl : found.1 = status := by simpa using List.find?_some hfind
    exact List.mem_of_find?_eq_some hfind
  · intro hmem
    cases hfind : listed.find? fun entry => entry.1 == status with
    | none => exact absurd (List.find?_eq_none.mp hfind _ hmem) (by simp)
    | some found =>
        have hstatus : found.1 = status := by simpa using List.find?_some hfind
        rw [List.inj_on_of_nodup_map nodup_listed (List.mem_of_find?_eq_some hfind) hmem hstatus]
        rfl

theorem knows_title_typeOf (status : Int) : Knows status (title? status) (typeOf status) := by
  unfold title? typeOf
  cases hentry : ofStatus? status with
  | some entry => exact .listed entry (ofStatus?_eq_some_iff.mp hentry)
  | none =>
      refine .unlisted fun entry hmem => ?_
      rw [ofStatus?_eq_some_iff.mpr hmem] at hentry
      cases hentry

end ProblemDefault

/-! ## The first id -/

/-- The first of the ids that is there and not empty. -/
def firstId (ids : List (Option Text)) : Option Text := (ids.filterMap id).find? (· ≠ ↑"")

theorem firstId_singleton (requestId : Option Text) :
    firstId [requestId] = presentId requestId := by
  unfold firstId presentId
  cases requestId with
  | none => rfl
  | some s => by_cases hs : s = "" <;> simp [hs]

theorem firstId_append (ids : List (Option Text)) (requestId : Option Text) :
    firstId (ids ++ [requestId]) = (firstId ids).or (presentId requestId) := by
  rw [← firstId_singleton]
  unfold firstId
  rw [List.filterMap_append, List.find?_append]

theorem firstId_append_of_mem {ids : List (Option Text)} {requestId : Option Text}
    (hmem : requestId ∈ ids) : firstId (ids ++ [requestId]) = firstId ids := by
  rw [firstId_append]
  cases hfirst : firstId ids with
  | some s => rfl
  | none =>
      cases requestId with
      | none => rfl
      | some s =>
          have hempty : s = "" := by
            simpa using List.find?_eq_none.mp hfirst s (List.mem_filterMap.mpr ⟨_, hmem, rfl⟩)
          simp [presentId, hempty]

theorem firstId_pair (one other : Option Text) :
    firstId [one, other] = firstId [if one.getD "" = "" then other else one] := by
  show firstId ([one] ++ [other]) = _
  rw [firstId_append, firstId_singleton, firstId_singleton]
  cases one with
  | none => rfl
  | some s => by_cases hs : s = "" <;> simp [presentId, hs]

/-! ## Fillings in turn -/

namespace Problem

/-- The problem after several fillings in turn. -/
def filledFromAll (p : Problem) (fillings : List Filling) : Problem :=
  fillings.foldl (fun p f => p.withDefaults f.path f.requestId) p

/-- The problem with its open fields filled in once, the id from the first of several. -/
def filledIn (p : Problem) (path : Text) (ids : List (Option Text)) : Problem :=
  { p with
    title := p.title.or ((ProblemDefault.title? p.status).map .ofString)
    typeUri := p.typeUri.or (some (ProblemDefault.typeOf p.status))
    instancePath := p.instancePath.or (some path)
    requestId := p.requestId.or (firstId ids) }

theorem filledIn_congr {ids ids' : List (Option Text)} (h : firstId ids = firstId ids')
    (p : Problem) (path : Text) : p.filledIn path ids = p.filledIn path ids' := by
  unfold filledIn
  rw [h]

theorem filledFromAll_append (p : Problem) (fillings : List Filling) (f : Filling) :
    p.filledFromAll (fillings ++ [f]) =
      (p.filledFromAll fillings).withDefaults f.path f.requestId := by
  simp [filledFromAll]

theorem withDefaults_eq (p : Problem) (path : Text) (requestId : Option Text) :
    p.withDefaults path requestId = p.filledIn path [requestId] := by
  unfold withDefaults filledIn
  rw [firstId_singleton]

/-- One more filling adds its id to those that may be the first, and nothing else. -/
theorem filledIn_withDefaults (p : Problem) (path : Text) (ids : List (Option Text))
    (path' : Text) (requestId : Option Text) :
    (p.filledIn path ids).withDefaults path' requestId = p.filledIn path (ids ++ [requestId]) := by
  unfold withDefaults filledIn
  simp [firstId_append, Option.or_assoc]

/-- The closed form of fillings in turn. -/
theorem filledFromAll_cons (p : Problem) (first : Filling) (more : List Filling) :
    p.filledFromAll (first :: more) =
      p.filledIn first.path ((first :: more).map (·.requestId)) := by
  have hmore : ∀ ids, (p.filledIn first.path ids).filledFromAll more =
      p.filledIn first.path (ids ++ more.map (·.requestId)) := by
    -- the path stays that of the first, the ids gather
    induction more with
    | nil => simp [filledFromAll]
    | cons f more ih =>
        intro ids
        show ((p.filledIn first.path ids).withDefaults f.path f.requestId).filledFromAll more = _
        rw [filledIn_withDefaults, ih, List.append_assoc]
        rfl
  show (p.withDefaults first.path first.requestId).filledFromAll more = _
  rw [withDefaults_eq, hmore]
  rfl

/-- **The first writer wins.** After any number of fillings, one at least, a problem is what
it was with its open fields filled in: title and type as the tables know them for its
status, the path of the first filling and the first id that is not empty. Two fillings are
one with the first path and the first of both ids, and to repeat a filling changes nothing. -/
theorem first_writer_wins (p : Problem) (first : Filling) (more : List Filling) :
    (∃ title typeUri, ProblemDefault.Knows p.status title typeUri
      ∧ p.filledFromAll (first :: more) =
        { p with
          title := p.title.or (title.map .ofString)
          typeUri := p.typeUri.or (some typeUri)
          instancePath := p.instancePath.or (some first.path)
          requestId := p.requestId.or
            (((first :: more).filterMap (·.requestId)).find? (· ≠ "")) })
    ∧ (∀ f g : Filling, p.filledFromAll [f, g] = p.filledFromAll
        [⟨f.path, if f.requestId.getD "" = "" then g.requestId else f.requestId⟩])
    ∧ ∀ f ∈ first :: more,
        p.filledFromAll (first :: more ++ [f]) = p.filledFromAll (first :: more) := by
  refine ⟨⟨_, _, ProblemDefault.knows_title_typeOf p.status, ?_⟩, fun f g => ?_, fun f hf => ?_⟩
  · rw [filledFromAll_cons]
    unfold filledIn firstId
    rw [List.filterMap_map]
    rfl
  · rw [filledFromAll_cons, filledFromAll_cons]
    exact filledIn_congr (firstId_pair f.requestId g.requestId) p f.path
  · rw [filledFromAll_append, filledFromAll_cons, filledIn_withDefaults]
    exact filledIn_congr (firstId_append_of_mem (List.mem_map_of_mem hf)) p first.path

/-- Three requests for a problem without an entry, and the last of them once more. -/
theorem tooManyRequests_filled_again :
    ({ status := 429 } : Problem).filledFromAll
        [⟨"/a", none⟩, ⟨"/b", some ""⟩, ⟨"/c", some "r"⟩, ⟨"/c", some "r"⟩] =
      { status := 429, title := some "Too Many Requests", typeUri := some "about:blank",
        instancePath := some "/a", requestId := some "r" } := by
  obtain ⟨-, -, hrepeat⟩ := first_writer_wins { status := 429 } ⟨"/a", none⟩
    [⟨"/b", some ""⟩, ⟨"/c", some "r"⟩]
  exact (hrepeat ⟨"/c", some "r"⟩ (by decide)).trans (by decide)

end Problem

end Triage
