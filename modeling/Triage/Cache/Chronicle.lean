import Triage.Cache.Run

/-!
# Chronicles

The timing rules of a cache, told without a store. A chronicle writes down every
writing, removal and eviction, the latest first, and never crosses anything out.
What a read is to give is found by looking back: the last writing of the key
counts, unless the key was removed or one of the writing's tags was evicted since,
or its time is over (`Chronicle.Keeps`).

A read writes its key when it has to produce the value, for the shorter of the two
times of its settings, and when it gives a failure, for the time that its settings
give to failures. A read that gives a failure of its own making does both, and the
second writing is the later one.
-/

namespace Triage

/-- What was written under a key: when, for how long, and with which tags. -/
structure Writing where
  value : Produced
  moment : Int
  lifetime : Int
  tags : List Text

/-- Something that bears on what is kept. -/
inductive Deed where
  | wrote (key : Text) (w : Writing)
  | removed (key : Text)
  | evicted (tag : Text)

/-- Whether a deed does away with an earlier writing of a key. -/
def Deed.Ends (key : Text) (w : Writing) : Deed → Prop
  | .wrote other _ => other = key
  | .removed other => other = key
  | .evicted tag => tag ∈ w.tags

/-- Among deeds, the latest first, a writing of a key that nothing has done away
with since. -/
def Writing.Stands (key : Text) (w : Writing) (deeds : List Deed) : Prop :=
  ∃ since before, deeds = since ++ .wrote key w :: before ∧ ∀ d ∈ since, ¬d.Ends key w

/-- All that was done with a cache, the latest first, and the current moment. -/
structure Chronicle where
  now : Int := 0
  deeds : List Deed := []

namespace Chronicle

/-- A writing of a key that stands and whose time is not over. -/
def Keeps (c : Chronicle) (key : Text) (w : Writing) : Prop :=
  w.Stands key c.deeds ∧ c.now < w.moment + w.lifetime

/-- Every moment that was reckoned with lies in the calendar. -/
def IsDatable (c : Chronicle) : Prop :=
  c.now ≤ Moment.last ∧ ∀ key w, .wrote key w ∈ c.deeds → w.moment + w.lifetime ≤ Moment.last

/-! ## Looking back -/

/-- The writing of a key that stands. -/
def standing? (key : Text) : List Deed → Option Writing
  | [] => none
  | .wrote other w :: earlier => if other = key then some w else standing? key earlier
  | .removed other :: earlier => if other = key then none else standing? key earlier
  | .evicted tag :: earlier => (standing? key earlier).filter fun w => !w.tags.contains tag

/-- The value that is kept under a key. -/
def kept? (c : Chronicle) (key : Text) : Option Produced :=
  ((standing? key c.deeds).filter fun w => c.now < w.moment + w.lifetime).map (·.value)

/-! ## Noting down -/

/-- The writing of a value that had to be produced for a read. -/
def creation (c : Chronicle) (q : Query) (value : Produced) : Deed :=
  .wrote q.key ⟨value, c.now, min q.settings.expiration q.settings.localExpiration, q.tagList⟩

/-- The writing of a value that a read gives, if it is a failure that has a time of
its own. -/
def restamps (c : Chronicle) (q : Query) (value : Produced) : List Deed :=
  match q.restampTime? value with
  | some time => [.wrote q.key ⟨value, c.now, time, q.tagList⟩]
  | none => []

/-- The deeds of a read, the latest first. A read whose factory raises an error
writes nothing. -/
def readDeeds (c : Chronicle) (q : Query) (factory : Except Raised Produced) : List Deed :=
  match c.kept? q.key with
  | some value => c.restamps q value
  | none =>
    match factory with
    | .ok value => c.restamps q value ++ [c.creation q value]
    | .error _ => []

/-- The chronicle with one more use of the cache. -/
def note (c : Chronicle) : CacheUse → Chronicle
  | .read q factory => { c with deeds := c.readDeeds q factory ++ c.deeds }
  | .remove key => { c with deeds := .removed key :: c.deeds }
  | .removeByTags tags => { c with deeds := (tags.map .evicted).reverse ++ c.deeds }
  | .advance duration => { c with now := c.now + duration }

/-- The chronicle with several more uses. -/
def noteAll (c : Chronicle) (us : List CacheUse) : Chronicle := us.foldl note c

variable {c : Chronicle} {q : Query} {factory : Except Raised Produced} {value : Produced}
  {raised : Raised}

theorem note_read_of_kept (h : c.kept? q.key = some value) :
    c.note (.read q factory) = { c with deeds := c.restamps q value ++ c.deeds } := by
  simp only [note, readDeeds, h]

theorem note_read_of_raised (h : c.kept? q.key = none) :
    c.note (.read q (.error raised)) = c := by
  simp only [note, readDeeds, h, List.nil_append]

theorem note_read_of_produced (h : c.kept? q.key = none) :
    c.note (.read q (.ok value)) =
      { c with deeds := c.restamps q value ++ c.creation q value :: c.deeds } := by
  simp only [note, readDeeds, h, List.append_assoc, List.singleton_append]

end Chronicle

/-! ## What stands is found -/

theorem Writing.stands_cons_iff {key : Text} {w : Writing} {d : Deed} {deeds : List Deed} :
    w.Stands key (d :: deeds) ↔ d = .wrote key w ∨ (¬d.Ends key w ∧ w.Stands key deeds) := by
  constructor
  · rintro ⟨since, before, hdeeds, hsince⟩
    cases since with
    | nil => exact Or.inl (List.cons.inj hdeeds).1
    | cons d' since =>
        obtain ⟨rfl, rfl⟩ := List.cons.inj hdeeds
        exact Or.inr ⟨hsince d (List.mem_cons_self ..), since, before, rfl,
          fun d' hd' => hsince d' (List.mem_cons_of_mem _ hd')⟩
  · rintro (rfl | ⟨hd, since, before, rfl, hsince⟩)
    · exact ⟨[], deeds, rfl, fun d hd => nomatch hd⟩
    · exact ⟨d :: since, before, rfl, List.forall_mem_cons.mpr ⟨hd, hsince⟩⟩

namespace Chronicle

theorem standing?_eq_some_iff {key : Text} {w : Writing} {deeds : List Deed} :
    standing? key deeds = some w ↔ w.Stands key deeds := by
  induction deeds with
  | nil =>
      refine iff_of_false (fun h => nomatch h) ?_
      rintro ⟨since, before, hdeeds, -⟩
      exact List.append_ne_nil_of_right_ne_nil since (List.cons_ne_nil _ before) hdeeds.symm
  | cons d deeds ih =>
      rw [Writing.stands_cons_iff, ← ih]
      cases d with
      | wrote other w' =>
          by_cases hkey : other = key
          · simp [standing?, Deed.Ends, hkey]
          · simp [standing?, Deed.Ends, hkey]
      | removed other =>
          by_cases hkey : other = key
          · simp [standing?, Deed.Ends, hkey]
          · simp [standing?, Deed.Ends, hkey]
      | evicted tag => simp [standing?, Deed.Ends, Option.filter_eq_some_iff, and_comm]

theorem kept?_eq_some_iff {c : Chronicle} {key : Text} {value : Produced} :
    c.kept? key = some value ↔ ∃ w, c.Keeps key w ∧ w.value = value := by
  simp [kept?, Keeps, Option.map_eq_some_iff, Option.filter_eq_some_iff, standing?_eq_some_iff]

end Chronicle

end Triage
