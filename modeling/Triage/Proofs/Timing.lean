import Triage.Cache.Chronicle
import Triage.Proofs.Entries

/-!
# Reads keep to the timing rules

In every run of a cache, a read gives the value that its chronicle keeps under the
key, without producing it, and otherwise has it produced
(`reads_keep_to_the_chronicle`). A store drops an entry that counts no more when
it is looked up, and overwrites one that is put back; the chronicle does neither.
What both agree on is what still counts: under every key, the entry of the store
that counts is the writing that stands and whose time is not over (`Agrees`).
That is enough, since time only goes on, and what has ceased to count stays so.
-/

namespace Triage

/-- A writing as a store keeps it. -/
def Writing.entry (w : Writing) : CacheEntry := ⟨w.value, w.moment + w.lifetime, w.tags⟩

/-! ## What a chronicle keeps, as an entry -/

namespace Chronicle

/-- The entry that a store is to have under a key. -/
def held? (c : Chronicle) (key : Text) : Option CacheEntry :=
  ((standing? key c.deeds).map Writing.entry).filter fun e => c.now < e.expires

theorem kept?_eq_map (c : Chronicle) (key : Text) :
    c.kept? key = (c.held? key).map (·.value) := by
  unfold kept? held?
  cases standing? key c.deeds with
  | none => rfl
  | some w => by_cases h : c.now < w.moment + w.lifetime <;> simp [Option.filter, Writing.entry, h]

variable {now : Int} {deeds : List Deed} {key k tag : Text} {w : Writing}

theorem held?_wrote :
    held? ⟨now, .wrote key w :: deeds⟩ k =
      if k = key then (some w.entry).filter fun e => now < e.expires
      else held? ⟨now, deeds⟩ k := by
  unfold held?
  by_cases hk : k = key
  · simp [standing?, hk]
  · simp [standing?, hk, Ne.symm hk]

theorem held?_removed :
    held? ⟨now, .removed key :: deeds⟩ k = if k = key then none else held? ⟨now, deeds⟩ k := by
  unfold held?
  by_cases hk : k = key
  · simp [standing?, hk]
  · simp [standing?, hk, Ne.symm hk]

theorem held?_evicted :
    held? ⟨now, .evicted tag :: deeds⟩ k =
      (held? ⟨now, deeds⟩ k).filter fun e => !e.tags.contains tag := by
  have hstanding : standing? k (.evicted tag :: deeds) =
      (standing? k deeds).filter fun w => !w.tags.contains tag := rfl
  unfold held?
  rw [hstanding]
  cases standing? k deeds with
  | none => rfl
  | some w =>
      by_cases htag : tag ∈ w.tags <;> by_cases hnow : now < w.moment + w.lifetime <;>
        simp [Option.filter, Writing.entry, htag, hnow]

/-- As time goes on, writings only cease to count. -/
theorem held?_later {duration : Int} (hd : 0 ≤ duration) :
    held? ⟨now + duration, deeds⟩ k =
      (held? ⟨now, deeds⟩ k).filter fun e => now + duration < e.expires := by
  unfold held?
  rw [Option.filter_filter]
  congr 1
  funext e
  by_cases hlater : now + duration < e.expires
  · have hnow : now < e.expires := by omega
    simp [hlater, hnow]
  · simp [hlater]

/-! ## Datable chronicles -/

/-- Looking back from a datable chronicle, everything was datable. -/
theorem isDatable_of_note {c : Chronicle} {u : CacheUse}
    (hforward : ∀ d, u = .advance d → 0 ≤ d) (h : (c.note u).IsDatable) : c.IsDatable := by
  obtain ⟨hnow, hdeeds⟩ := h
  cases u with
  | read q factory =>
      exact ⟨hnow, fun key w hmem => hdeeds key w (List.mem_append_right _ hmem)⟩
  | remove key =>
      exact ⟨hnow, fun key w hmem => hdeeds key w (List.mem_cons_of_mem _ hmem)⟩
  | removeByTags tags =>
      exact ⟨hnow, fun key w hmem => hdeeds key w (List.mem_append_right _ hmem)⟩
  | advance d =>
      have hd : 0 ≤ d := hforward d rfl
      have hnow' : c.now + d ≤ Moment.last := hnow
      exact ⟨by omega, hdeeds⟩

theorem isDatable_of_noteAll {c : Chronicle} {us : List CacheUse}
    (hforward : ∀ d, .advance d ∈ us → 0 ≤ d) (h : (c.noteAll us).IsDatable) : c.IsDatable := by
  induction us generalizing c with
  | nil => exact h
  | cons u us ih =>
      have hnoted : (c.note u).IsDatable :=
        ih (fun d hd => hforward d (List.mem_cons_of_mem _ hd)) h
      exact isDatable_of_note (fun d hu => hforward d (hu ▸ List.mem_cons_self ..)) hnoted

theorem noteAll_append (c : Chronicle) (us vs : List CacheUse) :
    c.noteAll (us ++ vs) = (c.noteAll us).noteAll vs := List.foldl_append

end Chronicle

/-! ## Agreement -/

/-- A store agrees with a chronicle about the moment and about all that counts. -/
structure Agrees (c : Chronicle) (s : Store) : Prop where
  now : s.now = c.now
  started : 0 ≤ c.now
  keyed : s.IsKeyed
  held : ∀ key, s.held? key = c.held? key

namespace Agrees

variable {c : Chronicle} {s s' : Store} {q : Query} {factory : Except Raised Produced}

theorem start : Agrees {} {} := ⟨rfl, Int.le_refl 0, List.nodup_nil, fun _ => rfl⟩

theorem live?_eq (h : Agrees c s) (key : Text) : s.live? key = c.kept? key := by
  rw [Store.live?_eq_map, Chronicle.kept?_eq_map, h.held]

/-- A value that is written for some time, which is not too long for the calendar, is
noted down as the last writing of its key; about the other keys nothing changes. -/
theorem of_set {key : Text} {value : Produced} {options : CacheOptions} {tags : List Text}
    {time : Int} (hnow : s.now = c.now) (hstarted : 0 ≤ c.now) (hkeyed : s.IsKeyed)
    (hothers : ∀ k, k ≠ key → s.held? k = c.held? k)
    (htime : options.lifetime = time) (hpos : 0 < time) (hlast : c.now + time ≤ Moment.last) :
    ∃ s', s.set key value options tags = .ok s'
      ∧ Agrees { c with deeds := .wrote key ⟨value, c.now, time, tags⟩ :: c.deeds } s' := by
  subst htime
  -- The clock has started at zero and the time is positive: only the end of the
  -- calendar could be missed.
  have hfirst : Moment.first ≤ 0 := by decide
  have hrange : Moment.first ≤ s.now + options.lifetime
      ∧ s.now + options.lifetime ≤ Moment.last := by
    rw [hnow]
    omega
  obtain ⟨s', hset⟩ := Store.exists_set key value tags hrange
  refine ⟨s', hset, (Store.now_of_set hset).trans hnow, hstarted, Store.isKeyed_of_set hkeyed hset,
    fun k => ?_⟩
  have hlive : s.isLive = fun e => decide (c.now < e.expires) := by
    funext e
    unfold Store.isLive
    rw [hnow]
  rw [Store.held?_of_set hset, Chronicle.held?_wrote, hlive, hnow]
  split
  · rfl
  · rename_i hk
    exact hothers k hk

theorem remove (h : Agrees c s) (key : Text) :
    Agrees (c.note (.remove key)) (s.remove key) := by
  refine ⟨h.now, h.started, Store.isKeyed_remove h.keyed key, fun k => ?_⟩
  rw [Store.held?_remove, h.held]
  exact Chronicle.held?_removed.symm

/-- Dropping an entry that does not count changes nothing that counts. -/
theorem drop (h : Agrees c s) {key : Text} (hlive : s.live? key = none) :
    Agrees c (s.remove key) := by
  refine ⟨h.now, h.started, Store.isKeyed_remove h.keyed key, fun k => ?_⟩
  have hnone : s.held? key = none := Option.map_eq_none_iff.mp (s.live?_eq_map key ▸ hlive)
  rw [Store.held?_remove, ← h.held]
  split
  · rename_i hk
    rw [hk, hnone]
  · rfl

theorem removeByTag (h : Agrees c s) (tag : Text) :
    Agrees { c with deeds := .evicted tag :: c.deeds } (s.removeByTag tag) := by
  refine ⟨h.now, h.started, Store.isKeyed_removeByTag h.keyed tag, fun k => ?_⟩
  rw [Store.held?_removeByTag h.keyed, h.held]
  exact Chronicle.held?_evicted.symm

theorem removeByTags (h : Agrees c s) (tags : List Text) :
    Agrees (c.note (.removeByTags tags)) (tags.foldl Store.removeByTag s) := by
  show Agrees { c with deeds := (tags.map .evicted).reverse ++ c.deeds } _
  induction tags generalizing c s with
  | nil => exact h
  | cons tag tags ih =>
      rw [List.map_cons, List.reverse_cons, List.append_assoc]
      exact ih (h.removeByTag tag)

theorem advance (h : Agrees c s) {d : Int} (hd : 0 ≤ d) (hlast : c.now + d ≤ Moment.last) :
    ∃ s', s.advance d = .ok s' ∧ Agrees (c.note (.advance d)) s' := by
  have hstarted := h.started
  have hrange : Moment.first ≤ s.now + d ∧ s.now + d ≤ Moment.last := by
    have hfirst : Moment.first ≤ 0 := by decide
    rw [h.now]
    omega
  have hset : s.advance d = .ok { s with now := s.now + d } := by
    unfold Store.advance
    rw [Moment.after_eq_ok_iff.mpr ⟨rfl, hrange⟩]
  refine ⟨_, hset, congrArg (· + d) h.now, Int.add_nonneg hstarted hd, h.keyed, fun k => ?_⟩
  rw [Store.held?_of_advance hd hset, h.held, h.now]
  exact (Chronicle.held?_later hd).symm

/-! ### Reads -/

/-- Putting a value back goes as the chronicle says. -/
theorem stamp (h : Agrees c s) {value : Produced}
    (hlast : ∀ key w, .wrote key w ∈ c.restamps q value → w.moment + w.lifetime ≤ Moment.last) :
    ∃ s', s.stamp q value = .ok s'
      ∧ Agrees { c with deeds := c.restamps q value ++ c.deeds } s' := by
  unfold Store.stamp Chronicle.restamps at *
  cases htime : q.restampTime? value with
  | none => exact ⟨s, rfl, h⟩
  | some time =>
      simp only [htime] at hlast ⊢
      exact of_set h.now h.started h.keyed (fun k _ => h.held k)
        (Query.lifetime_of_restampTime? htime) (Query.pos_of_restampTime? htime)
        (hlast q.key _ (List.mem_singleton_self _))

/-- A value that had to be produced is written as the chronicle says. -/
theorem create (h : Agrees c s) (q : Query) {value : Produced}
    (hlast : ∀ key w, c.creation q value = .wrote key w → w.moment + w.lifetime ≤ Moment.last) :
    ∃ s', (s.remove q.key).set q.key value q.settings.options q.tagList = .ok s'
      ∧ Agrees { c with deeds := c.creation q value :: c.deeds } s' := by
  have hpos : 0 < min q.settings.expiration q.settings.localExpiration :=
    Int.lt_min.mpr ⟨q.settings.expiration_pos, q.settings.localExpiration_pos⟩
  refine of_set (s := s.remove q.key) h.now h.started (Store.isKeyed_remove h.keyed q.key)
    (fun k hk => ?_) rfl hpos (hlast q.key _ rfl)
  rw [Store.held?_remove, if_neg hk, h.held]

/-- A read that has a value at hand, found or produced, stamps it and gives it. -/
theorem serve {looked : Store} {value : Produced} {produced : Bool} (h : Agrees c looked)
    (hlook : s.lookup q factory = ⟨.ok value, looked, produced⟩) (requestId : Option Text)
    (hlast : ∀ key w, .wrote key w ∈ c.restamps q value → w.moment + w.lifetime ≤ Moment.last) :
    Agrees { c with deeds := c.restamps q value ++ c.deeds } (s.serve q factory requestId).store
      ∧ (s.serve q factory requestId).answer = .ok value := by
  obtain ⟨s', hstamp, hagrees⟩ := h.stamp hlast
  have hanswer : (s.lookup q factory).answer = .ok value := congrArg (·.answer) hlook
  have hstore : (s.lookup q factory).store = looked := congrArg (·.store) hlook
  obtain ⟨hserved, hleft⟩ :=
    Store.serve_of_stamp hanswer (hstore.symm ▸ hstamp) requestId
  exact ⟨hleft.symm ▸ hagrees, hserved⟩

/-- Where the chronicle keeps a value under its key, a read gives that value. -/
theorem read_kept {value : Produced} (h : Agrees c s) (hkept : c.kept? q.key = some value)
    (requestId : Option Text) (hdatable : (c.note (.read q factory)).IsDatable) :
    Agrees (c.note (.read q factory)) (s.serve q factory requestId).store
      ∧ (s.serve q factory requestId).answer = .ok value
      ∧ (s.serve q factory requestId).produced = false := by
  rw [Chronicle.note_read_of_kept hkept] at hdatable ⊢
  have hlive : s.live? q.key = some value := (h.live?_eq q.key).trans hkept
  have hlook := Store.lookup_of_live hlive factory
  obtain ⟨hagrees, hanswer⟩ := h.serve hlook requestId fun key w hmem =>
    hdatable.2 key w (List.mem_append_left _ hmem)
  exact ⟨hagrees, hanswer, by rw [Store.produced_serve, hlook]⟩

/-- Where the chronicle keeps nothing under its key, a read has its value produced. -/
theorem read_gone (h : Agrees c s) (hkept : c.kept? q.key = none) (requestId : Option Text)
    (hdatable : (c.note (.read q factory)).IsDatable) :
    Agrees (c.note (.read q factory)) (s.serve q factory requestId).store
      ∧ (s.serve q factory requestId).answer = factory
      ∧ (s.serve q factory requestId).produced = true := by
  have hlive : s.live? q.key = none := (h.live?_eq q.key).trans hkept
  have hproduced : (s.serve q factory requestId).produced = true := by
    rw [Store.produced_serve, Store.produced_lookup, hlive]
    rfl
  rcases s.lookup_cases q factory with
    ⟨value, hlive', -⟩ | ⟨raised, -, rfl, hlook⟩ | ⟨value, t, -, rfl, hset, -⟩
      | ⟨value, looked, -, rfl, hset, hlook⟩
  · cases hlive.symm.trans hlive'
  · -- Nothing is written, and the entry that is dropped did not count.
    obtain ⟨hanswer, hstore⟩ := Store.serve_of_raised (congrArg (·.answer) hlook) requestId
    rw [Chronicle.note_read_of_raised hkept, hanswer, hstore, hlook]
    exact ⟨h.drop hlive, rfl, hproduced⟩
  · -- In a datable chronicle the value could be written.
    rw [Chronicle.note_read_of_produced hkept] at hdatable
    obtain ⟨looked, hset', -⟩ := h.create q fun key w hwrote =>
      hdatable.2 key w (List.mem_append_right _ (hwrote ▸ List.mem_cons_self ..))
    cases hset.symm.trans hset'
  · rw [Chronicle.note_read_of_produced hkept] at hdatable ⊢
    obtain ⟨looked', hset', hcreated⟩ := h.create q fun key w hwrote =>
      hdatable.2 key w (List.mem_append_right _ (hwrote ▸ List.mem_cons_self ..))
    obtain rfl := Except.ok.inj (hset.symm.trans hset')
    obtain ⟨hagrees, hanswer⟩ := hcreated.serve hlook requestId fun key w hmem =>
      hdatable.2 key w (List.mem_append_left _ hmem)
    exact ⟨hagrees, hanswer, hproduced⟩

/-! ### Runs -/

theorem use (h : Agrees c s) (requestId : Option Text) {u : CacheUse}
    (hforward : ∀ d, u = .advance d → 0 ≤ d) (hdatable : (c.note u).IsDatable) :
    Agrees (c.note u) (s.use requestId u).store := by
  cases u with
  | read q factory =>
      cases hkept : c.kept? q.key with
      | some value => exact (h.read_kept hkept requestId hdatable).1
      | none => exact (h.read_gone hkept requestId hdatable).1
  | remove key => exact h.remove key
  | removeByTags tags => exact h.removeByTags tags
  | advance d =>
      obtain ⟨s', hmoved, hagrees⟩ := h.advance (hforward d rfl) hdatable.1
      simp only [Store.use, hmoved]
      exact hagrees

theorem after (h : Agrees c s) (requestId : Option Text) {us : List CacheUse}
    (hforward : ∀ d, .advance d ∈ us → 0 ≤ d) (hdatable : (c.noteAll us).IsDatable) :
    Agrees (c.noteAll us) (s.after requestId us) := by
  -- The induction is on the uses, from what is reached so far. What the whole chronicle
  -- is datable for, it was datable for after the first use.
  induction us generalizing c s with
  | nil => exact h
  | cons u us ih =>
      have hrest : ∀ d, .advance d ∈ us → 0 ≤ d := fun d hd =>
        hforward d (List.mem_cons_of_mem _ hd)
      have hnoted : (c.note u).IsDatable := Chronicle.isDatable_of_noteAll hrest hdatable
      exact ih (h.use requestId (fun d hu => hforward d (hu ▸ List.mem_cons_self ..)) hnoted)
        hrest hdatable

end Agrees

/-! ## What reads give -/

/-- In a run that only goes on in time and stays within the calendar, a read gives
the value that the chronicle of what came before keeps under its key, without
producing it; if nothing is kept there, it gives what it has produced. -/
theorem Store.reads_keep_to_the_chronicle (requestId : Option Text) (us : List CacheUse)
    (hforward : ∀ d, .advance d ∈ us → 0 ≤ d)
    (hdatable : (({} : Chronicle).noteAll us).IsDatable)
    (n : Nat) (q : Query) (factory : Except Raised Produced)
    (hread : us[n]? = some (.read q factory)) :
    ∃ served, (({} : Store).run requestId us)[n]? = some served
      ∧ (served.produced = false ↔ ∃ w, (({} : Chronicle).noteAll (us.take n)).Keeps q.key w)
      ∧ (∀ w, (({} : Chronicle).noteAll (us.take n)).Keeps q.key w →
          served.answer = .ok (some w.value))
      ∧ (served.produced = true → served.answer = factory.map some) := by
  obtain ⟨hn, hu⟩ := List.getElem?_eq_some_iff.mp hread
  have hsplit : us = us.take n ++ .read q factory :: us.drop (n + 1) := by
    rw [← hu, ← List.drop_eq_getElem_cons hn, List.take_append_drop]
  -- The chronicle of the whole run is later than the ones up to the read and past it.
  have hafterwards : ((({} : Chronicle).noteAll (us.take n)).note (.read q factory)).IsDatable := by
    rw [hsplit, Chronicle.noteAll_append] at hdatable
    exact Chronicle.isDatable_of_noteAll
      (fun d hd => hforward d (List.mem_of_mem_drop hd)) hdatable
  have hbefore : (({} : Chronicle).noteAll (us.take n)).IsDatable :=
    Chronicle.isDatable_of_note (fun d hd => by cases hd) hafterwards
  have hagrees : Agrees (({} : Chronicle).noteAll (us.take n))
      (({} : Store).after requestId (us.take n)) :=
    Agrees.start.after requestId (fun d hd => hforward d (List.mem_of_mem_take hd)) hbefore
  refine ⟨_, by rw [Store.getElem?_run, hread]; rfl, ?_⟩
  generalize ({} : Chronicle).noteAll (us.take n) = c at *
  generalize ({} : Store).after requestId (us.take n) = s at *
  cases hkept : c.kept? q.key with
  | some value =>
      obtain ⟨-, hanswer, hproduced⟩ := hagrees.read_kept hkept requestId hafterwards
      obtain ⟨w, hw, -⟩ := Chronicle.kept?_eq_some_iff.mp hkept
      refine ⟨iff_of_true hproduced ⟨w, hw⟩, fun w' hw' => ?_, fun h => ?_⟩
      · have hkept' := Chronicle.kept?_eq_some_iff.mpr ⟨w', hw', rfl⟩
        rw [hkept'] at hkept
        rw [Option.some.inj hkept]
        exact congrArg (Except.map some) hanswer
      · cases hproduced.symm.trans h
  | none =>
      obtain ⟨-, hanswer, hproduced⟩ := hagrees.read_gone hkept requestId hafterwards
      have hnothing : ∀ w, ¬c.Keeps q.key w := fun w hw => by
        cases hkept.symm.trans (Chronicle.kept?_eq_some_iff.mpr ⟨w, hw, rfl⟩)
      refine ⟨iff_of_false (fun h => ?_) fun ⟨w, hw⟩ => hnothing w hw,
        fun w hw => absurd hw (hnothing w), fun _ => congrArg (Except.map some) hanswer⟩
      cases hproduced.symm.trans h

/-- A failure that is read every twenty seconds. -/
def outageReads : List CacheUse := [
  .read stockQuery (.ok outage), .advance 20000000, .read stockQuery (.ok (.plain .null)),
  .advance 20000000, .read stockQuery (.ok (.plain .null))]

/-- The last read still finds the failure, because the one before it put it back. -/
theorem Store.outage_outlives_its_time :
    ∃ served, (({} : Store).run none outageReads)[4]? = some served
      ∧ served.produced = false ∧ served.answer = .ok (some outage) := by
  have hforward : ∀ d, .advance d ∈ outageReads → 0 ≤ d := by simp [outageReads]
  have hnoted : ({} : Chronicle).noteAll outageReads =
      ⟨40000000, [
        .wrote "stock" ⟨outage, 40000000, 30000000, ["stock"]⟩,
        .wrote "stock" ⟨outage, 20000000, 30000000, ["stock"]⟩,
        .wrote "stock" ⟨outage, 0, 30000000, ["stock"]⟩,
        .wrote "stock" ⟨outage, 0, 600000000, ["stock"]⟩]⟩ := rfl
  have hdatable : (({} : Chronicle).noteAll outageReads).IsDatable := by
    rw [hnoted]
    refine ⟨by decide, fun key w hmem => ?_⟩
    have hlast : (30000000 : Int) + 600000000 ≤ Moment.last := by decide
    simp only [List.mem_cons, Deed.wrote.injEq, List.not_mem_nil, or_false] at hmem
    rcases hmem with ⟨-, rfl⟩ | ⟨-, rfl⟩ | ⟨-, rfl⟩ | ⟨-, rfl⟩ <;> dsimp only <;> omega
  have hkeeps : (({} : Chronicle).noteAll (outageReads.take 4)).Keeps "stock"
      ⟨outage, 20000000, 30000000, ["stock"]⟩ :=
    ⟨⟨[], _, rfl, fun d hd => nomatch hd⟩, by decide⟩
  obtain ⟨served, hserved, hkept, hgives, -⟩ :=
    reads_keep_to_the_chronicle none outageReads hforward hdatable 4 stockQuery
      (.ok (.plain .null)) rfl
  exact ⟨served, hserved, hkept.mpr ⟨_, hkeeps⟩, hgives _ hkeeps⟩

end Triage
