import Mathlib.Data.List.Nodup
import Triage.Cache.Run
import Triage.Error.Make

/-!
# What a store holds

A store is looked at through `entry?`: the entry of a key, whether it still
counts or not. Every operation is described once by what it does to that view,
and nothing later opens an operation again. The invariant behind it is that no
key has two entries (`IsKeyed`), so that an entry that is evicted does not
uncover another one.

A read makes two calls on the store: it looks the value up or lets it be
produced (`lookup_cases`), and then it may put a failure back
(`Store.stamp`). `serve_cases` puts the two together.
-/

namespace Triage

theorem Moment.after_eq_ok_iff {moment duration m : Int} :
    Moment.after moment duration = .ok m ↔
      m = moment + duration ∧ Moment.first ≤ m ∧ m ≤ Moment.last := by
  simp only [Moment.after]
  constructor
  · intro h
    split at h
    · rename_i hrange
      obtain rfl := Except.ok.inj h
      exact ⟨rfl, hrange⟩
    · cases h
  · rintro ⟨rfl, hrange⟩
    exact if_pos hrange

/-! ## The time of a failure -/

namespace Query

variable {q : Query} {value : Produced} {time : Int}

theorem lifetime_of_restampTime? (h : q.restampTime? value = some time) :
    q.settings.failureOptions.lifetime = time := by
  unfold restampTime? at h
  split at h
  · unfold CacheSettings.failureOptions CacheOptions.lifetime
    rw [h]
    exact Int.min_self time
  · cases h

theorem pos_of_restampTime? (h : q.restampTime? value = some time) : 0 < time := by
  unfold restampTime? at h
  split at h
  · exact q.settings.failureExpiration_pos time h
  · cases h

end Query

namespace Store

variable {s s' : Store} {key k tag : Text} {e : CacheEntry} {value : Produced}
  {options : CacheOptions} {tags : List Text}

/-! ## One entry for a key -/

/-- No key has two entries. -/
def IsKeyed (s : Store) : Prop := (s.entries.map (·.1)).Nodup

theorem mem_of_entry?_eq (h : s.entry? key = some e) : (key, e) ∈ s.entries := by
  obtain ⟨⟨other, e'⟩, hfind, rfl⟩ := Option.map_eq_some_iff.mp h
  obtain rfl : other = key := by simpa using List.find?_some hfind
  exact List.mem_of_find?_eq_some hfind

theorem entry?_eq_some_iff (hs : s.IsKeyed) : s.entry? key = some e ↔ (key, e) ∈ s.entries := by
  refine ⟨mem_of_entry?_eq, fun hmem => ?_⟩
  cases hfound : s.entry? key with
  | none =>
      have hnone := List.find?_eq_none.mp (Option.map_eq_none_iff.mp hfound) (key, e) hmem
      simp at hnone
  | some e' =>
      have hsame := List.inj_on_of_nodup_map hs (mem_of_entry?_eq hfound) hmem rfl
      rw [(Prod.mk.inj hsame).2]

theorem isKeyed_filter (hs : s.IsKeyed) (p : Text × CacheEntry → Bool) (now : Int) :
    IsKeyed { entries := s.entries.filter p, now } :=
  hs.sublist (List.filter_sublist.map _)

/-! ## Removing -/

theorem isKeyed_remove (hs : s.IsKeyed) (key : Text) : (s.remove key).IsKeyed :=
  isKeyed_filter hs _ s.now

theorem isKeyed_removeByTag (hs : s.IsKeyed) (tag : Text) : (s.removeByTag tag).IsKeyed :=
  isKeyed_filter hs _ s.now

theorem entry?_remove (s : Store) (key k : Text) :
    entry? (s.remove key) k = if k = key then none else s.entry? k := by
  unfold remove entry?
  -- Looking for `k` among the pairs of other keys is looking for both at once.
  rw [List.find?_filter]
  by_cases hk : k = key
  · subst hk
    simp
  · rw [if_neg hk]
    refine congrArg (Option.map _) (congrArg (List.find? · s.entries) (funext fun e => ?_))
    by_cases he : e.1 = k <;> simp [he, hk]

theorem entry?_removeByTag (hs : s.IsKeyed) (tag k : Text) :
    entry? (s.removeByTag tag) k =
      (Option.filter (fun e => !e.tags.contains tag) <| s.entry? k) := by
  ext e
  rw [entry?_eq_some_iff (isKeyed_removeByTag hs tag), Option.filter_eq_some_iff,
    entry?_eq_some_iff hs]
  exact List.mem_filter

/-! ## Setting -/

theorem set_eq_ok_iff :
    s.set key value options tags = .ok s' ↔
      (Moment.first ≤ s.now + options.lifetime ∧ s.now + options.lifetime ≤ Moment.last)
        ∧ s' = { s with entries :=
            (key, ⟨value, s.now + options.lifetime, tags⟩) :: (s.remove key).entries } := by
  unfold set
  cases hafter : Moment.after s.now options.lifetime with
  | error t =>
      refine ⟨fun h => (nomatch h), fun ⟨hrange, _⟩ => ?_⟩
      rw [Moment.after_eq_ok_iff.mpr ⟨rfl, hrange⟩] at hafter
      cases hafter
  | ok expires =>
      obtain ⟨rfl, hrange⟩ := Moment.after_eq_ok_iff.mp hafter
      refine ⟨fun h => ⟨hrange, (Except.ok.inj h).symm⟩, ?_⟩
      rintro ⟨-, rfl⟩
      rfl

theorem exists_set (key : Text) (value : Produced) (tags : List Text)
    (h : Moment.first ≤ s.now + options.lifetime ∧ s.now + options.lifetime ≤ Moment.last) :
    ∃ s', s.set key value options tags = .ok s' := ⟨_, set_eq_ok_iff.mpr ⟨h, rfl⟩⟩

theorem now_of_set (h : s.set key value options tags = .ok s') : s'.now = s.now := by
  rw [(set_eq_ok_iff.mp h).2]

theorem entry?_of_set (h : s.set key value options tags = .ok s') (k : Text) :
    s'.entry? k =
      if k = key then some ⟨value, s.now + options.lifetime, tags⟩ else s.entry? k := by
  -- The new pair is the first one, and behind it no pair of the key is left.
  rw [(set_eq_ok_iff.mp h).2]
  have hrest := s.entry?_remove key k
  unfold entry? at hrest ⊢
  by_cases hk : k = key
  · subst hk
    simp
  · have hne : (key == k) = false := beq_eq_false_iff_ne.mpr (Ne.symm hk)
    rw [List.find?_cons_of_neg (by simp [hne])]
    simpa [hk] using hrest

theorem isKeyed_of_set (hs : s.IsKeyed) (h : s.set key value options tags = .ok s') :
    s'.IsKeyed := by
  rw [(set_eq_ok_iff.mp h).2]
  refine List.nodup_cons.mpr ⟨fun hmem => ?_, isKeyed_remove hs key⟩
  obtain ⟨e, he, rfl⟩ := List.mem_map.mp hmem
  simp [remove] at he

/-! ## Live entries

An entry that counts no more stays in the store until it is looked up. What a
read finds is the entry of the key that still counts. -/

/-- The entry of a key, if it still counts. -/
def held? (s : Store) (key : Text) : Option CacheEntry := Option.filter s.isLive <| s.entry? key

theorem live?_eq_map (s : Store) (key : Text) :
    s.live? key = (s.held? key).map (·.value) := by
  unfold live? held?
  cases s.entry? key with
  | none => rfl
  | some e => cases h : s.isLive e <;> simp [h, Option.filter]

/-- Another key than the one removed keeps its entry; the one removed has none. -/
theorem held?_remove (s : Store) (key k : Text) :
    (s.remove key).held? k = if k = key then none else s.held? k := by
  unfold held?
  rw [entry?_remove]
  split <;> rfl

theorem held?_removeByTag (hs : s.IsKeyed) (tag k : Text) :
    (s.removeByTag tag).held? k =
      (s.held? k).filter fun e => !e.tags.contains tag := by
  have hlive : (s.removeByTag tag).isLive = s.isLive := rfl
  unfold held?
  rw [entry?_removeByTag hs, Option.filter_filter, Option.filter_filter, hlive]
  simp only [Bool.and_comm]

theorem held?_of_set (h : s.set key value options tags = .ok s') (k : Text) :
    s'.held? k =
      if k = key then
        (some ⟨value, s.now + options.lifetime, tags⟩ : Option CacheEntry).filter s.isLive
      else s.held? k := by
  have hlive : s'.isLive = s.isLive := by
    funext e
    unfold isLive
    rw [now_of_set h]
  unfold held?
  rw [entry?_of_set h, hlive]
  split <;> rfl

/-- As time goes on, entries only cease to count. -/
theorem held?_of_advance {duration : Int} (hd : 0 ≤ duration)
    (h : s.advance duration = .ok s') (k : Text) :
    s'.held? k = (s.held? k).filter fun e => s.now + duration < e.expires := by
  unfold advance at h
  split at h
  · rename_i now hnow
    obtain ⟨rfl, -⟩ := Moment.after_eq_ok_iff.mp hnow
    obtain rfl := Except.ok.inj h
    unfold held?
    rw [Option.filter_filter]
    congr 1
    funext e
    unfold isLive
    by_cases hlater : s.now + duration < e.expires
    · have hnow : s.now < e.expires := by omega
      simp [hlater, hnow]
    · simp [hlater]
  · cases h

/-! ## Reading -/

variable {q : Query} {factory : Except Raised Produced}

theorem lookup_cases (s : Store) (q : Query) (factory : Except Raised Produced) :
    (∃ value, s.live? q.key = some value ∧ s.lookup q factory = ⟨.ok value, s, false⟩)
      ∨ (∃ raised, s.live? q.key = none ∧ factory = .error raised
        ∧ s.lookup q factory = ⟨.error raised, s.remove q.key, true⟩)
      ∨ (∃ value t, s.live? q.key = none ∧ factory = .ok value
        ∧ (s.remove q.key).set q.key value q.settings.options q.tagList = .error t
        ∧ s.lookup q factory = ⟨.error (.trouble t), s.remove q.key, true⟩)
      ∨ (∃ value s', s.live? q.key = none ∧ factory = .ok value
        ∧ (s.remove q.key).set q.key value q.settings.options q.tagList = .ok s'
        ∧ s.lookup q factory = ⟨.ok value, s', true⟩) := by
  unfold lookup getOrCreate
  cases hlive : s.live? q.key with
  | some value => exact Or.inl ⟨value, rfl, rfl⟩
  | none =>
      cases factory with
      | error raised => exact Or.inr (Or.inl ⟨raised, rfl, rfl, rfl⟩)
      | ok value =>
          cases hset : (s.remove q.key).set q.key value q.settings.options q.tagList with
          | error t =>
              exact Or.inr (Or.inr (Or.inl ⟨value, t, rfl, rfl, hset, by simp only [hset]⟩))
          | ok s' =>
              exact Or.inr (Or.inr (Or.inr ⟨value, s', rfl, rfl, hset, by simp only [hset]⟩))

/-- A value that still counts is found, and nothing is done to the store. -/
theorem lookup_of_live (hlive : s.live? q.key = some value) (factory : Except Raised Produced) :
    s.lookup q factory = ⟨.ok value, s, false⟩ := by
  unfold lookup getOrCreate
  rw [hlive]

/-- A value is produced exactly where none counts. -/
theorem produced_lookup (s : Store) (q : Query) (factory : Except Raised Produced) :
    (s.lookup q factory).produced = (s.live? q.key).isNone := by
  rcases s.lookup_cases q factory with
    ⟨value, hlive, hlook⟩ | ⟨raised, hlive, -, hlook⟩ | ⟨value, t, hlive, -, -, hlook⟩
      | ⟨value, s', hlive, -, -, hlook⟩ <;> rw [hlook, hlive] <;> rfl

theorem stamp_of_restampTime?_eq_none (h : q.restampTime? value = none) :
    s.stamp q value = .ok s := by
  simp only [stamp, h]

/-! ### A read is a look and a stamp -/

@[simp] theorem produced_serve (s : Store) (q : Query) (factory : Except Raised Produced)
    (requestId : Option Text) :
    (s.serve q factory requestId).produced = (s.lookup q factory).produced := by
  unfold serve lookup
  dsimp only
  split
  · rfl
  · split
    · rfl
    · split <;> rfl

theorem serve_of_raised {raised : Raised} (hlook : (s.lookup q factory).answer = .error raised)
    (requestId : Option Text) :
    (s.serve q factory requestId).answer = .error raised
      ∧ (s.serve q factory requestId).store = (s.lookup q factory).store := by
  unfold lookup at *
  simp only [serve, hlook, and_self]

theorem serve_of_stamp (hlook : (s.lookup q factory).answer = .ok value)
    (hstamp : (s.lookup q factory).store.stamp q value = .ok s') (requestId : Option Text) :
    (s.serve q factory requestId).answer = .ok value
      ∧ (s.serve q factory requestId).store = s' := by
  unfold lookup stamp at *
  cases htime : q.restampTime? value with
  | none =>
      rw [htime] at hstamp
      obtain rfl := Except.ok.inj hstamp
      simp only [serve, hlook, htime, and_self]
  | some time =>
      simp only [htime] at hstamp
      simp only [serve, hlook, htime, hstamp, and_self]

theorem serve_of_unstamped {t : Trouble} (hlook : (s.lookup q factory).answer = .ok value)
    (hstamp : (s.lookup q factory).store.stamp q value = .error t) (requestId : Option Text) :
    (s.serve q factory requestId).answer = .error (.trouble t)
      ∧ (s.serve q factory requestId).store = (s.lookup q factory).store := by
  unfold lookup stamp at *
  cases htime : q.restampTime? value with
  | none =>
      rw [htime] at hstamp
      cases hstamp
  | some time =>
      simp only [htime] at hstamp
      simp only [serve, hlook, htime, hstamp, and_self]

theorem serve_cases (s : Store) (q : Query) (factory : Except Raised Produced)
    (requestId : Option Text) :
    (∃ raised, (s.lookup q factory).answer = .error raised
        ∧ (s.serve q factory requestId).answer = .error raised
        ∧ (s.serve q factory requestId).store = (s.lookup q factory).store)
      ∨ (∃ value t, (s.lookup q factory).answer = .ok value
        ∧ (s.lookup q factory).store.stamp q value = .error t
        ∧ (s.serve q factory requestId).answer = .error (.trouble t)
        ∧ (s.serve q factory requestId).store = (s.lookup q factory).store)
      ∨ (∃ value s', (s.lookup q factory).answer = .ok value
        ∧ (s.lookup q factory).store.stamp q value = .ok s'
        ∧ (s.serve q factory requestId).answer = .ok value
        ∧ (s.serve q factory requestId).store = s') := by
  cases hlook : (s.lookup q factory).answer with
  | error raised => exact Or.inl ⟨raised, rfl, serve_of_raised hlook requestId⟩
  | ok value =>
      cases hstamp : (s.lookup q factory).store.stamp q value with
      | error t =>
          exact Or.inr (Or.inl ⟨value, t, rfl, hstamp, serve_of_unstamped hlook hstamp requestId⟩)
      | ok s' =>
          exact Or.inr (Or.inr ⟨value, s', rfl, hstamp, serve_of_stamp hlook hstamp requestId⟩)

/-! ### Frames

A read leaves the entries of other keys alone, and no operation gives a key two
entries. -/

theorem lookup_store_cases (s : Store) (q : Query) (factory : Except Raised Produced) :
    (s.lookup q factory).store = s ∨ (s.lookup q factory).store = s.remove q.key
      ∨ ∃ value, (s.remove q.key).set q.key value q.settings.options q.tagList =
          .ok (s.lookup q factory).store := by
  rcases s.lookup_cases q factory with
    ⟨value, -, hlook⟩ | ⟨raised, -, -, hlook⟩ | ⟨value, t, -, -, -, hlook⟩
      | ⟨value, s', -, -, hset, hlook⟩ <;> rw [hlook]
  · exact Or.inl rfl
  · exact Or.inr (Or.inl rfl)
  · exact Or.inr (Or.inl rfl)
  · exact Or.inr (Or.inr ⟨value, hset⟩)

theorem entry?_lookup_of_ne (s : Store) (factory : Except Raised Produced) (hk : k ≠ q.key) :
    entry? (s.lookup q factory).store k = s.entry? k := by
  have hremove : entry? (s.remove q.key) k = s.entry? k := by rw [entry?_remove, if_neg hk]
  rcases s.lookup_store_cases q factory with heq | heq | ⟨value, hset⟩
  · rw [heq]
  · rw [heq, hremove]
  · rw [entry?_of_set hset, if_neg hk, hremove]

theorem isKeyed_lookup (hs : s.IsKeyed) (q : Query) (factory : Except Raised Produced) :
    (s.lookup q factory).store.IsKeyed := by
  rcases s.lookup_store_cases q factory with heq | heq | ⟨value, hset⟩
  · rwa [heq]
  · rw [heq]
    exact isKeyed_remove hs q.key
  · exact isKeyed_of_set (isKeyed_remove hs q.key) hset

theorem entry?_of_stamp (h : s.stamp q value = .ok s') (k : Text) :
    s'.entry? k =
      if k = q.key then
        match q.restampTime? value with
        | some time => some ⟨value, s.now + time, q.tagList⟩
        | none => s.entry? k
      else s.entry? k := by
  unfold stamp at h
  cases htime : q.restampTime? value with
  | none =>
      rw [htime] at h
      obtain rfl := Except.ok.inj h
      exact (ite_self _).symm
  | some time =>
      rw [htime] at h
      rw [entry?_of_set h, Query.lifetime_of_restampTime? htime]

theorem isKeyed_of_stamp (hs : s.IsKeyed) (h : s.stamp q value = .ok s') : s'.IsKeyed := by
  unfold stamp at h
  split at h
  · exact Except.ok.inj h ▸ hs
  · exact isKeyed_of_set hs h

theorem serve_store_cases (s : Store) (q : Query) (factory : Except Raised Produced)
    (requestId : Option Text) :
    (s.serve q factory requestId).store = (s.lookup q factory).store
      ∨ ∃ value, (s.lookup q factory).answer = .ok value
        ∧ (s.lookup q factory).store.stamp q value = .ok (s.serve q factory requestId).store := by
  rcases s.serve_cases q factory requestId with
    ⟨raised, -, -, hstore⟩ | ⟨value, t, -, -, -, hstore⟩ | ⟨value, s', hlook, hstamp, -, rfl⟩
  · exact Or.inl hstore
  · exact Or.inl hstore
  · exact Or.inr ⟨value, hlook, hstamp⟩

theorem entry?_serve_of_ne (s : Store) (factory : Except Raised Produced)
    (requestId : Option Text) (hk : k ≠ q.key) :
    entry? (s.serve q factory requestId).store k = s.entry? k := by
  rcases s.serve_store_cases q factory requestId with heq | ⟨value, -, hstamp⟩
  · rw [heq, entry?_lookup_of_ne s factory hk]
  · rw [entry?_of_stamp hstamp, if_neg hk, entry?_lookup_of_ne s factory hk]

/-! ## Any use -/

theorem entries_of_advance {duration : Int} (h : s.advance duration = .ok s') :
    s'.entries = s.entries := by
  unfold advance at h
  split at h
  · exact Except.ok.inj h ▸ rfl
  · cases h

theorem entries_use_advance (s : Store) (requestId : Option Text) (duration : Int) :
    (s.use requestId (.advance duration)).store.entries = s.entries := by
  cases hmoved : s.advance duration with
  | ok s' => simp only [use, hmoved, entries_of_advance hmoved]
  | error t => simp only [use, hmoved]

theorem entry?_removeByTags (hs : s.IsKeyed) (tags : List Text) (k : Text) :
    entry? (tags.foldl removeByTag s) k =
      (Option.filter (fun e => tags.all fun tag => !e.tags.contains tag) <| s.entry? k) := by
  induction tags generalizing s with
  | nil => cases h : s.entry? k <;> simp [h, Option.filter]
  | cons tag tags ih =>
      rw [List.foldl_cons, ih (isKeyed_removeByTag hs tag), entry?_removeByTag hs,
        Option.filter_filter]
      rfl

theorem isKeyed_removeByTags (hs : s.IsKeyed) (tags : List Text) :
    IsKeyed (tags.foldl removeByTag s) := by
  induction tags generalizing s with
  | nil => exact hs
  | cons tag tags ih => exact ih (isKeyed_removeByTag hs tag)

theorem isKeyed_serve (hs : s.IsKeyed) (q : Query) (factory : Except Raised Produced)
    (requestId : Option Text) : (s.serve q factory requestId).store.IsKeyed := by
  rcases s.serve_store_cases q factory requestId with heq | ⟨value, -, hstamp⟩
  · exact heq ▸ isKeyed_lookup hs q factory
  · exact isKeyed_of_stamp (isKeyed_lookup hs q factory) hstamp

theorem isKeyed_use (hs : s.IsKeyed) (requestId : Option Text) (u : CacheUse) :
    (s.use requestId u).store.IsKeyed := by
  cases u with
  | read q factory => exact isKeyed_serve hs q factory requestId
  | remove key => exact isKeyed_remove hs key
  | removeByTags tags => exact isKeyed_removeByTags hs tags
  | advance duration =>
      unfold IsKeyed
      rw [entries_use_advance]
      exact hs

theorem isKeyed_after (hs : s.IsKeyed) (requestId : Option Text) (us : List CacheUse) :
    (s.after requestId us).IsKeyed := by
  induction us generalizing s with
  | nil => exact hs
  | cons u us ih => exact ih (isKeyed_use hs requestId u)

theorem isKeyed_empty : ({} : Store).IsKeyed := List.nodup_nil

/-! ## Where a value may come from

What is said here of the pairs in a store is said of entries that count and of others,
and no two of one key have to be told apart. -/

theorem mem_of_remove {key : Text} (h : (k, e) ∈ (s.remove key).entries) :
    k ≠ key ∧ (k, e) ∈ s.entries := by
  obtain ⟨hmem, hne⟩ := List.mem_filter.mp h
  exact ⟨by simpa using hne, hmem⟩

theorem mem_of_set {key : Text} {options : CacheOptions} {tags : List Text}
    (hset : s.set key value options tags = .ok s') (h : (k, e) ∈ s'.entries) :
    (k = key ∧ e.value = value) ∨ (k, e) ∈ s.entries := by
  rw [(set_eq_ok_iff.mp hset).2] at h
  rcases List.mem_cons.mp h with heq | hmem
  · obtain ⟨rfl, rfl⟩ := Prod.mk.inj heq
    exact Or.inl ⟨rfl, rfl⟩
  · exact Or.inr (mem_of_remove hmem).2

theorem mem_of_lookup (h : (k, e) ∈ (s.lookup q factory).store.entries) :
    (k, e) ∈ s.entries
      ∨ (k = q.key ∧ factory = .ok e.value ∧ (s.lookup q factory).produced = true) := by
  rcases s.lookup_cases q factory with
    ⟨value, -, hlook⟩ | ⟨raised, -, -, hlook⟩ | ⟨value, t, -, -, -, hlook⟩
      | ⟨value, s', -, rfl, hset, hlook⟩ <;> rw [hlook] at h ⊢
  · exact Or.inl h
  · exact Or.inl (mem_of_remove h).2
  · exact Or.inl (mem_of_remove h).2
  · rcases mem_of_set hset h with ⟨rfl, rfl⟩ | hmem
    · exact Or.inr ⟨rfl, rfl, rfl⟩
    · exact Or.inl (mem_of_remove hmem).2

theorem mem_of_stamp (hstamp : s.stamp q value = .ok s') (h : (k, e) ∈ s'.entries) :
    (k, e) ∈ s.entries
      ∨ (k = q.key ∧ e.value = value ∧ ∃ time, q.restampTime? value = some time) := by
  unfold stamp at hstamp
  cases htime : q.restampTime? value with
  | none =>
      rw [htime] at hstamp
      exact Or.inl (Except.ok.inj hstamp ▸ h)
  | some time =>
      rw [htime] at hstamp
      rcases mem_of_set hstamp h with ⟨hkey, hvalue⟩ | hmem
      · exact Or.inr ⟨hkey, hvalue, time, rfl⟩
      · exact Or.inl hmem

theorem mem_of_live? {key : Text} (h : s.live? key = some value) :
    ∃ e, (key, e) ∈ s.entries ∧ e.value = value := by
  obtain ⟨e, hheld, hvalue⟩ := Option.map_eq_some_iff.mp (s.live?_eq_map key ▸ h)
  exact ⟨e, mem_of_entry?_eq (Option.filter_eq_some_iff.mp hheld).1, hvalue⟩

/-- The value that a look comes to was there, or has just been produced. -/
theorem origin_of_lookup (h : (s.lookup q factory).answer = .ok value) :
    (∃ e, (q.key, e) ∈ s.entries ∧ e.value = value)
      ∨ (factory = .ok value ∧ (s.lookup q factory).produced = true) := by
  rcases s.lookup_cases q factory with
    ⟨value', hlive, hlook⟩ | ⟨raised, -, -, hlook⟩ | ⟨value', t, -, -, -, hlook⟩
      | ⟨value', s', -, rfl, -, hlook⟩ <;> rw [hlook] at h ⊢ <;> cases h
  · exact Or.inl (mem_of_live? hlive)
  · exact Or.inr ⟨rfl, rfl⟩

end Store

/-! ## Samples -/

/-- A question whose answer is kept for ten minutes, and a failure for half a minute. -/
def stockQuery : Query where
  key := "stock"
  settings := { expiration := 600000000, localExpiration := 600000000
                failureExpiration := some 30000000 }
  tags := some ["stock"]

/-- The same question, from someone who leaves failures as they are. -/
def stockGlance : Query where
  key := "stock"
  settings := { expiration := 600000000, localExpiration := 600000000 }

/-- What comes of the question while the database is down. -/
def outage : Produced := .result (.failure ⟨0, .ofCommon .runtimeError [.text "db down"]⟩)

end Triage
