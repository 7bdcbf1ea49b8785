import Triage.Proofs.Entries

/-!
# Whom an eviction reaches

An entry carries the tags of the read that wrote it last, and a read writes more
than what it has produced: it puts a failure back with tags of its own. So an
eviction asks for the *writer* of an entry, the last read that produced the value
or put it back (`Store.writer?`), and not for the read that produced it: a value
goes exactly when one of the evicted tags is among the tags of its writer
(`eviction_reaches_what_was_written`). Reads that only look at the value do not
count, whatever their tags.

An outage that was produced under a tag and put back without it is the example of
a value that outlives the eviction of the tag it was produced under.
-/

namespace Triage

/-! ## Writers -/

/-- Whether a read wrote its key: it produced a value, or it gave a failure that
was put back. -/
def Query.wrote (q : Query) (factory : Except Raised Produced)
    (served : Served (Option Produced)) : Bool :=
  (served.produced && factory.isOk)
    || match served.answer with
      | .ok (some value) => (q.restampTime? value).isSome
      | _ => false

/-- The query of a use that wrote a key. -/
def CacheUse.writer? (key : Text) (served : Served (Option Produced)) :
    CacheUse → Option Query
  | .read q factory => if q.key = key ∧ q.wrote factory served then some q else none
  | _ => none

theorem CacheUse.writer?_read (key : Text) (served : Served (Option Produced)) (q : Query)
    (factory : Except Raised Produced) :
    (CacheUse.read q factory).writer? key served =
      if q.key = key ∧ q.wrote factory served then some q else none := rfl

/-- The query of the last of several uses that wrote a key. -/
def Store.writer? (s : Store) (requestId : Option Text) (key : Text) :
    List CacheUse → Option Query
  | [] => none
  | u :: us =>
    let served := s.use requestId u
    (served.store.writer? requestId key us).or (u.writer? key served)

theorem Store.writer?_cons (s : Store) (requestId : Option Text) (key : Text) (u : CacheUse)
    (us : List CacheUse) :
    s.writer? requestId key (u :: us) =
      (writer? (s.use requestId u).store requestId key us).or
        (u.writer? key (s.use requestId u)) := rfl

/-- Whether a use reads a key. -/
def CacheUse.Reads (key : Text) : CacheUse → Prop
  | .read q _ => q.key = key
  | _ => False

namespace Store

variable {s : Store} {key : Text} {e : CacheEntry} {q : Query}
  {factory : Except Raised Produced} {requestId : Option Text}

/-! ## Entries carry the tags of their writer -/

theorem tags_of_lookup (he : entry? (s.lookup q factory).store q.key = some e) :
    if (s.lookup q factory).produced && factory.isOk then e.tags = q.tagList
    else s.entry? q.key = some e := by
  have hremoved : entry? (s.remove q.key) q.key = none := by rw [entry?_remove, if_pos rfl]
  rcases s.lookup_cases q factory with
    ⟨value, -, hlook⟩ | ⟨raised, -, -, hlook⟩ | ⟨value, t, -, -, -, hlook⟩
      | ⟨value, s', -, rfl, hset, hlook⟩ <;> rw [hlook] at he ⊢
  · exact he
  · cases hremoved.symm.trans he
  · cases hremoved.symm.trans he
  · have hentry := (entry?_of_set hset q.key).symm.trans he
    rw [if_pos rfl] at hentry
    obtain rfl := Option.some.inj hentry
    rfl

theorem wrote_of_error {raised : Raised}
    (h : (s.serve q factory requestId).answer = .error raised) :
    q.wrote factory ((s.serve q factory requestId).map some) =
      ((s.lookup q factory).produced && factory.isOk) := by
  simp [Query.wrote, Served.map, h, Except.map]

theorem wrote_of_ok {value : Produced} (h : (s.serve q factory requestId).answer = .ok value) :
    q.wrote factory ((s.serve q factory requestId).map some) =
      ((s.lookup q factory).produced && factory.isOk || (q.restampTime? value).isSome) := by
  simp [Query.wrote, Served.map, h, Except.map]

/-- After a read of its key, an entry has the tags of the read if the read wrote it,
and else it was there before. -/
theorem tags_of_serve (he : entry? (s.serve q factory requestId).store q.key = some e) :
    if q.wrote factory ((s.serve q factory requestId).map some) then e.tags = q.tagList
    else s.entry? q.key = some e := by
  rcases s.serve_cases q factory requestId with
    ⟨raised, -, hanswer, hstore⟩ | ⟨value, t, -, -, hanswer, hstore⟩
      | ⟨value, s', -, hstamp, hanswer, rfl⟩
  · rw [wrote_of_error hanswer]
    exact tags_of_lookup (hstore ▸ he)
  · -- A stamp that fails leaves what the look has left.
    rw [wrote_of_error hanswer]
    exact tags_of_lookup (hstore ▸ he)
  · have hentry := (entry?_of_stamp hstamp q.key).symm.trans he
    rw [wrote_of_ok hanswer]
    rw [if_pos rfl] at hentry
    cases htime : q.restampTime? value with
    | none =>
        rw [htime] at hentry
        rw [Option.isSome_none, Bool.or_false]
        exact tags_of_lookup hentry
    | some time =>
        rw [htime] at hentry
        obtain rfl := Option.some.inj hentry
        rw [Option.isSome_some, Bool.or_true]
        rfl

theorem tags_of_use (hs : s.IsKeyed) {u : CacheUse}
    (he : entry? (s.use requestId u).store key = some e) :
    match u.writer? key (s.use requestId u) with
    | some q => e.tags = q.tagList
    | none => s.entry? key = some e := by
  cases u with
  | read q factory =>
      by_cases hkey : q.key = key
      · subst hkey
        have hserve := tags_of_serve he
        split at hserve <;> rename_i hwrote
        · rw [CacheUse.writer?_read, if_pos ⟨rfl, hwrote⟩]
          exact hserve
        · rw [CacheUse.writer?_read, if_neg fun h => hwrote h.2]
          exact hserve
      · have hframe := s.entry?_serve_of_ne factory requestId (Ne.symm hkey)
        rw [CacheUse.writer?_read, if_neg fun h => hkey h.1]
        exact hframe.symm.trans he
  | remove other =>
      have hremove := (s.entry?_remove other key).symm.trans he
      split at hremove
      · cases hremove
      · exact hremove
  | removeByTags tags =>
      have hevict := (entry?_removeByTags hs tags key).symm.trans he
      exact (Option.filter_eq_some_iff.mp hevict).1
  | advance duration =>
      have hsame : entry? (s.use requestId (.advance duration)).store key = s.entry? key := by
        unfold entry?
        rw [entries_use_advance]
      exact hsame.symm.trans he

/-- Along a run, the entry of a key has the tags of its writer, if the key was written
at all. -/
theorem tags_of_after (hs : s.IsKeyed) {us : List CacheUse}
    (he : entry? (s.after requestId us) key = some e) :
    match s.writer? requestId key us with
    | some q => e.tags = q.tagList
    | none => s.entry? key = some e := by
  -- The induction is on the uses, from the store that is reached: a later writer is one
  -- of the whole run, and without one the entry is what the first use left.
  induction us generalizing s with
  | nil => exact he
  | cons u us ih =>
      have hrest := ih (isKeyed_use hs requestId u) he
      rw [writer?_cons]
      cases hwriter : writer? (s.use requestId u).store requestId key us with
      | some q =>
          rw [hwriter] at hrest
          exact hrest
      | none =>
          rw [hwriter] at hrest
          rw [Option.none_or]
          exact tags_of_use hs hrest

/-! ## Evictions -/

/-- Only a read of its key fills an empty place. -/
theorem entry?_use_eq_none (hs : s.IsKeyed) (requestId : Option Text) {u : CacheUse}
    (hu : ¬u.Reads key) (hnone : s.entry? key = none) :
    entry? (s.use requestId u).store key = none := by
  cases hafter : entry? (s.use requestId u).store key with
  | none => rfl
  | some e =>
      have htags := tags_of_use hs hafter
      cases u with
      | read q factory =>
          rw [CacheUse.writer?_read, if_neg fun h => hu h.1] at htags
          cases hnone.symm.trans htags
      | remove other => cases hnone.symm.trans htags
      | removeByTags tags => cases hnone.symm.trans htags
      | advance duration => cases hnone.symm.trans htags

theorem entry?_after_eq_none (hs : s.IsKeyed) {us : List CacheUse}
    (hus : ∀ u ∈ us, ¬u.Reads key) (hnone : s.entry? key = none) :
    entry? (s.after requestId us) key = none := by
  induction us generalizing s with
  | nil => exact hnone
  | cons u us ih =>
      have hu := entry?_use_eq_none hs requestId (hus u (List.mem_cons_self ..)) hnone
      exact ih (isKeyed_use hs requestId u) (fun v hv => hus v (List.mem_cons_of_mem _ hv)) hu

theorem produced_serve_of_entry?_eq_none (hnone : s.entry? q.key = none) :
    (s.serve q factory requestId).produced = true := by
  have hlive : s.live? q.key = none := by
    unfold live?
    rw [hnone]
  rw [produced_serve, produced_lookup, hlive]
  rfl

/-- An eviction does away with what is kept under a key if one of the evicted tags is
among the tags of the read that wrote it last, whoever has read it since, and the next
read of the key has its value produced. Otherwise it leaves the entry alone, whichever
tags the value was produced under. -/
theorem eviction_reaches_what_was_written (requestId : Option Text) (us vs : List CacheUse)
    (key : Text) (tags : List Text) (writer : Query)
    (hwriter : ({} : Store).writer? requestId key us = some writer) :
    ((∃ tag ∈ tags, tag ∈ writer.tagList) →
      entry? (({} : Store).after requestId (us ++ [.removeByTags tags])) key = none
        ∧ ∀ next factory, next.key = key → (∀ u ∈ vs, ¬u.Reads key) →
          ∃ served, (({} : Store).run requestId
              (us ++ [.removeByTags tags] ++ vs ++ [.read next factory])).getLast? = some served
            ∧ served.produced = true)
      ∧ ((∀ tag ∈ tags, tag ∉ writer.tagList) →
        entry? (({} : Store).after requestId (us ++ [.removeByTags tags])) key =
          entry? (({} : Store).after requestId us) key) := by
  have hkeyed : (({} : Store).after requestId us).IsKeyed :=
    isKeyed_after isKeyed_empty requestId us
  have hevicted : entry? (({} : Store).after requestId (us ++ [.removeByTags tags])) key =
      (Option.filter (fun e => tags.all fun tag => !e.tags.contains tag) <|
        entry? (({} : Store).after requestId us) key) := by
    rw [after_append]
    exact entry?_removeByTags hkeyed tags key
  -- The empty store has no entry, so whatever is there now has been written since.
  have htags : ∀ e, entry? (({} : Store).after requestId us) key = some e →
      e.tags = writer.tagList := by
    intro e he
    have hcarried := tags_of_after isKeyed_empty he
    rw [hwriter] at hcarried
    exact hcarried
  constructor
  · rintro ⟨tag, hmem, htag⟩
    have hnone : entry? (({} : Store).after requestId (us ++ [.removeByTags tags])) key = none := by
      rw [hevicted, Option.filter_eq_none_iff]
      intro e he hkept
      have hspared := List.all_eq_true.mp hkept tag hmem
      rw [htags e he] at hspared
      simp [htag] at hspared
    refine ⟨hnone, ?_⟩
    rintro next factory rfl hvs
    refine ⟨_, getLast?_run .., ?_⟩
    rw [after_append]
    exact produced_serve_of_entry?_eq_none (entry?_after_eq_none
      (isKeyed_after isKeyed_empty requestId _) hvs hnone)
  · intro hspared
    rw [hevicted]
    cases he : entry? (({} : Store).after requestId us) key with
    | none => rfl
    | some e =>
        refine Option.filter_eq_some_iff.mpr ⟨rfl, List.all_eq_true.mpr fun tag hmem => ?_⟩
        rw [htags e he]
        simp [hspared tag hmem]

/-- A glance without tags does not save the outage from the eviction of its tag. -/
theorem evicted_outage_is_produced_again :
    ∃ served, (({} : Store).run none [
        .read stockQuery (.ok outage), .read stockGlance (.ok (.plain .null)),
        .removeByTags ["stock"], .remove "shop",
        .read stockQuery (.ok (.plain .null))]).getLast? = some served
      ∧ served.produced = true := by
  have hreached := eviction_reaches_what_was_written none
    [.read stockQuery (.ok outage), .read stockGlance (.ok (.plain .null))] [.remove "shop"]
    "stock" ["stock"] stockQuery rfl
  have hevicted := hreached.1 ⟨"stock", List.mem_singleton_self _, List.mem_singleton_self _⟩
  refine hevicted.2 stockQuery (.ok (.plain .null)) rfl fun u hu => ?_
  obtain rfl := List.mem_singleton.mp hu
  exact id

/-- The outage was produced under a tag, is put back by a read without tags, and outlives
the eviction of the tag. -/
theorem outage_put_back_without_tags_stays :
    ("stock" : Text) ∈ stockQuery.tagList
      ∧ ∃ produced glanced evicted again, ({} : Store).run none [
          .read stockQuery (.ok outage),
          .read { stockQuery with tags := none } (.ok (.plain .null)),
          .removeByTags ["stock"], .read stockQuery (.ok (.plain .null))] =
            [produced, glanced, evicted, again]
        ∧ (produced.produced = true ∧ produced.answer = .ok (some outage))
        ∧ (glanced.produced = false ∧ glanced.answer = .ok (some outage))
        ∧ (again.produced = false ∧ again.answer = .ok (some outage)) :=
  ⟨List.mem_singleton_self _, _, _, _, _, rfl, ⟨rfl, rfl⟩, ⟨rfl, rfl⟩, ⟨rfl, rfl⟩⟩

end Store

end Triage
