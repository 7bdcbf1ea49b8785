import Triage.Proofs.Lifetimes

/-!
# Completed reads leave live entries

Settings are accepted only if all their durations are positive, after the rounding to
whole microseconds (`CacheSettings.ofSeconds_eq_ok_iff`). So whatever a read writes ends
later than now, and a read that gives a value leaves an entry that counts
(`Store.live?_serve`). From there on one fact is carried along: the value counts under
the key. It stays until the key is removed, one of the tags that its entry has at that
moment is evicted, or time goes on (`CacheUse.Spares`); readers with other settings may
put the value back with other times and other tags, but not do away with it
(`Store.live?_after`).

What a further read may still come to is an error: a failure that it is to put back
beyond the last moment of the calendar (`Query.CanPutBack`).
-/

namespace Triage

/-! ## Accepted settings -/

/-- A number of seconds that comes to a positive duration, once it is rounded. -/
def Seconds.IsPositive (s : Seconds) : Prop := ∃ d, Duration.ofSeconds s = .ok d ∧ 0 < d

namespace CacheSettings

variable {e l : Seconds} {f : Option Seconds} {settings : CacheSettings}

/-- Settings are accepted exactly as the ones that carry the durations: that these are
positive is part of what settings are. -/
theorem ofDurations_eq_ok_iff {expiration localExpiration : Int}
    {failureExpiration : Option Int} :
    ofDurations expiration localExpiration failureExpiration = .ok settings ↔
      settings.expiration = expiration ∧ settings.localExpiration = localExpiration
        ∧ settings.failureExpiration = failureExpiration := by
  constructor
  · intro h
    unfold ofDurations at h
    split_ifs at h
    obtain rfl := Except.ok.inj h
    exact ⟨rfl, rfl, rfl⟩
  · rintro ⟨rfl, rfl, rfl⟩
    unfold ofDurations
    rw [dif_pos settings.expiration_pos, dif_pos settings.localExpiration_pos,
      dif_pos settings.failureExpiration_pos]

/-- Durations of which one is not positive are rejected by name. -/
theorem exists_notPositive {expiration localExpiration : Int} {failureExpiration : Option Int}
    (h : ¬(0 < expiration ∧ 0 < localExpiration ∧ ∀ d, failureExpiration = some d → 0 < d)) :
    ∃ name,
      ofDurations expiration localExpiration failureExpiration = .error (.notPositive name) := by
  unfold ofDurations
  split_ifs with he hl hf
  · exact absurd ⟨he, hl, hf⟩ h
  all_goals exact ⟨_, rfl⟩

theorem ofSeconds_eq {expiration localExpiration : Int} {failureExpiration : Option Int}
    (he : Duration.ofSeconds e = .ok expiration) (hl : Duration.ofSeconds l = .ok localExpiration)
    (hf : optionalDuration f = .ok failureExpiration) :
    ofSeconds e l f = ofDurations expiration localExpiration failureExpiration := by
  simp only [ofSeconds, he, hl, hf]

theorem ofSeconds_eq_ok_iff :
    ofSeconds e l f = .ok settings ↔
      Duration.ofSeconds e = .ok settings.expiration
        ∧ Duration.ofSeconds l = .ok settings.localExpiration
        ∧ optionalDuration f = .ok settings.failureExpiration := by
  constructor
  · intro h
    cases he : Duration.ofSeconds e with
    | error t => simp [ofSeconds, he] at h
    | ok expiration =>
        cases hl : Duration.ofSeconds l with
        | error t => simp [ofSeconds, he, hl] at h
        | ok localExpiration =>
            cases hf : optionalDuration f with
            | error t => simp [ofSeconds, he, hl, hf] at h
            | ok failureExpiration =>
                rw [ofSeconds_eq he hl hf] at h
                obtain ⟨rfl, rfl, rfl⟩ := ofDurations_eq_ok_iff.mp h
                exact ⟨rfl, rfl, rfl⟩
  · rintro ⟨he, hl, hf⟩
    rw [ofSeconds_eq he hl hf]
    exact ofDurations_eq_ok_iff.mpr ⟨rfl, rfl, rfl⟩

theorem optionalDuration_eq_ok_iff {failureExpiration : Option Int} :
    optionalDuration f = .ok failureExpiration ↔
      (f = none ∧ failureExpiration = none)
        ∨ ∃ s d, f = some s ∧ failureExpiration = some d ∧ Duration.ofSeconds s = .ok d := by
  cases f with
  | none => simp [optionalDuration, eq_comm]
  | some s => cases hs : Duration.ofSeconds s <;> simp [optionalDuration, hs, eq_comm]

theorem exists_ofSeconds_iff (e l : Seconds) (f : Option Seconds) :
    (∃ settings, ofSeconds e l f = .ok settings) ↔
      e.IsPositive ∧ l.IsPositive ∧ ∀ s, f = some s → s.IsPositive := by
  constructor
  · rintro ⟨settings, h⟩
    obtain ⟨he, hl, hf⟩ := ofSeconds_eq_ok_iff.mp h
    refine ⟨⟨_, he, settings.expiration_pos⟩, ⟨_, hl, settings.localExpiration_pos⟩, ?_⟩
    rintro s rfl
    rcases optionalDuration_eq_ok_iff.mp hf with ⟨hnone, -⟩ | ⟨s', d, hsome, hd, hs'⟩
    · cases hnone
    · obtain rfl := Option.some.inj hsome
      exact ⟨d, hs', settings.failureExpiration_pos d hd⟩
  · rintro ⟨⟨expiration, he, hepos⟩, ⟨localExpiration, hl, hlpos⟩, hf⟩
    cases f with
    | none =>
        exact ⟨{ expiration, localExpiration }, ofSeconds_eq_ok_iff.mpr ⟨he, hl, rfl⟩⟩
    | some s =>
        obtain ⟨d, hs, hdpos⟩ := hf s rfl
        refine ⟨⟨expiration, localExpiration, some d, hepos, hlpos, ?_⟩,
          ofSeconds_eq_ok_iff.mpr ⟨he, hl, ?_⟩⟩
        · rintro d' hd'
          exact Option.some.inj hd' ▸ hdpos
        · exact optionalDuration_eq_ok_iff.mpr (Or.inr ⟨s, d, rfl, rfl, hs⟩)

/-- Configured settings leave out a failure time of no seconds before anything is rounded:
what only rounds to nothing is not left out, and not accepted. -/
theorem exists_ofConfigured_iff (e l : Seconds) (f : Option Seconds) :
    (∃ settings, ofConfigured e l f = .ok settings) ↔
      e.IsPositive ∧ l.IsPositive ∧ ∀ s, f = some s → s.isZero = true ∨ s.IsPositive := by
  unfold ofConfigured
  rw [exists_ofSeconds_iff]
  refine and_congr_right fun _ => and_congr_right fun _ => forall_congr' fun s => ?_
  cases hzero : s.isZero <;> simp [Option.filter_eq_some_iff, hzero]

/-- A failure time that only rounds to nothing is named as not positive. -/
theorem ofConfigured_of_roundsToZero {s : Seconds} (he : e.IsPositive) (hl : l.IsPositive)
    (hzero : s.isZero = false) (hs : Duration.ofSeconds s = .ok 0) :
    ofConfigured e l (some s) = .error (.notPositive "failure_expiration") := by
  obtain ⟨expiration, he, hepos⟩ := he
  obtain ⟨localExpiration, hl, hlpos⟩ := hl
  have hkept : (some s).filter (!·.isZero) = some s := by simp [hzero]
  have hf : optionalDuration (some s) = .ok (some 0) :=
    optionalDuration_eq_ok_iff.mpr (Or.inr ⟨s, 0, rfl, rfl, hs⟩)
  unfold ofConfigured
  rw [hkept, ofSeconds_eq he hl hf, ofDurations, dif_pos hepos, dif_pos hlpos, dif_neg (by simp)]

theorem lifetime_options_pos (settings : CacheSettings) : 0 < settings.options.lifetime :=
  Int.lt_min.mpr ⟨settings.expiration_pos, settings.localExpiration_pos⟩

end CacheSettings

/-! ## A read leaves its value -/

/-- Whether a value, if it is to be put back for a query, can be: the time for failures
ends before the calendar does. -/
def Query.CanPutBack (q : Query) (now : Int) (value : Produced) : Prop :=
  ∀ time, q.restampTime? value = some time → Moment.InCalendar (now + time)

namespace Store

variable {s s' : Store} {key : Text} {q : Query} {value : Produced}
  {factory : Except Raised Produced} {requestId : Option Text}

theorem live?_eq_some_iff :
    s.live? key = some value ↔
      ∃ e, s.entry? key = some e ∧ e.value = value ∧ s.now < e.expires := by
  rw [live?_eq_map, Option.map_eq_some_iff]
  unfold held? isLive
  simp only [Option.filter_eq_some_iff, decide_eq_true_eq]
  exact exists_congr fun e => and_assoc.trans (and_congr_right fun _ => and_comm)

theorem now_of_stamp (h : s.stamp q value = .ok s') : s'.now = s.now := by
  unfold stamp at h
  split at h
  · exact Except.ok.inj h ▸ rfl
  · exact now_of_set h

theorem now_lookup (s : Store) (q : Query) (factory : Except Raised Produced) :
    (s.lookup q factory).store.now = s.now := by
  rcases s.lookup_store_cases q factory with heq | heq | ⟨value, hset⟩
  · rw [heq]
  · rw [heq]
    rfl
  · rw [now_of_set hset]
    rfl

theorem now_serve (s : Store) (q : Query) (factory : Except Raised Produced)
    (requestId : Option Text) : (s.serve q factory requestId).store.now = s.now := by
  rcases s.serve_store_cases q factory requestId with heq | ⟨value, -, hstamp⟩
  · rw [heq, now_lookup]
  · rw [now_of_stamp hstamp, now_lookup]

/-- What a look comes to counts afterwards, found or created. -/
theorem live?_of_lookup (h : (s.lookup q factory).answer = .ok value) :
    (s.lookup q factory).store.live? q.key = some value := by
  rcases s.lookup_cases q factory with
    ⟨value', hlive, hlook⟩ | ⟨raised, -, -, hlook⟩ | ⟨value', t, -, -, -, hlook⟩
      | ⟨value', s', -, -, hset, hlook⟩ <;> rw [hlook] at h ⊢ <;> cases h
  · exact hlive
  · refine live?_eq_some_iff.mpr ⟨_, (entry?_of_set hset q.key).trans (if_pos rfl), rfl, ?_⟩
    have hpos := q.settings.lifetime_options_pos
    have hnow := now_of_set hset
    dsimp only
    omega

/-- A value that is put back counts as it did, for a while from now. -/
theorem live?_of_stamp (hlive : s.live? q.key = some value) (h : s.stamp q value = .ok s') :
    s'.live? q.key = some value := by
  obtain ⟨e, hentry, hvalue, hexpires⟩ := live?_eq_some_iff.mp hlive
  have hnow := now_of_stamp h
  have hagain := (entry?_of_stamp h q.key).trans (if_pos rfl)
  cases htime : q.restampTime? value with
  | none =>
      rw [htime] at hagain
      exact live?_eq_some_iff.mpr ⟨e, hagain.trans hentry, hvalue, hnow ▸ hexpires⟩
  | some time =>
      rw [htime] at hagain
      have hpos := Query.pos_of_restampTime? htime
      refine live?_eq_some_iff.mpr ⟨_, hagain, rfl, ?_⟩
      dsimp only
      omega

theorem live?_serve (h : (s.serve q factory requestId).answer = .ok value) :
    (s.serve q factory requestId).store.live? q.key = some value := by
  rcases s.serve_cases q factory requestId with
    ⟨raised, -, hanswer, -⟩ | ⟨value', t, -, -, hanswer, -⟩
      | ⟨value', s', hlook, hstamp, hanswer, rfl⟩ <;> rw [hanswer] at h <;> cases h
  exact live?_of_stamp (live?_of_lookup hlook) hstamp

theorem exists_stamp_iff : (∃ s', s.stamp q value = .ok s') ↔ q.CanPutBack s.now value := by
  rcases s.stamp_cases q value with
    ⟨htime, hstamp⟩ | ⟨time, htime, ⟨hkept, s', hstamp⟩ | ⟨hlost, t, hstamp⟩⟩
  · refine iff_of_true ⟨s, hstamp⟩ ?_
    intro time h
    cases htime.symm.trans h
  · refine iff_of_true ⟨s', hstamp⟩ ?_
    intro time' h
    obtain rfl := Option.some.inj (htime.symm.trans h)
    exact hkept
  · refine iff_of_false ?_ (fun hcan => hlost (hcan time htime))
    rintro ⟨s', hstamp'⟩
    cases hstamp.symm.trans hstamp'

/-- The one trouble of putting a value back is the end of the calendar. -/
theorem stamp_of_not_canPutBack (h : ¬q.CanPutBack s.now value) :
    s.stamp q value = .error .momentOutOfRange := by
  cases hstamp : s.stamp q value with
  | ok s' => exact absurd (exists_stamp_iff.mp ⟨s', hstamp⟩) h
  | error t =>
      unfold stamp set Moment.after at hstamp
      split at hstamp
      · cases hstamp
      · dsimp only at hstamp
        split_ifs at hstamp
        rw [Except.error.inj hstamp]

/-- A read of a value that counts, with whatever settings, produces nothing. It gives the
value unless it cannot put it back. -/
theorem serve_of_live (hlive : s.live? q.key = some value) (factory : Except Raised Produced)
    (requestId : Option Text) :
    (s.serve q factory requestId).produced = false
      ∧ (q.CanPutBack s.now value → (s.serve q factory requestId).answer = .ok value)
      ∧ (¬q.CanPutBack s.now value →
        (s.serve q factory requestId).answer = .error (.trouble .momentOutOfRange)
          ∧ (s.serve q factory requestId).store = s) := by
  have hlook := lookup_of_live hlive factory
  have hanswer : (s.lookup q factory).answer = .ok value := congrArg (·.answer) hlook
  have hstore : (s.lookup q factory).store = s := congrArg (·.store) hlook
  refine ⟨by rw [produced_serve, hlook], ?_, ?_⟩
  · intro hcan
    obtain ⟨s', hstamp⟩ := exists_stamp_iff.mpr hcan
    exact (serve_of_stamp hanswer (hstore.symm ▸ hstamp) requestId).1
  · intro hcannot
    have hstamp := stamp_of_not_canPutBack hcannot
    have hserved := serve_of_unstamped hanswer (hstore.symm ▸ hstamp) requestId
    exact ⟨hserved.1, hserved.2.trans hstore⟩

end Store

/-! ## What a value outlives -/

/-- Whether a use of a cache leaves the value of a key alone whose entry has these tags: it
does not remove the key, evicts none of the tags, and does not move time on. -/
def CacheUse.Spares (key : Text) (tags : List Text) : CacheUse → Prop
  | .read .. => True
  | .remove other => other ≠ key
  | .removeByTags evicted => ∀ tag ∈ evicted, tag ∉ tags
  | .advance duration => duration ≤ 0

namespace Store

variable {s s' : Store} {key : Text} {q : Query} {value : Produced}
  {factory : Except Raised Produced} {requestId : Option Text} {u : CacheUse}

/-- Whether each of several uses leaves the value of a key alone. The tags are the ones that
the entry has by then, which a read may have changed. -/
def AllSpare (s : Store) (requestId : Option Text) (key : Text) : List CacheUse → Prop
  | [] => True
  | u :: us =>
    (∀ e, s.entry? key = some e → u.Spares key e.tags)
      ∧ (s.use requestId u).store.AllSpare requestId key us

/-- A value counts at least as long as its entry stays and time does not go on. -/
theorem live?_mono (hentry : s'.entry? key = s.entry? key) (hnow : s'.now ≤ s.now)
    (hlive : s.live? key = some value) : s'.live? key = some value := by
  obtain ⟨e, he, hvalue, hexpires⟩ := live?_eq_some_iff.mp hlive
  exact live?_eq_some_iff.mpr ⟨e, hentry.trans he, hvalue, by omega⟩

theorem live?_serve_of_live (hlive : s.live? key = some value) (q : Query)
    (factory : Except Raised Produced) (requestId : Option Text) :
    (s.serve q factory requestId).store.live? key = some value := by
  by_cases hkey : key = q.key
  · subst hkey
    obtain ⟨-, hkept, hlost⟩ := serve_of_live hlive factory requestId
    by_cases hcan : q.CanPutBack s.now value
    · exact live?_serve (hkept hcan)
    · rw [(hlost hcan).2]
      exact hlive
  · exact live?_mono (entry?_serve_of_ne s factory requestId hkey)
      (Int.le_of_eq (now_serve s q factory requestId)) hlive

theorem now_removeByTags (s : Store) (tags : List Text) :
    (tags.foldl removeByTag s).now = s.now := by
  induction tags generalizing s with
  | nil => rfl
  | cons tag tags ih => exact ih (s.removeByTag tag)

theorem now_use_advance_le {duration : Int} (hd : duration ≤ 0) :
    (s.use requestId (.advance duration)).store.now ≤ s.now := by
  unfold use advance Moment.after
  dsimp only
  split_ifs
  · dsimp only
    omega
  · exact Int.le_refl s.now

theorem entry?_use_advance (s : Store) (requestId : Option Text) (duration : Int)
    (key : Text) : (s.use requestId (.advance duration)).store.entry? key = s.entry? key := by
  unfold entry?
  rw [entries_use_advance]

/-- One use that leaves a value alone leaves it counting. -/
theorem live?_use (hs : s.IsKeyed) (hlive : s.live? key = some value)
    (hspares : ∀ e, s.entry? key = some e → u.Spares key e.tags) :
    (s.use requestId u).store.live? key = some value := by
  obtain ⟨e, hentry, hvalue, hexpires⟩ := live?_eq_some_iff.mp hlive
  cases u with
  | read q factory => exact live?_serve_of_live hlive q factory requestId
  | remove other =>
      have hne : key ≠ other := Ne.symm (hspares e hentry)
      refine live?_mono (s := s) ?_ (Int.le_refl _) hlive
      exact (entry?_remove s other key).trans (if_neg hne)
  | removeByTags evicted =>
      have hfree : ∀ tag ∈ evicted, tag ∉ e.tags := hspares e hentry
      refine live?_mono (s := s) ?_ (Int.le_of_eq (now_removeByTags s evicted)) hlive
      refine (entry?_removeByTags hs evicted key).trans ?_
      rw [hentry, Option.filter_eq_some_iff]
      simpa using hfree
  | advance duration =>
      exact live?_mono (entry?_use_advance s requestId duration key)
        (now_use_advance_le (hspares e hentry)) hlive

/-- A value that counts does so after any uses that leave it alone. -/
theorem live?_after {us : List CacheUse} (hs : s.IsKeyed) (hlive : s.live? key = some value)
    (hspare : s.AllSpare requestId key us) :
    (s.after requestId us).live? key = some value := by
  induction us generalizing s with
  | nil => exact hlive
  | cons u us ih =>
      obtain ⟨hspares, hrest⟩ := hspare
      exact ih (isKeyed_use hs requestId u) (live?_use hs hlive hspares) hrest

/-- **Completed reads leave live entries.** In every state that a cache comes to, a read that
gives a value leaves an entry of the key that ends later than now and has the value. As long as
the key is not removed, none of the tags that its entry has by then is evicted, and time does not
go on, every further read of the key gives the value without having it produced, whatever its
settings; only if it is to put a failure back beyond the end of the calendar, it fails instead
and leaves the cache as it is. Settings are accepted exactly if all their durations are positive
once they are rounded. -/
theorem completed_reads_leave_live_entries :
    (∀ (requestId : Option Text) (us : List CacheUse) (q : Query)
        (factory : Except Raised Produced) (value : Produced),
      let read := (({} : Store).after requestId us).serve q factory requestId
      read.answer = .ok value →
        (∃ e, read.store.entry? q.key = some e ∧ e.value = value ∧ read.store.now < e.expires)
        ∧ ∀ vs, read.store.AllSpare requestId q.key vs →
          ∀ (q' : Query) (factory' : Except Raised Produced), q'.key = q.key →
            let s := read.store.after requestId vs
            let again := s.serve q' factory' requestId
            again.produced = false
              ∧ (q'.CanPutBack s.now value → again.answer = .ok value)
              ∧ (¬q'.CanPutBack s.now value →
                again.answer = .error (.trouble .momentOutOfRange) ∧ again.store = s))
    ∧ ∀ (e l : Seconds) (f : Option Seconds),
      ((∃ settings, CacheSettings.ofSeconds e l f = .ok settings) ↔
        e.IsPositive ∧ l.IsPositive ∧ ∀ s, f = some s → s.IsPositive)
      ∧ ((∃ settings, CacheSettings.ofConfigured e l f = .ok settings) ↔
        e.IsPositive ∧ l.IsPositive ∧ ∀ s, f = some s → s.isZero = true ∨ s.IsPositive)
      ∧ (∀ settings, CacheSettings.ofSeconds e l f = .ok settings →
        Duration.ofSeconds e = .ok settings.expiration
          ∧ Duration.ofSeconds l = .ok settings.localExpiration
          ∧ CacheSettings.optionalDuration f = .ok settings.failureExpiration)
      ∧ (∀ expiration localExpiration failureExpiration,
        Duration.ofSeconds e = .ok expiration → Duration.ofSeconds l = .ok localExpiration →
        CacheSettings.optionalDuration f = .ok failureExpiration →
        ¬(0 < expiration ∧ 0 < localExpiration ∧ ∀ d, failureExpiration = some d → 0 < d) →
        ∃ name, CacheSettings.ofSeconds e l f = .error (.notPositive name))
      ∧ ∀ s, f = some s → s.isZero = false → Duration.ofSeconds s = .ok 0 →
        e.IsPositive → l.IsPositive →
        CacheSettings.ofConfigured e l f = .error (.notPositive "failure_expiration") := by
  constructor
  · intro requestId us q factory value read hread
    have hkeyed : read.store.IsKeyed :=
      isKeyed_serve (isKeyed_after isKeyed_empty requestId us) q factory requestId
    have hlive : read.store.live? q.key = some value := live?_serve hread
    refine ⟨live?_eq_some_iff.mp hlive, ?_⟩
    intro vs hspare q' factory' hkey
    exact serve_of_live (hkey ▸ live?_after hkeyed hlive hspare) factory' requestId
  · intro e l f
    refine ⟨CacheSettings.exists_ofSeconds_iff e l f, CacheSettings.exists_ofConfigured_iff e l f,
      ?_, ?_, ?_⟩
    · intro settings h
      exact CacheSettings.ofSeconds_eq_ok_iff.mp h
    · intro expiration localExpiration failureExpiration he hl hf hnot
      rw [CacheSettings.ofSeconds_eq he hl hf]
      exact CacheSettings.exists_notPositive hnot
    · rintro s rfl hzero hs he hl
      exact CacheSettings.ofConfigured_of_roundsToZero he hl hzero hs

/-- An outage that has been read is read again by someone who leaves failures as they are, after
another key was removed and another tag evicted. A failure time of a tenth of a microsecond is
not accepted. -/
theorem outage_is_read_again :
    (((({} : Store).serve stockQuery (.ok outage) none).store.after none
        [.remove "price", .removeByTags ["price"]]).serve stockGlance
          (.ok (.plain .null)) none).answer = .ok outage
      ∧ CacheSettings.ofConfigured (.whole 600) (.whole 600)
          (some (.real (.ofRatio false 1 10000000))) =
        .error (.notPositive "failure_expiration") := by
  obtain ⟨hreads, hsettings⟩ := completed_reads_leave_live_entries
  obtain ⟨-, hagain⟩ := hreads none [] stockQuery (.ok outage) outage rfl
  obtain ⟨-, hkept, -⟩ := hagain [.remove "price", .removeByTags ["price"]]
    ⟨fun e _ => by simp [CacheUse.Spares, stockQuery], fun e he => by
      obtain rfl := Option.some.inj he
      simp [CacheUse.Spares, Query.tagList, stockQuery], trivial⟩ stockGlance _ rfl
  obtain ⟨-, -, -, -, hrounds⟩ := hsettings (.whole 600) (.whole 600)
    (some (.real (.ofRatio false 1 10000000)))
  exact ⟨hkept (fun time h => nomatch h),
    hrounds _ rfl rfl rfl ⟨600000000, rfl, by decide⟩ ⟨600000000, rfl, by decide⟩⟩

/-- Settings that keep failures for ten thousand years are accepted, but a failure that
was read with others cannot be read with them. -/
theorem outage_is_not_read_for_ages :
    ∃ settings, CacheSettings.ofSeconds (.whole 600) (.whole 600) (some (.whole 300000000000)) =
        .ok settings
      ∧ (({} : Store).serve stockQuery (.ok outage) none).answer = .ok outage
      ∧ ((({} : Store).serve stockQuery (.ok outage) none).store.serve ⟨"stock", settings, none⟩
          (.ok (.plain .null)) none).answer = .error (.trouble .momentOutOfRange) :=
  ⟨{ expiration := 600000000, localExpiration := 600000000
     failureExpiration := some 300000000000000000 }, rfl, rfl, rfl⟩

end Store

end Triage
