import Triage.Proofs.Entries

/-!
# How long failures are kept

A value that is created is written with the usual time, and if it is a failure and there
is a time for failures, it is written once more with that one. The second writing stands,
unless its end is no moment of the calendar any more (`Store.entry?_serve_of_created`).
Nothing relates the two times: a failure goes no later than a success would have exactly
if its time is not the longer one (`Store.failure_expires_by_then_iff`), and settings in
which it is are accepted like any others (`Store.outage_expires_after_stock`).
-/

namespace Triage

/-- Whether a moment is one of the calendar. -/
abbrev Moment.InCalendar (moment : Int) : Prop := Moment.first ≤ moment ∧ moment ≤ Moment.last

/-- The moment from which a value counts no more that is created for a query: the time for
failures counts if it can be kept. -/
def Query.expiry (q : Query) (now : Int) (value : Produced) : Int :=
  match q.restampTime? value with
  | none => now + q.settings.options.lifetime
  | some time =>
    if Moment.InCalendar (now + time) then now + time else now + q.settings.options.lifetime

namespace Store

variable {s : Store} {q : Query} {value : Produced} {f : Int}

/-! ## The entry of a value that has just been created -/

/-- A value that is created is written with the usual time first. -/
theorem lookup_of_created (hlive : s.live? q.key = none)
    (hrange : Moment.InCalendar (s.now + q.settings.options.lifetime)) (value : Produced) :
    ∃ looked, s.lookup q (.ok value) = ⟨.ok value, looked, true⟩ ∧ looked.now = s.now
      ∧ looked.entry? q.key =
        some ⟨value, s.now + q.settings.options.lifetime, q.tagList⟩ := by
  rcases s.lookup_cases q (.ok value) with
    ⟨value', hlive', -⟩ | ⟨raised, -, hfactory, -⟩ | ⟨value', t, -, hfactory, hset, -⟩
      | ⟨value', looked, -, hfactory, hset, hlook⟩
  · cases hlive.symm.trans hlive'
  · cases hfactory
  · obtain ⟨looked, hset'⟩ := exists_set (s := s.remove q.key) q.key value' q.tagList hrange
    cases hset.symm.trans hset'
  · obtain rfl := Except.ok.inj hfactory
    have hnow : looked.now = (s.remove q.key).now := now_of_set hset
    have hentry := entry?_of_set hset q.key
    rw [if_pos rfl] at hentry
    exact ⟨looked, hlook, hnow, hentry⟩

/-- Stamping writes the value once more, if its time is for that and can be kept. -/
theorem stamp_cases (s : Store) (q : Query) (value : Produced) :
    (q.restampTime? value = none ∧ s.stamp q value = .ok s)
      ∨ ∃ time, q.restampTime? value = some time
        ∧ ((Moment.InCalendar (s.now + time) ∧ ∃ s', s.stamp q value = .ok s')
          ∨ (¬Moment.InCalendar (s.now + time) ∧ ∃ t, s.stamp q value = .error t)) := by
  cases htime : q.restampTime? value with
  | none => exact Or.inl ⟨rfl, stamp_of_restampTime?_eq_none htime⟩
  | some time =>
      have hlifetime := Query.lifetime_of_restampTime? htime
      refine Or.inr ⟨time, rfl, ?_⟩
      unfold stamp
      rw [htime]
      dsimp only
      by_cases hrange : Moment.InCalendar (s.now + time)
      · exact Or.inl ⟨hrange, exists_set q.key value q.tagList (hlifetime ▸ hrange)⟩
      · refine Or.inr ⟨hrange, ?_⟩
        cases hset : s.set q.key value q.settings.failureOptions q.tagList with
        | error t => exact ⟨t, rfl⟩
        | ok s' => exact absurd (hlifetime ▸ (set_eq_ok_iff.mp hset).1) hrange

theorem entry?_serve_of_created (hlive : s.live? q.key = none)
    (hrange : Moment.InCalendar (s.now + q.settings.options.lifetime))
    (requestId : Option Text) :
    entry? (s.serve q (.ok value) requestId).store q.key =
      some ⟨value, q.expiry s.now value, q.tagList⟩ := by
  obtain ⟨looked, hlook, hnow, hentry⟩ := lookup_of_created hlive hrange value
  have hanswer : (s.lookup q (.ok value)).answer = .ok value := congrArg (·.answer) hlook
  have hstore : (s.lookup q (.ok value)).store = looked := congrArg (·.store) hlook
  unfold Query.expiry
  rcases looked.stamp_cases q value with
    ⟨htime, hstamp⟩ | ⟨time, htime, ⟨hkept, s', hstamp⟩ | ⟨hlost, t, hstamp⟩⟩
  · rw [(serve_of_stamp hanswer (hstore ▸ hstamp) requestId).2, hstore, hentry, htime]
  · have hagain := entry?_of_stamp hstamp q.key
    rw [if_pos rfl, htime, hnow] at hagain
    rw [(serve_of_stamp hanswer (hstore ▸ hstamp) requestId).2, hagain, htime]
    simp only [if_pos (hnow ▸ hkept)]
  · rw [(serve_of_unstamped hanswer (hstore ▸ hstamp) requestId).2, hstore, hentry, htime]
    simp only [if_neg (hnow ▸ hlost)]

/-- A value whose usual time cannot be kept is not kept at all. -/
theorem entry?_serve_of_lost (hlive : s.live? q.key = none)
    (hrange : ¬Moment.InCalendar (s.now + q.settings.options.lifetime))
    (requestId : Option Text) :
    entry? (s.serve q (.ok value) requestId).store q.key = none := by
  rcases s.lookup_cases q (.ok value) with
    ⟨value', hlive', -⟩ | ⟨raised, -, hfactory, -⟩ | ⟨value', t, -, -, -, hlook⟩
      | ⟨value', s', -, -, hset, -⟩
  · cases hlive.symm.trans hlive'
  · cases hfactory
  · have hraised := serve_of_raised (congrArg (·.answer) hlook) requestId
    rw [hraised.2, hlook, entry?_remove, if_pos rfl]
  · exact absurd (set_eq_ok_iff.mp hset).1 hrange

/-! ## Failures and successes -/

/-- **When a failure goes no later than a success.** Where nothing counts under the key of a
query, a failure and a success that are created there leave an entry each, or neither does;
and the failure's ends no later exactly if the time for failures is no longer than the
shorter of the usual ones, or too long for the calendar. -/
theorem failure_expires_by_then_iff (s : Store) (q : Query) (requestId : Option Text)
    (i : Incident) (v : Value) (hf : q.settings.failureExpiration = some f)
    (hlive : s.live? q.key = none) :
    (Moment.InCalendar (s.now + q.settings.options.lifetime) →
      ∃ failed succeeded,
        entry? (s.serve q (.ok (.result (.failure i))) requestId).store q.key = some failed
        ∧ entry? (s.serve q (.ok (.result (.success v))) requestId).store q.key = some succeeded
        ∧ (failed.expires ≤ succeeded.expires ↔
          f ≤ min q.settings.expiration q.settings.localExpiration
            ∨ ¬Moment.InCalendar (s.now + f)))
    ∧ (¬Moment.InCalendar (s.now + q.settings.options.lifetime) →
      entry? (s.serve q (.ok (.result (.failure i))) requestId).store q.key = none
        ∧ entry? (s.serve q (.ok (.result (.success v))) requestId).store q.key = none) := by
  constructor
  · intro hrange
    refine ⟨_, _, entry?_serve_of_created hlive hrange requestId,
      entry?_serve_of_created hlive hrange requestId, ?_⟩
    have hfailed : q.restampTime? (.result (.failure i)) = some f := hf
    have hsucceeded : q.restampTime? (.result (.success v)) = none := rfl
    have hlifetime : q.settings.options.lifetime =
        min q.settings.expiration q.settings.localExpiration := rfl
    unfold Query.expiry
    rw [hfailed, hsucceeded, ← hlifetime]
    dsimp only
    split
    · rename_i hkept
      simp [hkept]
    · rename_i hlost
      simp [hlost]
  · intro hrange
    exact ⟨entry?_serve_of_lost hlive hrange requestId, entry?_serve_of_lost hlive hrange requestId⟩

theorem outage_goes_before_stock :
    ∃ failed succeeded,
      entry? (({} : Store).serve stockQuery (.ok outage) none).store "stock" = some failed
      ∧ entry? (({} : Store).serve stockQuery (.ok (.result (.success (.int 3)))) none).store
        "stock" = some succeeded
      ∧ failed.expires ≤ succeeded.expires := by
  obtain ⟨hkept, -⟩ := failure_expires_by_then_iff {} stockQuery none
    ⟨0, .ofCommon .runtimeError [.text "db down"]⟩ (.int 3) (f := 30000000) rfl rfl
  obtain ⟨failed, succeeded, hfailed, hsucceeded, hiff⟩ := hkept (by decide)
  exact ⟨failed, succeeded, hfailed, hsucceeded, hiff.mpr (Or.inl (by decide))⟩

/-- Settings that keep values for a minute and failures for an hour are accepted. -/
theorem outage_expires_after_stock :
    ∃ settings, CacheSettings.ofSeconds (.whole 60) (.whole 60) (some (.whole 3600)) = .ok settings
      ∧ (({} : Store).serve ⟨"stock", settings, none⟩ (.ok outage) none).store.entry? "stock" =
        some ⟨outage, 3600000000, []⟩
      ∧ (({} : Store).serve ⟨"stock", settings, none⟩ (.ok (.result (.success (.int 3))))
          none).store.entry? "stock" = some ⟨.result (.success (.int 3)), 60000000, []⟩ :=
  ⟨{ expiration := 60000000, localExpiration := 60000000, failureExpiration := some 3600000000 },
    rfl, rfl, rfl⟩

end Store

end Triage
