import Triage.Memo

/-!
# What a memo keeps

A memo is asked and written at one number at a time. What it holds under a
number stays there: a later classification finds it, and filling in changes it
once at most. So for a fixed path and request id the problem *as it is
presented*, with everything open filled in, no longer changes once an incident
has been classified (`presented?_classify`, `presented?_fill`).
-/

namespace Triage

namespace Memo

/-! ## Reading back -/

theorem find?_remember (m : Memo) (number : Nat) (p : Problem) (n : Nat) :
    (m.remember number p).find? n = if number = n then some ⟨m.next, p⟩ else m.find? n := by
  by_cases h : number = n
  · simp [find?, remember, h]
  · simp [find?, remember, h]

theorem lt_unusedFrom {m : Memo} {entry : Nat × Remembered} (h : entry ∈ m.entries) (n : Nat) :
    entry.1 < m.unusedFrom n := by
  obtain ⟨entries, next⟩ := m
  induction entries with
  | nil => cases h
  | cons first rest ih =>
      rcases List.mem_cons.mp h with rfl | hrest
      · exact Nat.lt_of_lt_of_le (Nat.lt_succ_self _) (Nat.le_max_right ..)
      · exact Nat.lt_of_lt_of_le (ih hrest) (Nat.le_max_left ..)

@[simp] theorem find?_unusedFrom (m : Memo) (n : Nat) : m.find? (m.unusedFrom n) = none := by
  have hnone : (m.entries.find? fun entry => entry.1 == m.unusedFrom n) = none :=
    List.find?_eq_none.mpr fun entry hentry => by simpa using Nat.ne_of_lt (lt_unusedFrom hentry n)
  unfold find?
  rw [hnone]
  rfl

theorem find?_revise (m : Memo) (number : Nat) (change : Problem → Problem) (n : Nat) :
    (m.revise number change).find? n =
      if number = n then (m.find? n).map fun r => { r with problem := change r.problem }
      else m.find? n := by
  obtain ⟨entries, next⟩ := m
  simp only [find?, revise]
  induction entries with
  | nil => simp
  | cons entry rest ih =>
      obtain ⟨k, r⟩ := entry
      by_cases hk : k = n
      · subst hk
        by_cases h : k = number
        · simp [h]
        · have hne : number ≠ k := fun heq => h heq.symm
          simp [h, hne]
      · by_cases h : k = number
        · have hne : number ≠ n := fun heq => hk (h.trans heq)
          simpa [h, hk, hne] using ih
        · simpa [h, hk] using ih

theorem find?_fill (m : Memo) (number : Nat) (path : Text) (requestId : Option Text)
    (n : Nat) :
    (m.fill number path requestId).find? n =
      if number = n then
        (m.find? n).map fun r => { r with problem := r.problem.withDefaults path requestId }
      else m.find? n :=
  m.find?_revise number (·.withDefaults path requestId) n

/-! ## Classifying -/

/-- The three ways of a classification: the incident is known; it is classified
now and remembered; or it cannot be classified, and the memo stays as it is. -/
theorem classify_cases (m : Memo) (i : Incident) (ambient : Value) (development : Bool) :
    (∃ r, m.find? i.number = some r ∧ m.classify i ambient development = (.ok r, m))
      ∨ (∃ p, m.find? i.number = none
          ∧ Triage.classify i.error ambient development = .ok p
          ∧ m.classify i ambient development = (.ok ⟨m.next, p⟩, m.remember i.number p))
      ∨ (∃ t, m.find? i.number = none
          ∧ Triage.classify i.error ambient development = .error t
          ∧ m.classify i ambient development = (.error t, m)) := by
  unfold classify
  cases hfind : m.find? i.number with
  | some r => exact Or.inl ⟨r, rfl, rfl⟩
  | none =>
      cases hclass : Triage.classify i.error ambient development with
      | ok p => exact Or.inr (Or.inl ⟨p, rfl, rfl, rfl⟩)
      | error t => exact Or.inr (Or.inr ⟨t, rfl, rfl, rfl⟩)

/-- A classification that gives a problem leaves it in the memo. -/
theorem find?_of_classify {m m' : Memo} {i : Incident} {ambient : Value} {development : Bool}
    {r : Remembered} (h : m.classify i ambient development = (.ok r, m')) :
    m'.find? i.number = some r := by
  rcases m.classify_cases i ambient development with
    ⟨r', hfind, heq⟩ | ⟨p, -, -, heq⟩ | ⟨t, -, -, heq⟩
  · obtain ⟨hr, rfl⟩ := Prod.mk.inj (heq.symm.trans h)
    rw [hfind, Except.ok.inj hr]
  · obtain ⟨hr, rfl⟩ := Prod.mk.inj (heq.symm.trans h)
    rw [find?_remember, if_pos rfl, Except.ok.inj hr]
  · cases (Prod.mk.inj (heq.symm.trans h)).1

/-- A classification that fails leaves no trace. -/
theorem eq_of_classify_error {m m' : Memo} {i : Incident} {ambient : Value}
    {development : Bool} {t : Trouble}
    (h : m.classify i ambient development = (.error t, m')) : m' = m := by
  rcases m.classify_cases i ambient development with
    ⟨r', -, heq⟩ | ⟨p, -, -, heq⟩ | ⟨t', -, -, heq⟩
  · cases (Prod.mk.inj (heq.symm.trans h)).1
  · cases (Prod.mk.inj (heq.symm.trans h)).1
  · exact (Prod.mk.inj (heq.symm.trans h)).2.symm

/-- What is remembered stays remembered, whatever is classified. -/
theorem find?_classify {m : Memo} {n : Nat} {r : Remembered} (h : m.find? n = some r)
    (i : Incident) (ambient : Value) (development : Bool) :
    (m.classify i ambient development).2.find? n = some r := by
  rcases m.classify_cases i ambient development with
    ⟨r', -, heq⟩ | ⟨p, hnone, -, heq⟩ | ⟨t, -, -, heq⟩
  · rw [heq]; exact h
  · have hne : i.number ≠ n := fun heqn => by rw [← heqn, hnone] at h; cases h
    rw [heq]
    show (m.remember i.number p).find? n = some r
    rw [find?_remember, if_neg hne, h]
  · rw [heq]; exact h

/-! ## Presenting

The entry of an incident changes when its problem is filled in, but only in what
was open. Compared after filling in for the request at hand, the entry before
and the entry after are the same. -/

/-- The problem of an incident as it is presented on a path under a request id,
once the incident is known. -/
def presented? (m : Memo) (path : Text) (requestId : Option Text) (n : Nat) :
    Option Problem :=
  (m.find? n).map fun r => r.problem.withDefaults path requestId

theorem presented?_fill (m : Memo) (number : Nat) (path : Text) (requestId : Option Text)
    (n : Nat) :
    (m.fill number path requestId).presented? path requestId n =
      m.presented? path requestId n := by
  unfold presented?
  rw [find?_fill]
  split
  · cases m.find? n with
    | none => rfl
    | some r => simp
  · rfl

theorem presented?_classify {m : Memo} {path : Text} {requestId : Option Text} {n : Nat}
    {q : Problem} (h : m.presented? path requestId n = some q) (i : Incident)
    (ambient : Value) (development : Bool) :
    (m.classify i ambient development).2.presented? path requestId n = some q := by
  obtain ⟨r, hr, rfl⟩ := Option.map_eq_some_iff.mp h
  unfold presented?
  rw [find?_classify hr]
  rfl

theorem presented?_of_classify {m m' : Memo} {i : Incident} {ambient : Value}
    {development : Bool} {r : Remembered}
    (h : m.classify i ambient development = (.ok r, m')) (path : Text)
    (requestId : Option Text) :
    m'.presented? path requestId i.number = some (r.problem.withDefaults path requestId) := by
  unfold presented?
  rw [find?_of_classify h]
  rfl

/-! ## Showing -/

/-- What an incident is presented as, asked about now. -/
def shown (m : Memo) (i : Incident) (ambient : Int) (development : Bool) (path : Text)
    (requestId : Option Text) : Except Trouble Problem :=
  (m.classify i (.int ambient) development).1.map fun r => r.problem.withDefaults path requestId

theorem shown_of_presented? {m : Memo} {i : Incident} {path : Text}
    {requestId : Option Text} {q : Problem}
    (h : m.presented? path requestId i.number = some q) (ambient : Int) (development : Bool) :
    m.shown i ambient development path requestId = .ok q := by
  obtain ⟨r, hr, rfl⟩ := Option.map_eq_some_iff.mp h
  unfold shown classify
  rw [hr]
  rfl

/-- An incident that nothing is remembered of is shown as what its error is. -/
theorem shown_of_unknown {m : Memo} {i : Incident} (h : m.find? i.number = none)
    (ambient : Int) (development : Bool) (path : Text) (requestId : Option Text) :
    m.shown i ambient development path requestId =
      (Triage.classify i.error (.int ambient) development).map
        (·.withDefaults path requestId) := by
  unfold shown classify
  rw [h]
  cases Triage.classify i.error (.int ambient) development <;> rfl

end Memo

end Triage
