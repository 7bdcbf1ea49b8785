import Mathlib.Data.List.DropRight
import Triage.Memo.Run
import Triage.Proofs.Remembering

/-!
# Incidents and requests keep apart

A memo is asked about several incidents in turn, over several requests. What is known
of one incident changes by the questions about that incident alone, and a new request
forgets it (`known_ask`). So after any run it is what the questions about the incident
since the last request began make of it, asked on their own: the *thread* of the
incident (`known_after_eq_thread`).

Which object an answer is, its serial number tells. Numbers are given out ascending and
each to one incident in one request (`Numbered`), and as long as the request lasts an
incident keeps its number (`numbered_later`).
-/

namespace Triage

/-- A problem with what is open filled in, if there is anything to fill it in from. -/
def Problem.filledFrom (p : Problem) : Option Filling → Problem
  | none => p
  | some f => p.withDefaults f.path f.requestId

/-! ## The thread of an incident -/

namespace Ask

/-- Whether a new request begins. -/
def isRenewal : Ask → Bool
  | .renew => true
  | .classify .. => false

/-- Whether the question is about the incident of a number. -/
def concerns (n : Nat) : Ask → Bool
  | .renew => false
  | .classify i .. => i.number == n

/-- The problem that the question alone makes of its incident, if it makes one. -/
def problem? : Ask → Option Problem
  | .renew => none
  | .classify i ambient development _ => (Triage.classify i.error ambient development).toOption

/-- A problem with what the question fills in. -/
def fillIn (p : Problem) : Ask → Problem
  | .renew => p
  | .classify _ _ _ filling => p.filledFrom filling

/-- The questions about an incident in the request that is going on after `qs`. -/
def thread (n : Nat) (qs : List Ask) : List Ask :=
  (qs.rtakeWhile fun q => !q.isRenewal).filter (·.concerns n)

/-- The number of the request that is going on after `qs`. -/
def request (qs : List Ask) : Nat := qs.countP isRenewal

theorem not_isRenewal_of_concerns {n : Nat} {q : Ask} (h : q.concerns n = true) :
    q.isRenewal = false := by
  cases q with
  | renew => cases h
  | classify i ambient development filling => rfl

theorem eq_of_concerns {n n' : Nat} {q : Ask} (h : q.concerns n = true)
    (h' : q.concerns n' = true) : n = n' := by
  cases q with
  | renew => cases h
  | classify i ambient development filling => exact (beq_iff_eq.mp h).symm.trans (beq_iff_eq.mp h')

/-- A question does not begin a request, so it is asked in the one that goes on after it. -/
theorem request_take_succ {qs : List Ask} {k n : Nat} {q : Ask} (hq : qs[k]? = some q)
    (hn : q.concerns n = true) : request (qs.take (k + 1)) = request (qs.take k) := by
  rw [List.take_add_one, hq, request, List.countP_append]
  simp [not_isRenewal_of_concerns hn, request]

theorem concerns_of_mem_thread {n : Nat} {qs : List Ask} {q : Ask} (h : q ∈ thread n qs) :
    q.concerns n = true :=
  (List.mem_filter.mp h).2

theorem thread_append_singleton (n : Nat) (qs : List Ask) (q : Ask) :
    thread n (qs ++ [q]) =
      if q.isRenewal then []
      else if q.concerns n then thread n qs ++ [q] else thread n qs := by
  unfold thread
  cases hrenewal : q.isRenewal with
  | true => rw [List.rtakeWhile_concat_neg _ _ _ (by simp [hrenewal])]; rfl
  | false =>
      rw [List.rtakeWhile_concat_pos _ _ _ (by simp [hrenewal]), List.filter_append]
      cases hconcerns : q.concerns n <;> simp [hconcerns]

end Ask

namespace Memo

/-! ## What is known of an incident -/

/-- The problem that an incident is known as. -/
def known (m : Memo) (n : Nat) : Option Problem := (m.find? n).map (·.problem)

/-- What a question makes of what is known of an incident. -/
def learn (n : Nat) (known : Option Problem) (q : Ask) : Option Problem :=
  if q.isRenewal then none
  else if q.concerns n then (known.or q.problem?).map q.fillIn
  else known

/-- Fills in what the problem of an incident leaves open, if there is anything to fill
it in from. -/
def fillFrom (m : Memo) (number : Nat) : Option Filling → Memo
  | none => m
  | some f => m.fill number f.path f.requestId

theorem known_remember (m : Memo) (number : Nat) (p : Problem) (n : Nat) :
    (m.remember number p).known n = if number = n then some p else m.known n := by
  unfold known
  rw [find?_remember]
  split <;> rfl

theorem find?_fillFrom (m : Memo) (number : Nat) (filling : Option Filling) (n : Nat) :
    (m.fillFrom number filling).find? n =
      if number = n then
        (m.find? n).map fun r => { r with problem := r.problem.filledFrom filling }
      else m.find? n := by
  cases filling with
  | none =>
      show m.find? n = _
      split
      · exact Option.map_id'.symm
      · rfl
  | some f => exact m.find?_fill number f.path f.requestId n

theorem known_fillFrom (m : Memo) (number : Nat) (filling : Option Filling) (n : Nat) :
    (m.fillFrom number filling).known n =
      if number = n then (m.known n).map (·.filledFrom filling) else m.known n := by
  unfold known
  rw [find?_fillFrom]
  split
  · rw [Option.map_map, Option.map_map]; rfl
  · rfl

theorem known_classify (m : Memo) (i : Incident) (ambient : Value) (development : Bool)
    (n : Nat) :
    (m.classify i ambient development).2.known n =
      if i.number = n then
        (m.known n).or (Triage.classify i.error ambient development).toOption
      else m.known n := by
  rcases m.classify_cases i ambient development with
    ⟨r, hfind, heq⟩ | ⟨p, hfind, hclass, heq⟩ | ⟨t, hfind, hclass, heq⟩
  · rw [heq]
    split
    · rename_i hn
      simp [known, ← hn, hfind]
    · rfl
  · rw [heq]
    show (m.remember i.number p).known n = _
    rw [known_remember]
    split
    · rename_i hn
      simp [known, ← hn, hfind, hclass, Except.toOption]
    · rfl
  · rw [heq, hclass]
    simp [Except.toOption]

/-- The two ways of a question about an incident: it cannot be classified, and nothing
changes; or the answer is its problem, with everything filled in, and so is the entry. -/
theorem ask_cases (m : Memo) (i : Incident) (ambient : Value) (development : Bool)
    (filling : Option Filling) :
    (∃ t, Triage.classify i.error ambient development = .error t ∧ m.find? i.number = none
        ∧ m.ask (.classify i ambient development filling) = (.error t, m))
      ∨ ∃ r memo, m.classify i ambient development = (.ok r, memo)
        ∧ m.ask (.classify i ambient development filling) =
          (.ok (some { r with problem := r.problem.filledFrom filling }),
            memo.fillFrom i.number filling) := by
  unfold ask
  dsimp only
  rcases m.classify_cases i ambient development with
    ⟨r, hfind, heq⟩ | ⟨p, hfind, hclass, heq⟩ | ⟨t, hfind, hclass, heq⟩
  · refine Or.inr ⟨r, m, heq, ?_⟩
    rw [heq]
    cases filling <;> rfl
  · refine Or.inr ⟨_, _, heq, ?_⟩
    rw [heq]
    cases filling <;> rfl
  · refine Or.inl ⟨t, hclass, hfind, ?_⟩
    rw [heq]

/-- **What a question makes known.** -/
theorem known_ask (m : Memo) (q : Ask) (n : Nat) : (m.ask q).2.known n = learn n (m.known n) q := by
  cases q with
  | renew => rfl
  | classify i ambient development filling =>
      have hclassified := m.known_classify i ambient development n
      rcases m.ask_cases i ambient development filling with
        ⟨t, hclass, hfind, heq⟩ | ⟨r, memo, hanswer, heq⟩
      · rw [heq]
        by_cases hn : i.number = n
        · have hnone : m.known n = none := by rw [known, ← hn, hfind]; rfl
          simp [learn, Ask.isRenewal, Ask.concerns, Ask.problem?, hn, hnone, hclass,
            Except.toOption]
        · simp [learn, Ask.isRenewal, Ask.concerns, hn]
      · rw [hanswer] at hclassified
        rw [heq, known_fillFrom, hclassified]
        by_cases hn : i.number = n
        · simp [learn, Ask.isRenewal, Ask.concerns, Ask.problem?, hn]
          rfl
        · simp [learn, Ask.isRenewal, Ask.concerns, hn]

theorem after_append_singleton (m : Memo) (qs : List Ask) (q : Ask) :
    m.after (qs ++ [q]) = ((m.after qs).ask q).2 := by
  simp [after]

theorem after_append (m : Memo) (ps qs : List Ask) : m.after (ps ++ qs) = (m.after ps).after qs :=
  List.foldl_append

theorem known_after (m : Memo) (qs : List Ask) (n : Nat) :
    (m.after qs).known n = qs.foldl (learn n) (m.known n) := by
  induction qs using List.reverseRecOn with
  | nil => rfl
  | append_singleton qs q ih => rw [after_append_singleton, known_ask, ih, List.foldl_append]; rfl

/-- Of all that is asked, the thread of an incident alone makes a difference to it. -/
theorem foldl_learn_thread (n : Nat) (qs : List Ask) :
    (Ask.thread n qs).foldl (learn n) none = qs.foldl (learn n) none := by
  induction qs using List.reverseRecOn with
  | nil => rfl
  | append_singleton qs q ih =>
      rw [Ask.thread_append_singleton, List.foldl_append, List.foldl_cons, List.foldl_nil]
      cases hrenewal : q.isRenewal with
      | true => simp [learn, hrenewal]
      | false =>
          cases hconcerns : q.concerns n with
          | true => simp [List.foldl_append, ih]
          | false => simp [ih, learn, hrenewal, hconcerns]

/-- **What is known of an incident, its thread has made known.** -/
theorem known_after_eq_thread (qs : List Ask) (n : Nat) :
    (({} : Memo).after qs).known n = (Ask.thread n qs).foldl (learn n) none := by
  rw [foldl_learn_thread, known_after]
  rfl

/-! ## Answers -/

/-- What an answer tells, whichever object it is. -/
def told : Except Trouble (Option Remembered) → Except Trouble (Option Problem) :=
  Except.map (Option.map (·.problem))

/-- An answer tells what is known already, or else what the incident is now. -/
theorem told_ask (m : Memo) (i : Incident) (ambient : Value) (development : Bool)
    (filling : Option Filling) :
    told (m.ask (.classify i ambient development filling)).1 =
      ((m.known i.number).elim (Triage.classify i.error ambient development) .ok).map
        fun p => some (p.filledFrom filling) := by
  unfold ask known told
  dsimp only
  rcases m.classify_cases i ambient development with
    ⟨r, hfind, heq⟩ | ⟨p, hfind, hclass, heq⟩ | ⟨t, hfind, hclass, heq⟩
  · rw [heq, hfind]
    cases filling <;> rfl
  · rw [heq, hfind, Option.map_none, Option.elim_none, hclass]
    cases filling <;> rfl
  · rw [heq, hfind, Option.map_none, Option.elim_none, hclass]
    rfl

theorem told_ask_congr {m m' : Memo} {q : Ask} {n : Nat} (hq : q.concerns n = true)
    (hknown : m.known n = m'.known n) : told (m.ask q).1 = told (m'.ask q).1 := by
  cases q with
  | renew => cases hq
  | classify i ambient development filling =>
      obtain rfl : i.number = n := beq_iff_eq.mp hq
      rw [told_ask, told_ask, hknown]

/-- The answer at a place of a run is the one after the questions before it. -/
theorem getElem?_run (m : Memo) (qs : List Ask) (k : Nat) :
    (m.run qs)[k]? = qs[k]?.map fun q => ((m.after (qs.take k)).ask q).1 := by
  induction qs generalizing m k with
  | nil => rfl
  | cons q qs ih =>
      cases k with
      | zero => rfl
      | succ k => exact ih _ _

theorem run_cons (m : Memo) (q : Ask) (qs : List Ask) :
    m.run (q :: qs) = (m.ask q).1 :: (m.ask q).2.run qs := rfl

theorem length_run (m : Memo) (qs : List Ask) : (m.run qs).length = qs.length := by
  induction qs generalizing m with
  | nil => rfl
  | cons q qs ih => exact congrArg (· + 1) (ih _)

/-- An answer that gives a problem is what the memo holds of the incident from then on. -/
theorem find?_of_ask {m : Memo} {q : Ask} {n : Nat} (hq : q.concerns n = true) {r : Remembered}
    (h : (m.ask q).1 = .ok (some r)) : (m.ask q).2.find? n = some r := by
  cases q with
  | renew => cases hq
  | classify i ambient development filling =>
      obtain rfl : i.number = n := beq_iff_eq.mp hq
      rcases m.ask_cases i ambient development filling with
        ⟨t, -, -, heq⟩ | ⟨known, memo, hclass, heq⟩
      · rw [heq] at h; cases h
      · rw [heq] at h ⊢
        rw [find?_fillFrom, if_pos rfl, find?_of_classify hclass]
        exact Except.ok.inj h

/-- A question that fails changes nothing. -/
theorem eq_of_ask_error {m : Memo} {q : Ask} {t : Trouble} (h : (m.ask q).1 = .error t) :
    (m.ask q).2 = m := by
  cases q with
  | renew => cases h
  | classify i ambient development filling =>
      rcases m.ask_cases i ambient development filling with
        ⟨t', -, -, heq⟩ | ⟨r, memo, -, heq⟩
      · rw [heq]
      · rw [heq] at h; cases h

/-! ## The first classification counts -/

theorem foldl_learn_some {n : Nat} {qs : List Ask} (hqs : ∀ q ∈ qs, q.concerns n = true)
    (p : Problem) : qs.foldl (learn n) (some p) = some (qs.foldl Ask.fillIn p) := by
  induction qs generalizing p with
  | nil => rfl
  | cons q qs ih =>
      have hq := hqs q (List.mem_cons_self ..)
      rw [List.foldl_cons, List.foldl_cons, ← ih fun q' hq' => hqs q' (List.mem_cons_of_mem _ hq')]
      simp [learn, hq, Ask.not_isRenewal_of_concerns hq]

/-- Once questions about an incident have made it known, there was a first one that did,
and every later one has filled in. -/
theorem exists_first_of_foldl_learn {n : Nat} {qs : List Ask}
    (hqs : ∀ q ∈ qs, q.concerns n = true) {p : Problem}
    (h : qs.foldl (learn n) none = some p) :
    ∃ failed first later start, qs = failed ++ first :: later
      ∧ (∀ q ∈ failed, q.problem? = none) ∧ first.problem? = some start
      ∧ p = (first :: later).foldl Ask.fillIn start := by
  induction qs with
  | nil => cases h
  | cons q qs ih =>
      have hq := hqs q (List.mem_cons_self ..)
      have hrest := fun q' hq' => hqs q' (List.mem_cons_of_mem _ hq')
      have hlearn : learn n none q = q.problem?.map q.fillIn := by
        simp [learn, hq, Ask.not_isRenewal_of_concerns hq]
      rw [List.foldl_cons, hlearn] at h
      cases hproblem : q.problem? with
      | none =>
          rw [hproblem] at h
          obtain ⟨failed, first, later, start, rfl, hfailed, hfirst⟩ := ih hrest h
          exact ⟨q :: failed, first, later, start, rfl,
            List.forall_mem_cons.mpr ⟨hproblem, hfailed⟩, hfirst⟩
      | some start =>
          rw [hproblem, Option.map_some, foldl_learn_some hrest] at h
          exact ⟨[], q, qs, start, rfl, fun _ hmem => (nomatch hmem), hproblem,
            (Option.some.inj h).symm⟩

/-! ## Serial numbers -/

/-- Serial numbers from `low` on tell the problems of a memo apart, and no number is
in use that is still to be given out. -/
structure Numbered (low : Nat) (m : Memo) : Prop where
  le_next : low ≤ m.next
  bounds : ∀ n r, m.find? n = some r → low ≤ r.serial ∧ r.serial < m.next
  apart : ∀ n n' r r', m.find? n = some r → m.find? n' = some r' → r.serial = r'.serial → n = n'

namespace Numbered

variable {low : Nat} {m : Memo}

/-- A new request goes on with the numbers that have not been given out yet. -/
theorem nextRequest (m : Memo) : m.nextRequest.Numbered m.next :=
  ⟨Nat.le_refl _, fun _ _ h => (nomatch h), fun _ _ _ _ h => (nomatch h)⟩

theorem mono {low' : Nat} (h : m.Numbered low) (hle : low' ≤ low) : m.Numbered low' :=
  ⟨Nat.le_trans hle h.le_next,
    fun n r hr => ⟨Nat.le_trans hle (h.bounds n r hr).1, (h.bounds n r hr).2⟩, h.apart⟩

theorem remember (h : m.Numbered low) (number : Nat) (p : Problem) :
    (m.remember number p).Numbered low := by
  have hfind : ∀ n r, (m.remember number p).find? n = some r →
      (n = number ∧ r.serial = m.next) ∨ m.find? n = some r := by
    intro n r hr
    rw [find?_remember] at hr
    split at hr
    · rename_i hn
      obtain rfl := Option.some.inj hr
      exact Or.inl ⟨hn.symm, rfl⟩
    · exact Or.inr hr
  refine ⟨Nat.le_succ_of_le h.le_next, fun n r hr => ?_, fun n n' r r' hr hr' heq => ?_⟩
  · rcases hfind n r hr with ⟨-, hserial⟩ | hold
    · rw [hserial]
      exact ⟨h.le_next, Nat.lt_succ_self _⟩
    · exact ⟨(h.bounds n r hold).1, Nat.lt_succ_of_lt (h.bounds n r hold).2⟩
  · -- A number that was in use is below the one that is given out now.
    rcases hfind n r hr with ⟨hn, hserial⟩ | hold <;>
      rcases hfind n' r' hr' with ⟨hn', hserial'⟩ | hold'
    · exact hn.trans hn'.symm
    · have := (h.bounds n' r' hold').2
      omega
    · have := (h.bounds n r hold).2
      omega
    · exact h.apart n n' r r' hold hold' heq

theorem classify (h : m.Numbered low) (i : Incident) (ambient : Value) (development : Bool) :
    (m.classify i ambient development).2.Numbered low := by
  rcases m.classify_cases i ambient development with
    ⟨r, -, heq⟩ | ⟨p, -, -, heq⟩ | ⟨t, -, -, heq⟩
  · rw [heq]; exact h
  · rw [heq]; exact h.remember i.number p
  · rw [heq]; exact h

theorem fillFrom (h : m.Numbered low) (number : Nat) (filling : Option Filling) :
    (m.fillFrom number filling).Numbered low := by
  have hfind : ∀ n r, (m.fillFrom number filling).find? n = some r →
      ∃ r', m.find? n = some r' ∧ r'.serial = r.serial := by
    intro n r hr
    rw [find?_fillFrom] at hr
    split at hr
    · obtain ⟨r', hr', rfl⟩ := Option.map_eq_some_iff.mp hr
      exact ⟨r', hr', rfl⟩
    · exact ⟨r, hr, rfl⟩
  have hnext : (m.fillFrom number filling).next = m.next := by cases filling <;> rfl
  refine ⟨hnext ▸ h.le_next, fun n r hr => ?_, fun n n' r r' hr hr' heq => ?_⟩
  · obtain ⟨known, hknown, hserial⟩ := hfind n r hr
    rw [hnext, ← hserial]
    exact h.bounds n known hknown
  · obtain ⟨known, hknown, hserial⟩ := hfind n r hr
    obtain ⟨known', hknown', hserial'⟩ := hfind n' r' hr'
    exact h.apart n n' known known' hknown hknown' (hserial.trans (heq.trans hserial'.symm))

theorem ask (h : m.Numbered low) (q : Ask) : (m.ask q).2.Numbered low := by
  cases q with
  | renew => exact (nextRequest m).mono h.le_next
  | classify i ambient development filling =>
      rcases m.ask_cases i ambient development filling with
        ⟨t, -, -, heq⟩ | ⟨r, memo, hclass, heq⟩
      · rw [heq]; exact h
      · rw [heq]
        have hclassified := h.classify i ambient development
        rw [hclass] at hclassified
        exact hclassified.fillFrom i.number filling

theorem after (h : m.Numbered low) (qs : List Ask) : (m.after qs).Numbered low := by
  induction qs generalizing m with
  | nil => exact h
  | cons q qs ih => exact ih (h.ask q)

end Numbered

theorem numbered_empty : ({} : Memo).Numbered 0 :=
  ⟨Nat.le_refl _, fun _ _ h => (nomatch h), fun _ _ _ _ h => (nomatch h)⟩

theorem next_le_ask (m : Memo) (q : Ask) : m.next ≤ (m.ask q).2.next := by
  cases q with
  | renew => exact Nat.le_refl _
  | classify i ambient development filling =>
      have hclassified : m.next ≤ (m.classify i ambient development).2.next := by
        rcases m.classify_cases i ambient development with
          ⟨r, -, heq⟩ | ⟨p, -, -, heq⟩ | ⟨t, -, -, heq⟩
        · rw [heq]
        · rw [heq]; exact Nat.le_succ _
        · rw [heq]
      rcases m.ask_cases i ambient development filling with
        ⟨t, -, -, heq⟩ | ⟨r, memo, hclass, heq⟩
      · rw [heq]
      · rw [heq]
        rw [hclass] at hclassified
        cases filling <;> exact hclassified

/-- As long as a request lasts, an incident keeps its number. -/
theorem serial_ask {m : Memo} {n : Nat} {r : Remembered} (hr : m.find? n = some r) {q : Ask}
    (hq : q.isRenewal = false) : ∃ r', (m.ask q).2.find? n = some r' ∧ r'.serial = r.serial := by
  cases q with
  | renew => cases hq
  | classify i ambient development filling =>
      rcases m.ask_cases i ambient development filling with
        ⟨t, -, -, heq⟩ | ⟨known, memo, hclass, heq⟩
      · rw [heq]
        exact ⟨r, hr, rfl⟩
      · have hkept := find?_classify hr i ambient development
        rw [hclass] at hkept
        rw [heq]
        show ∃ r', (memo.fillFrom i.number filling).find? n = some r' ∧ r'.serial = r.serial
        rw [find?_fillFrom, hkept]
        split
        · exact ⟨_, rfl, rfl⟩
        · exact ⟨r, rfl, rfl⟩

/-- In the same request an incident keeps its number, and in a later one all numbers are
greater than those before. -/
theorem numbered_later {m : Memo} {n : Nat} {r : Remembered} (hr : m.find? n = some r)
    (qs : List Ask) :
    (Ask.request qs = 0 ∧ ∃ r', (m.after qs).find? n = some r' ∧ r'.serial = r.serial)
      ∨ (Ask.request qs ≠ 0 ∧ (m.after qs).Numbered m.next) := by
  induction qs generalizing m r with
  | nil => exact Or.inl ⟨rfl, r, hr, rfl⟩
  | cons q qs ih =>
      unfold Ask.request
      rw [List.countP_cons]
      show (_ ∧ ∃ r', ((m.ask q).2.after qs).find? n = some r' ∧ r'.serial = r.serial)
        ∨ (_ ∧ ((m.ask q).2.after qs).Numbered m.next)
      cases hq : q.isRenewal with
      | true =>
          cases q with
          | renew => exact Or.inr ⟨Nat.succ_ne_zero _, (Numbered.nextRequest m).after qs⟩
          | classify i ambient development filling => cases hq
      | false =>
          obtain ⟨r', hr', hserial⟩ := serial_ask hr hq
          rcases ih hr' with ⟨hsame, r'', hr'', hserial'⟩ | ⟨hlater, hnumbered⟩
          · exact Or.inl ⟨hsame, r'', hr'', hserial'.trans hserial⟩
          · exact Or.inr ⟨hlater, hnumbered.mono (m.next_le_ask q)⟩

/-! ## Runs -/

/-- How a run keeps incidents and requests apart. -/
structure KeepsApart (qs : List Ask) : Prop where
  /-- An answer tells what it would tell if the incident had been asked about on its own,
  since its request began. -/
  alone : ∀ k q n, qs[k]? = some q → q.concerns n = true →
    (({} : Memo).run qs)[k]?.map told =
      (({} : Memo).run (Ask.thread n (qs.take k) ++ [q])).getLast?.map told
  /-- Two answers are one problem exactly if they are about one incident in one request. -/
  one : ∀ j k q q' r r', qs[j]? = some q → qs[k]? = some q' →
    (({} : Memo).run qs)[j]? = some (.ok (some r)) →
    (({} : Memo).run qs)[k]? = some (.ok (some r')) →
    (r.serial = r'.serial ↔ (∃ n, q.concerns n = true ∧ q'.concerns n = true)
      ∧ Ask.request (qs.take j) = Ask.request (qs.take k))
  /-- An answer is what the first question about the incident in its request that made a
  problem of it has made of it, and everything that was filled in since. -/
  first : ∀ k q n r, qs[k]? = some q → q.concerns n = true →
    (({} : Memo).run qs)[k]? = some (.ok (some r)) →
    ∃ failed first later start, Ask.thread n (qs.take (k + 1)) = failed ++ first :: later
      ∧ (∀ q ∈ failed, q.problem? = none) ∧ first.problem? = some start
      ∧ r.problem = (first :: later).foldl Ask.fillIn start
  /-- A question that fails might as well not have been asked. -/
  traceless : ∀ k t, (({} : Memo).run qs)[k]? = some (.error t) →
    ({} : Memo).run (qs.eraseIdx k) = (({} : Memo).run qs).eraseIdx k

section

variable {qs : List Ask} {k : Nat} {q : Ask}

theorem run_at (hq : qs[k]? = some q) :
    (({} : Memo).run qs)[k]? = some ((({} : Memo).after (qs.take k)).ask q).1 := by
  rw [getElem?_run, hq]
  rfl

theorem after_take_succ (hq : qs[k]? = some q) :
    ({} : Memo).after (qs.take (k + 1)) = ((({} : Memo).after (qs.take k)).ask q).2 := by
  rw [List.take_add_one, hq]
  exact after_append_singleton _ _ _

/-- What a run answers about an incident is in the memo then. -/
theorem find?_after_take (hq : qs[k]? = some q) {n : Nat} (hn : q.concerns n = true)
    {r : Remembered} (hr : (({} : Memo).run qs)[k]? = some (.ok (some r))) :
    (({} : Memo).after (qs.take (k + 1))).find? n = some r := by
  rw [run_at hq] at hr
  rw [after_take_succ hq]
  exact find?_of_ask hn (Option.some.inj hr)

theorem exists_concerns (hq : qs[k]? = some q) {r : Remembered}
    (hr : (({} : Memo).run qs)[k]? = some (.ok (some r))) : ∃ n, q.concerns n = true := by
  cases q with
  | renew =>
      rw [run_at hq] at hr
      cases hr
  | classify i ambient development filling => exact ⟨i.number, beq_self_eq_true _⟩

end

theorem run_alone {qs : List Ask} {k : Nat} {q : Ask} (hq : qs[k]? = some q) {n : Nat}
    (hn : q.concerns n = true) :
    (({} : Memo).run qs)[k]?.map told =
      (({} : Memo).run (Ask.thread n (qs.take k) ++ [q])).getLast?.map told := by
  have hknown : (({} : Memo).after (qs.take k)).known n =
      (({} : Memo).after (Ask.thread n (qs.take k))).known n := by
    rw [known_after_eq_thread, known_after]
    rfl
  have hlast : (({} : Memo).run (Ask.thread n (qs.take k) ++ [q])).getLast? =
      some ((({} : Memo).after (Ask.thread n (qs.take k))).ask q).1 := by
    rw [run_append]
    exact List.getLast?_concat
  rw [run_at hq, hlast]
  exact congrArg some (told_ask_congr hn hknown)

/-- Two answers, one after the other: they have one serial number exactly if they are
about one incident in one request. -/
theorem serial_eq_iff_of_lt {qs : List Ask} {j k : Nat} (hlt : j < k) {q q' : Ask}
    (hq : qs[j]? = some q) (hq' : qs[k]? = some q') {r r' : Remembered}
    (hr : (({} : Memo).run qs)[j]? = some (.ok (some r)))
    (hr' : (({} : Memo).run qs)[k]? = some (.ok (some r'))) :
    r.serial = r'.serial ↔ (∃ n, q.concerns n = true ∧ q'.concerns n = true)
      ∧ Ask.request (qs.take j) = Ask.request (qs.take k) := by
  obtain ⟨n, hn⟩ := exists_concerns hq hr
  obtain ⟨n', hn'⟩ := exists_concerns hq' hr'
  have hfirst := find?_after_take hq hn hr
  have hsecond := find?_after_take hq' hn' hr'
  -- What is asked in between, the second question among it.
  obtain ⟨mid, hmid⟩ := (List.take_prefix_take_left (l := qs) (Nat.succ_le_succ hlt.le) :
    qs.take (j + 1) <+: qs.take (k + 1))
  have hrequests : Ask.request (qs.take k) = Ask.request (qs.take j) + Ask.request mid := by
    rw [← Ask.request_take_succ hq hn, ← Ask.request_take_succ hq' hn', ← hmid]
    exact List.countP_append
  have hend := numbered_empty.after (qs.take (k + 1))
  rw [← hmid, after_append] at hsecond hend
  rcases numbered_later hfirst mid with ⟨hsame, r'', hkept, hserial⟩ | ⟨hlater, hnumbered⟩
  · constructor
    · intro heq
      have hnn : n = n' := hend.apart n n' r'' r' hkept hsecond (hserial.trans heq)
      exact ⟨⟨n, hn, hnn ▸ hn'⟩, by omega⟩
    · rintro ⟨⟨number, hboth, hboth'⟩, -⟩
      obtain rfl := (Ask.eq_of_concerns hn hboth).trans (Ask.eq_of_concerns hboth' hn')
      rw [hkept] at hsecond
      rw [← hserial, Option.some.inj hsecond]
  · constructor
    · intro heq
      have hbefore := ((numbered_empty.after (qs.take (j + 1))).bounds n r hfirst).2
      have hafter := (hnumbered.bounds n' r' hsecond).1
      omega
    · rintro ⟨-, hrequest⟩
      omega

theorem exists_first_of_run {qs : List Ask} {k : Nat} {q : Ask} (hq : qs[k]? = some q) {n : Nat}
    (hn : q.concerns n = true) {r : Remembered}
    (hr : (({} : Memo).run qs)[k]? = some (.ok (some r))) :
    ∃ failed first later start, Ask.thread n (qs.take (k + 1)) = failed ++ first :: later
      ∧ (∀ q ∈ failed, q.problem? = none) ∧ first.problem? = some start
      ∧ r.problem = (first :: later).foldl Ask.fillIn start := by
  have hknown : (({} : Memo).after (qs.take (k + 1))).known n = some r.problem := by
    rw [known, find?_after_take hq hn hr]
    rfl
  rw [known_after_eq_thread] at hknown
  exact exists_first_of_foldl_learn (fun _ => Ask.concerns_of_mem_thread) hknown

theorem run_eraseIdx_of_error {qs : List Ask} {k : Nat} {t : Trouble}
    (h : (({} : Memo).run qs)[k]? = some (.error t)) :
    ({} : Memo).run (qs.eraseIdx k) = (({} : Memo).run qs).eraseIdx k := by
  obtain ⟨q, hq⟩ : ∃ q, qs[k]? = some q := by
    rw [getElem?_run] at h
    cases hq : qs[k]? with
    | none => rw [hq] at h; cases h
    | some q => exact ⟨q, rfl⟩
  obtain ⟨hk, rfl⟩ := List.getElem?_eq_some_iff.mp hq
  have hanswer := Option.some.inj ((run_at hq).symm.trans h)
  have hkept : ((({} : Memo).after (qs.take k)).ask qs[k]).2 = ({} : Memo).after (qs.take k) :=
    eq_of_ask_error hanswer
  have hlength : (({} : Memo).run (qs.take k)).length = k := by
    rw [length_run, List.length_take_of_le hk.le]
  have hsplit : ({} : Memo).run qs = ({} : Memo).run (qs.take k) ++
      .error t :: (({} : Memo).after (qs.take k)).run (qs.drop (k + 1)) := by
    conv_lhs => rw [← List.take_append_drop k qs, List.drop_eq_getElem_cons hk]
    rw [run_append, run_cons, hanswer, hkept]
  rw [hsplit, List.eraseIdx_eq_take_drop_succ, run_append,
    List.eraseIdx_append_of_length_le hlength.le, hlength, Nat.sub_self]
  rfl

end Memo

end Triage
