import Triage.Cache.Clients
import Triage.Proofs.Entries

/-!
# Removals among several clients

A read that gives a failure is not one step: the value is looked up in one call and
put back in another, and the second call asks nothing of the store. A removal that
comes between the two is undone. What a removal does achieve is that nothing else
comes back: whatever is later kept under the key was produced since, or is a
failure that some client had at hand when the key was removed, and has put back
(`removal_is_undone_only_by_stamps`).

The invariant is about both places where a value of the key may be, the store and
the stamps that clients have still to make (`Confined`): the two change into each
other, and only a production brings in a value that was in neither.
-/

namespace Triage

namespace Clients

variable {s : Clients} {client : Nat} {key : Text}

/-! ## Operations that nobody interrupts -/

theorem finish_leave (s : Clients) (client : Nat) (store store' : Store) (p : Option Pending)
    (answer : Except Raised (Option Produced)) (produced : Bool) :
    (s.leave client store p).finish client store' answer produced =
      s.finish client store' answer produced := by
  unfold finish
  rw [leave_leave]

theorem getLast?_evict (s : Clients) (client : Nat) (tag : Text) (tags : List Text) :
    (s.evict client tag tags ::
        (s.evict client tag tags).clients.run (tags.map fun _ => .resume client)).getLast? =
      some (s.finish client ((tag :: tags).foldl Store.removeByTag s.store) (.ok none) false) := by
  induction tags generalizing s tag with
  | nil => rfl
  | cons next tags ih =>
      have hresumed : (s.evict client tag (next :: tags)).clients.turn (.resume client) =
          (s.leave client (s.store.removeByTag tag) (some (.evict next tags))).evict client next
            tags := turn_resume (pending_leave_self ..)
      rw [List.map_cons, run, List.getLast?_cons_cons, hresumed]
      exact (ih _ next).trans (congrArg some (finish_leave ..))

theorem look_of_raised {q : Query} {factory : Except Raised Produced} {raised : Raised}
    (h : (s.store.lookup q factory).answer = .error raised) :
    s.look client q factory =
      s.finish client (s.store.lookup q factory).store (.error raised)
        (s.store.lookup q factory).produced := by
  simp only [look, h]

theorem look_of_unstamped {q : Query} {factory : Except Raised Produced} {value : Produced}
    (h : (s.store.lookup q factory).answer = .ok value) (htime : q.restampTime? value = none) :
    s.look client q factory =
      s.finish client (s.store.lookup q factory).store (.ok (some value))
        (s.store.lookup q factory).produced := by
  simp only [look, h, htime]

theorem look_of_stamped {q : Query} {factory : Except Raised Produced} {value : Produced}
    {time : Int} (h : (s.store.lookup q factory).answer = .ok value)
    (htime : q.restampTime? value = some time) :
    s.look client q factory = {
      clients := s.leave client (s.store.lookup q factory).store (some (.stamp q value))
      produced := (s.store.lookup q factory).produced } := by
  simp only [look, h, htime]

theorem produced_look (s : Clients) (client : Nat) (q : Query) (factory : Except Raised Produced) :
    (s.look client q factory).produced = (s.store.lookup q factory).produced := by
  cases hlook : (s.store.lookup q factory).answer with
  | error raised => rw [look_of_raised hlook, finish]
  | ok value =>
      cases htime : q.restampTime? value with
      | none => rw [look_of_unstamped hlook htime, finish]
      | some time => rw [look_of_stamped hlook htime]

/-- With a value at hand a reader gives it, or has still to put it back. -/
theorem look_gives {q : Query} {factory : Except Raised Produced} {value : Produced}
    (h : (s.store.lookup q factory).answer = .ok value) :
    (s.look client q factory).answer? = some (.ok (some value))
      ∨ (s.look client q factory).clients.pending client = some (.stamp q value) := by
  cases htime : q.restampTime? value with
  | none =>
      rw [look_of_unstamped h htime]
      exact Or.inl rfl
  | some time =>
      rw [look_of_stamped h htime]
      exact Or.inr (pending_leave_self ..)

theorem proceed_of_stamp {q : Query} {value : Produced} {store : Store}
    (h : s.store.stamp q value = .ok store) :
    s.proceed client (.stamp q value) = s.finish client store (.ok (some value)) false := by
  simp only [proceed, h]

theorem proceed_of_unstamped {q : Query} {value : Produced} {t : Trouble}
    (h : s.store.stamp q value = .error t) :
    s.proceed client (.stamp q value) =
      s.finish client s.store (.error (.trouble t)) false := by
  simp only [proceed, h]

/-- A read that nobody interrupts is the read of one client. -/
theorem run_read (h : s.pending client = none) (requestId : Option Text) (q : Query)
    (factory : Except Raised Produced) :
    ∃ resumes turned, (∀ t ∈ resumes, t = .resume client)
      ∧ (s.run (.start client (.read q factory) :: resumes)).getLast? = some turned
      ∧ turned.clients = s.leave client (s.store.serve q factory requestId).store none
      ∧ turned.answer? = some ((s.store.serve q factory requestId).answer.map some) := by
  have hstart : s.turn (.start client (.read q factory)) = s.look client q factory :=
    turn_start h _
  cases hlook : (s.store.lookup q factory).answer with
  | error raised =>
      obtain ⟨hanswer, hstore⟩ := Store.serve_of_raised hlook requestId
      refine ⟨[], _, by simp, rfl, ?_⟩
      rw [hstart, look_of_raised hlook, hanswer, hstore]
      exact ⟨rfl, rfl⟩
  | ok value =>
      cases htime : q.restampTime? value with
      | none =>
          obtain ⟨hanswer, hstore⟩ := Store.serve_of_stamp hlook
            (Store.stamp_of_restampTime?_eq_none htime) requestId
          refine ⟨[], _, by simp, rfl, ?_⟩
          rw [hstart, look_of_unstamped hlook htime, hanswer, hstore]
          exact ⟨rfl, rfl⟩
      | some time =>
          have hrun : s.run [.start client (.read q factory), .resume client] = [
              s.look client q factory,
              (s.leave client (s.store.lookup q factory).store (some (.stamp q value))).proceed
                client (.stamp q value)] := by
            simp only [run, hstart, look_of_stamped hlook htime,
              turn_resume (pending_leave_self ..)]
          refine ⟨[.resume client], _, fun t ht => List.mem_singleton.mp ht,
            hrun ▸ List.getLast?_cons_cons, ?_⟩
          cases hstamp : (s.store.lookup q factory).store.stamp q value with
          | ok store =>
              obtain ⟨hanswer, hstore⟩ := Store.serve_of_stamp hlook hstamp requestId
              rw [proceed_of_stamp hstamp, finish_leave, hanswer, hstore]
              exact ⟨rfl, rfl⟩
          | error t =>
              obtain ⟨hanswer, hstore⟩ := Store.serve_of_unstamped hlook hstamp requestId
              rw [proceed_of_unstamped hstamp, finish_leave, hanswer, hstore]
              exact ⟨rfl, rfl⟩

/-- A client that is left alone with a use of the cache makes of it what it is. -/
theorem run_uninterrupted (h : s.pending client = none) (requestId : Option Text)
    (u : CacheUse) :
    ∃ resumes turned, (∀ t ∈ resumes, t = .resume client)
      ∧ (s.run (.start client u :: resumes)).getLast? = some turned
      ∧ turned.clients = s.leave client (s.store.use requestId u).store none
      ∧ turned.answer? = some (s.store.use requestId u).answer := by
  cases u with
  | read q factory => exact run_read h requestId q factory
  | remove key =>
      refine ⟨[], _, by simp, rfl, ?_⟩
      rw [turn_start h]
      exact ⟨rfl, rfl⟩
  | removeByTags tags =>
      cases tags with
      | nil =>
          refine ⟨[], _, by simp, rfl, ?_⟩
          rw [turn_start h]
          exact ⟨rfl, rfl⟩
      | cons tag tags =>
          refine ⟨tags.map fun _ => .resume client,
            s.finish client ((tag :: tags).foldl Store.removeByTag s.store) (.ok none) false,
            fun t ht => ?_, ?_, rfl, rfl⟩
          · obtain ⟨_, -, rfl⟩ := List.mem_map.mp ht
            rfl
          · rw [run, turn_start h]
            exact getLast?_evict ..
  | advance duration =>
      refine ⟨[], s.turn (.start client (.advance duration)), by simp, rfl, ?_⟩
      rw [turn_start h]
      cases hmoved : s.store.advance duration with
      | ok store => simp only [commence, finish, Store.use, hmoved, and_self]
      | error t => simp only [commence, finish, Store.use, hmoved, and_self]

end Clients

/-- A turn has a value of a key produced. -/
def Turn.Makes (key : Text) (value : Produced) (s : Clients) : Turn → Prop
  | .start client (.read q factory) =>
    s.pending client = none ∧ q.key = key ∧ factory = .ok value
      ∧ (s.store.lookup q factory).produced = true
  | _ => False

/-- A turn of a client puts a failure of a key back, which the client had at hand. -/
def Turn.PutsBack (holder : Nat) (key : Text) (value : Produced) (s : Clients) : Turn → Prop
  | .resume client =>
    client = holder ∧ ∃ q time store, s.pending client = some (.stamp q value) ∧ q.key = key
      ∧ q.restampTime? value = some time ∧ s.store.stamp q value = .ok store
  | _ => False

namespace Clients

/-- One of several turns, made one after the other, does something. -/
def Sometime (does : Clients → Turn → Prop) (s : Clients) : List Turn → Prop
  | [] => False
  | t :: ts => does s t ∨ (s.turn t).clients.Sometime does ts

/-- A client has a failure of a key at hand that it has still to put back. -/
def Holds (s : Clients) (holder : Nat) (key : Text) (value : Produced) : Prop :=
  ∃ q time, s.pending holder = some (.stamp q value) ∧ q.key = key
    ∧ q.restampTime? value = some time

/-- The values of a key in the store are among some values, and those that a client has
at hand to be put back are among others. -/
structure Confined (key : Text) (kept : Produced → Prop) (held : Nat → Produced → Prop)
    (s : Clients) : Prop where
  stored : ∀ e, (key, e) ∈ s.store.entries → kept e.value
  atHand : ∀ holder value, s.Holds holder key value → held holder value

/-- Values that are kept, or produced meanwhile, or that a client has at hand and puts
back meanwhile. -/
def Come (kept : Produced → Prop) (held : Nat → Produced → Prop) (makes : Produced → Prop)
    (puts : Nat → Produced → Prop) (value : Produced) : Prop :=
  kept value ∨ makes value ∨ ∃ holder, held holder value ∧ puts holder value

variable {s : Clients} {client : Nat} {key : Text} {kept kept' : Produced → Prop}
  {held held' : Nat → Produced → Prop} {makes makes' : Produced → Prop}
  {puts puts' : Nat → Produced → Prop}

theorem Come.sooner {value : Produced} (h : Come kept held makes puts value) :
    Come kept held (fun v => makes v ∨ makes' v) (fun holder v => puts holder v ∨ puts' holder v)
      value := by
  rcases h with hkept | hmakes | ⟨holder, hheld, hputs⟩
  · exact Or.inl hkept
  · exact Or.inr (Or.inl (Or.inl hmakes))
  · exact Or.inr (Or.inr ⟨holder, hheld, Or.inl hputs⟩)

/-- What is put back after it has come is no new value. -/
theorem Come.trans {value : Produced}
    (h : Come (Come kept held makes puts)
      (fun holder v => held holder v ∨ Come kept held makes puts v) makes' puts' value) :
    Come kept held (fun v => makes v ∨ makes' v) (fun holder v => puts holder v ∨ puts' holder v)
      value := by
  rcases h with hbefore | hmakes | ⟨holder, hheld | hbefore, hputs⟩
  · exact hbefore.sooner
  · exact Or.inr (Or.inl (Or.inr hmakes))
  · exact Or.inr (Or.inr ⟨holder, hheld, Or.inr hputs⟩)
  · exact hbefore.sooner

namespace Confined

theorem mono (h : Confined key kept held s) (hkept : ∀ value, kept value → kept' value)
    (hheld : ∀ holder value, held holder value → held' holder value) :
    Confined key kept' held' s :=
  ⟨fun e he => hkept _ (h.stored e he),
    fun holder value hv => hheld holder value (h.atHand holder value hv)⟩

/-- What one client does to the store and takes in hand is all that changes. -/
theorem leave (h : Confined key kept held s) {store : Store} {p : Option Pending}
    (hstored : ∀ e, (key, e) ∈ store.entries → kept e.value)
    (hheld : ∀ q value time, p = some (.stamp q value) → q.key = key →
      q.restampTime? value = some time → held client value) :
    Confined key kept held (s.leave client store p) := by
  refine ⟨hstored, ?_⟩
  rintro other value ⟨q, time, hpending, hkey, htime⟩
  by_cases hother : other = client
  · subst hother
    rw [pending_leave_self] at hpending
    exact hheld q value time hpending hkey htime
  · rw [pending_leave_of_ne hother] at hpending
    exact h.atHand other value ⟨q, time, hpending, hkey, htime⟩

theorem finish (h : Confined key kept held s) {store : Store}
    (hstored : ∀ e, (key, e) ∈ store.entries → kept e.value)
    (answer : Except Raised (Option Produced)) (produced : Bool) :
    Confined key kept held (s.finish client store answer produced).clients :=
  h.leave hstored fun _ _ _ hp => nomatch hp

theorem evict (h : Confined key kept held s) (tag : Text) (tags : List Text) :
    Confined key kept held (s.evict client tag tags).clients := by
  have hstored : ∀ e, (key, e) ∈ (s.store.removeByTag tag).entries → kept e.value :=
    fun e he => h.stored e (List.mem_of_mem_filter he)
  cases tags with
  | nil => exact h.finish hstored _ _
  | cons next tags => exact h.leave hstored fun _ _ _ hp => nomatch hp

theorem look (h : Confined key kept held s) (q : Query) (factory : Except Raised Produced)
    (hheld : ∀ value, kept value → held client value)
    (hmade : ∀ value, q.key = key → factory = .ok value →
      (s.store.lookup q factory).produced = true → kept value) :
    Confined key kept held (s.look client q factory).clients := by
  have hstored : ∀ e, (key, e) ∈ (s.store.lookup q factory).store.entries → kept e.value := by
    intro e he
    rcases Store.mem_of_lookup he with hmem | ⟨hkey, hfactory, hproduced⟩
    · exact h.stored e hmem
    · exact hmade e.value hkey.symm hfactory hproduced
  cases hlook : (s.store.lookup q factory).answer with
  | error raised =>
      rw [look_of_raised hlook]
      exact h.finish hstored _ _
  | ok value =>
      cases htime : q.restampTime? value with
      | none =>
          rw [look_of_unstamped hlook htime]
          exact h.finish hstored _ _
      | some time =>
          rw [look_of_stamped hlook htime]
          refine h.leave hstored ?_
          rintro _ _ _ ⟨⟩ rfl -
          rcases Store.origin_of_lookup hlook with ⟨e, he, rfl⟩ | ⟨hfactory, hproduced⟩
          · exact hheld e.value (h.stored e he)
          · exact hheld value (hmade value rfl hfactory hproduced)

theorem stamp (h : Confined key kept held s) {q : Query} {value : Produced}
    (hput : ∀ time store, q.key = key → q.restampTime? value = some time →
      s.store.stamp q value = .ok store → kept value) :
    Confined key kept held (s.proceed client (.stamp q value)).clients := by
  cases hstamp : s.store.stamp q value with
  | ok store =>
      rw [proceed_of_stamp hstamp]
      refine h.finish (fun e he => ?_) _ _
      rcases Store.mem_of_stamp hstamp he with hmem | ⟨hkey, rfl, time, htime⟩
      · exact h.stored e hmem
      · exact hput time store hkey.symm htime hstamp
  | error t =>
      rw [proceed_of_unstamped hstamp]
      exact h.finish h.stored _ _

/-- A turn brings no value of a key into the store but one that it has produced, or one
at hand that it puts back; and none in hand but what is kept then. -/
theorem turn (h : Confined key kept held s) (t : Turn) :
    let come := Come kept held (t.Makes key · s) (t.PutsBack · key · s)
    Confined key come (fun holder value => held holder value ∨ come value)
      (s.turn t).clients := by
  intro come
  have h' : Confined key come (fun holder value => held holder value ∨ come value) s :=
    h.mono (fun value hv => Or.inl hv) fun holder value hv => Or.inl hv
  cases t with
  | start client u =>
      cases hpending : s.pending client with
      | some p =>
          have hbusy : s.turn (.start client u) = { clients := s } := by
            simp only [Clients.turn, hpending]
          rw [hbusy]
          exact h'
      | none =>
          -- Only a read brings in a value; the rest leaves what is there, or drops it.
          rw [turn_start hpending]
          cases u with
          | read q factory =>
              exact h'.look q factory (fun value hcome => Or.inr hcome)
                fun value hkey hfactory hproduced =>
                  Or.inr (Or.inl ⟨hpending, hkey, hfactory, hproduced⟩)
          | remove other =>
              exact h'.finish (fun e he => h'.stored e (Store.mem_of_remove he).2) _ _
          | removeByTags tags =>
              cases tags with
              | nil => exact h'.finish h'.stored _ _
              | cons tag tags => exact h'.evict tag tags
          | advance duration =>
              cases hmoved : s.store.advance duration with
              | ok store =>
                  simp only [commence, hmoved]
                  refine h'.finish (fun e he => h'.stored e ?_) _ _
                  rwa [← Store.entries_of_advance hmoved]
              | error t =>
                  simp only [commence, hmoved]
                  exact h'.finish h'.stored _ _
  | resume client =>
      cases hpending : s.pending client with
      | none =>
          have hidle : s.turn (.resume client) = { clients := s } := by
            simp only [Clients.turn, hpending]
          rw [hidle]
          exact h'
      | some p =>
          rw [turn_resume hpending]
          cases p with
          | stamp q value =>
              refine h'.stamp fun time store hkey htime hstamp => Or.inr (Or.inr ⟨client, ?_, ?_⟩)
              · exact h.atHand client value ⟨q, time, hpending, hkey, htime⟩
              · exact ⟨rfl, q, time, store, hpending, hkey, htime, hstamp⟩
          | evict tag tags => exact h'.evict tag tags

theorem after (h : Confined key kept held s) (ts : List Turn) :
    let come := Come kept held (fun value => s.Sometime (Turn.Makes key value) ts)
      (fun holder value => s.Sometime (Turn.PutsBack holder key value) ts)
    Confined key come (fun holder value => held holder value ∨ come value) (s.after ts) := by
  -- The induction is on the turns, each of which adds to both kinds of values.
  induction ts generalizing s kept held with
  | nil => exact h.mono (fun value hv => Or.inl hv) fun holder value hv => Or.inl hv
  | cons t ts ih =>
      intro come
      refine (ih (h.turn t)).mono (fun value hv => hv.trans) ?_
      rintro holder value ((hheld | hbefore) | hlater)
      · exact Or.inl hheld
      · exact Or.inr hbefore.sooner
      · exact Or.inr hlater.trans

/-- Right after a removal, the key is only at hand. -/
theorem of_remove (s : Clients) (key : Text) (hidle : s.pending client = none) :
    Confined key (fun _ => False) (s.Holds · key ·)
      (s.turn (.start client (.remove key))).clients := by
  rw [turn_start hidle]
  refine ⟨fun e he => (Store.mem_of_remove he).1 rfl, ?_⟩
  rintro other value ⟨q, time, hpending, hkey, htime⟩
  refine ⟨q, time, ?_, hkey, htime⟩
  by_cases hother : other = client
  · subst hother
    cases (pending_leave_self ..).symm.trans hpending
  · exact (pending_leave_of_ne hother ..).symm.trans hpending

end Confined

/-- After a removal, what is kept under the key was produced since, or it is a failure
that a client had at hand at the removal and that this client has put back since. A read of the
key has its own value produced or gives such a value. -/
theorem removal_is_undone_only_by_stamps (s : Clients) (client : Nat) (key : Text)
    (later : List Turn) (hidle : s.pending client = none) :
    let removed := (s.turn (.start client (.remove key))).clients
    let came := fun value => removed.Sometime (Turn.Makes key value) later
      ∨ ∃ holder, s.Holds holder key value
        ∧ removed.Sometime (Turn.PutsBack holder key value) later
    (∀ e, (removed.after later).store.entry? key = some e → came e.value)
      ∧ ∀ reader q factory, q.key = key → (removed.after later).pending reader = none →
        let turned := (removed.after later).turn (.start reader (.read q factory))
        turned.produced = true
          ∨ ∃ value, came value
            ∧ (turned.answer? = some (.ok (some value))
              ∨ turned.clients.pending reader = some (.stamp q value)) := by
  intro removed came
  have hconfined := (Confined.of_remove s key hidle).after later
  have hkept : ∀ e, (key, e) ∈ (removed.after later).store.entries → came e.value :=
    fun e he => (hconfined.stored e he).resolve_left id
  refine ⟨fun e he => hkept e (Store.mem_of_entry?_eq he), ?_⟩
  rintro reader q factory rfl hreader
  dsimp only
  rw [turn_start hreader]
  show ((removed.after later).look reader q factory).produced = true ∨ _
  rw [produced_look, Store.produced_lookup]
  cases hlive : (removed.after later).store.live? q.key with
  | none => exact Or.inl rfl
  | some value =>
      have hlook := Store.lookup_of_live hlive factory
      obtain ⟨e, he, rfl⟩ := Store.mem_of_live? hlive
      exact Or.inr ⟨e.value, hkept e he, look_gives (congrArg (·.answer) hlook)⟩

/-- A client has met the outage, and has still to put it back. -/
def outageAtHand : Clients := ({} : Clients).after [.start 0 (.read stockQuery (.ok outage))]

/-- What another client finds after it has removed the stock is the outage at hand. -/
theorem outage_comes_back_by_its_stamp :
    ∃ e, ((outageAtHand.turn (.start 1 (.remove "stock"))).clients.after
        [.resume 0]).store.entry? "stock" = some e
      ∧ ∃ holder, outageAtHand.Holds holder "stock" e.value
        ∧ (outageAtHand.turn (.start 1 (.remove "stock"))).clients.Sometime
          (Turn.PutsBack holder "stock" e.value) [.resume 0] := by
  obtain ⟨hkept, -⟩ :=
    removal_is_undone_only_by_stamps outageAtHand 1 "stock" [.resume 0] rfl
  refine ⟨⟨outage, 30000000, ["stock"]⟩, rfl, ?_⟩
  rcases hkept ⟨outage, 30000000, ["stock"]⟩ rfl with (hmade | hmade) | hheld
  · cases hmade
  · cases hmade
  · exact hheld

/-- The stock is removed, nothing is produced, and a read that starts afterwards gives
the outage from before. -/
theorem removed_outage_is_read_again :
    let removed := (outageAtHand.turn (.start 1 (.remove "stock"))).clients
    let again := (removed.after [.resume 0]).turn
      (.start 1 (.read stockQuery (.ok (.plain .null))))
    removed.store.entries = []
      ∧ (∀ value, ¬removed.Sometime (Turn.Makes "stock" value) [.resume 0])
      ∧ (removed.after [.resume 0]).store.live? "stock" = some outage
      ∧ again.produced = false
      ∧ (again.clients.turn (.resume 1)).answer? = some (.ok (some outage)) := by
  refine ⟨rfl, fun value hmade => ?_, rfl, rfl, rfl⟩
  rcases hmade with hmade | hmade <;> cases hmade

end Clients

end Triage
