import Triage.Handler.Office
import Triage.Proofs.Declining

/-!
# A client that is gone

To look for the client is to take a message out of its inbox, so what an act sees
depends on how often all acts before it have looked, on whichever sheet of the
client. The inbox is followed through a run as what was taken out of the queue and
what still waits (`Inbox.Leaves`); an act adds to the former what it takes itself
(`Office.leaves_next`). That a disconnect has been noticed is then the same as that
it is among the messages taken, and this no later act can undo
(`Office.disconnects_are_noticed_for_good`).
-/

namespace Triage

/-- Whether a move looks for the client. A cancellation is handled without. -/
def Move.looks : Move → Bool
  | .handle i => !i.error.isCancellation
  | .poll => true
  | .edit _ | .renew _ => false

/-! ## One look -/

namespace Inbox

variable {i : Inbox}

/-- What the next look takes out: the first message that waits, and nothing once a
disconnect has been taken. -/
def due (i : Inbox) : List ClientMessage := if i.disconnected then [] else i.waiting.take 1

theorem waiting_eq_due_append (i : Inbox) : i.waiting = i.due ++ i.poll.2.waiting := by
  obtain ⟨waiting, disconnected⟩ := i
  cases disconnected with
  | true => rfl
  | false =>
      cases waiting with
      | nil => rfl
      | cons m rest => cases m <;> rfl

theorem disconnected_poll (i : Inbox) : i.poll.2.disconnected = i.poll.1 := by
  obtain ⟨waiting, disconnected⟩ := i
  cases disconnected with
  | true => rfl
  | false =>
      cases waiting with
      | nil => rfl
      | cons m rest => cases m <;> rfl

/-- A look says that the client is gone when a disconnect has been taken, now or before. -/
theorem poll_eq_true_iff : i.poll.1 = true ↔ i.disconnected = true ∨ .disconnect ∈ i.due := by
  obtain ⟨waiting, disconnected⟩ := i
  cases disconnected with
  | true => simp [poll]
  | false =>
      cases waiting with
      | nil => simp [poll, due]
      | cons m rest => cases m <;> simp [poll, due]

/-- Of a queue, some messages have been taken out, and the others wait in the inbox;
it is known whether a disconnect was among the former. -/
structure Leaves (queue taken : List ClientMessage) (i : Inbox) : Prop where
  split : queue = taken ++ i.waiting
  noticed : i.disconnected = true ↔ .disconnect ∈ taken

theorem Leaves.poll {queue taken : List ClientMessage} (hi : i.Leaves queue taken) :
    i.poll.2.Leaves queue (taken ++ i.due) := by
  refine ⟨?_, ?_⟩
  · rw [List.append_assoc, ← i.waiting_eq_due_append]
    exact hi.split
  · rw [i.disconnected_poll, poll_eq_true_iff, hi.noticed, List.mem_append]

theorem Leaves.poll_eq_true_iff {queue taken : List ClientMessage} (hi : i.Leaves queue taken) :
    i.poll.1 = true ↔ .disconnect ∈ taken ++ i.due := by
  rw [← i.disconnected_poll]
  exact hi.poll.noticed

end Inbox

/-! ## One move -/

theorem Exchange.reasonToDecline?_eq_cancelled_iff {x : Exchange} {i : Incident} :
    x.reasonToDecline? i = some .cancelled ↔
      i.error.isCancellation = true ∨ x.inbox.poll.1 = true := by
  unfold reasonToDecline? grounds
  cases i.error.isCancellation with
  | true => simp
  | false =>
      cases x.inbox.poll.1 with
      | true => simp
      | false =>
          cases canWriteProblem x.request.accept <;> cases x.request.format <;> simp

namespace Handler

variable {h : Handler} {x : Exchange} {i : Incident}

theorem present_inbox (format : Http.BodyFormat) (e : Error) (p : Problem) (x : Exchange) :
    (present format e p x).exchange.inbox = x.inbox := by
  rcases present_cases format e p x with ⟨t, -, heq⟩ | ⟨body, -, heq⟩ <;> rw [heq] <;> rfl

theorem resolve_inbox (h : Handler) (format : Http.BodyFormat) (i : Incident) (x : Exchange) :
    (h.resolve format i x).exchange.inbox = x.inbox := by
  rcases h.resolve_cases format i x with
    ⟨t, -, heq⟩ | ⟨r, memo, action, -, -, heq⟩ | ⟨r, memo, -, -, heq⟩
  · rw [heq]
  · rw [heq]
    rfl
  · rw [heq, present_inbox]

theorem inbox_handle (h : Handler) (i : Incident) (x : Exchange) :
    (h.handle i x).exchange.inbox = (x.lookedAt i).inbox := by
  cases hreason : x.reasonToDecline? i with
  | some reason =>
      rw [handle_of_declined hreason]
      rfl
  | none =>
      obtain ⟨format, -, heq⟩ := handle_of_accepted (h := h) hreason
      obtain ⟨hcancel, -⟩ := Exchange.reasonToDecline?_eq_none_iff.mp hreason
      rw [heq, resolve_inbox]
      unfold Exchange.lookedAt
      simp [hcancel]

/-- Every move looks once or not at all. -/
theorem inbox_move (h : Handler) (x : Exchange) (m : Move) :
    (h.move x m).exchange.inbox = if m.looks then x.inbox.poll.2 else x.inbox := by
  cases m with
  | handle i =>
      show (h.handle i x).exchange.inbox =
        if (!i.error.isCancellation) = true then x.inbox.poll.2 else x.inbox
      rw [inbox_handle]
      unfold Exchange.lookedAt
      cases i.error.isCancellation <;> rfl
  | edit e =>
      show (h.move x (.edit e)).exchange.inbox = x.inbox
      simp only [move]
      split <;> rfl
  | poll => rfl
  | renew status => rfl

end Handler

/-! ## Runs -/

namespace Office

variable {h : Handler} {o : Office} {a : Act} {c : Nat} {queue taken : List ClientMessage}

/-- What an act takes out of the inbox of a client: nothing, unless it looks for that
client. -/
def takes (o : Office) (a : Act) (c : Nat) : List ClientMessage :=
  if (o.sheets a.sheet).client = c ∧ a.move.looks = true then (o.inboxes c).due else []

theorem takes_of_looks (hclient : (o.sheets a.sheet).client = c)
    (hlooks : a.move.looks = true) : o.takes a c = (o.inboxes c).due :=
  if_pos ⟨hclient, hlooks⟩

theorem takes_of_not_looks (hlooks : a.move.looks = false) : o.takes a c = [] :=
  if_neg fun hboth => Bool.eq_false_iff.mp hlooks hboth.2

theorem inboxes_next_self (h : Handler) (hclient : (o.sheets a.sheet).client = c) :
    (o.next h a).inboxes c = if a.move.looks then (o.inboxes c).poll.2 else o.inboxes c := by
  subst hclient
  unfold next
  rw [inboxes_put_self]
  exact h.inbox_move (o.exchange a.sheet) a.move

theorem waiting_eq_takes_append (h : Handler) (hclient : (o.sheets a.sheet).client = c) :
    (o.inboxes c).waiting = o.takes a c ++ ((o.next h a).inboxes c).waiting := by
  rw [inboxes_next_self h hclient]
  cases hlooks : a.move.looks with
  | true =>
      rw [takes_of_looks hclient hlooks]
      exact (o.inboxes c).waiting_eq_due_append
  | false =>
      rw [takes_of_not_looks hlooks]
      rfl

theorem leaves_next (hi : (o.inboxes c).Leaves queue taken) (h : Handler) (a : Act) :
    ((o.next h a).inboxes c).Leaves queue (taken ++ o.takes a c) := by
  by_cases hclient : (o.sheets a.sheet).client = c
  · rw [inboxes_next_self h hclient]
    cases hlooks : a.move.looks with
    | true =>
        rw [takes_of_looks hclient hlooks]
        exact hi.poll
    | false =>
        rw [takes_of_not_looks hlooks, List.append_nil]
        exact hi
  · have hinbox : (o.next h a).inboxes c = o.inboxes c :=
      inboxes_put_of_ne (fun heq => hclient heq.symm) _
    have htakes : o.takes a c = [] := if_neg fun hboth => hclient hboth.1
    rw [hinbox, htakes, List.append_nil]
    exact hi

theorem leaves_after (hi : (o.inboxes c).Leaves queue taken) (h : Handler) (acts : List Act) :
    ∃ more, ((o.after h acts).inboxes c).Leaves queue (taken ++ more) := by
  induction acts generalizing o taken with
  | nil => exact ⟨[], by rwa [List.append_nil]⟩
  | cons a acts ih =>
      obtain ⟨more, hmore⟩ := ih (leaves_next hi h a)
      exact ⟨o.takes a c ++ more, by rwa [← List.append_assoc]⟩

/-! ## Errors of a client that is gone -/

/-- An act that changes no draft and nothing that is remembered, whoever it belongs to,
and lets no authenticator react. -/
structure Spares (h : Handler) (o : Office) (a : Act) : Prop where
  sheets : (o.next h a).sheets = o.sheets
  memos : (o.next h a).memos = o.memos
  triggers : Event.triggers (o.act h a).events = []

theorem act_of_handle {i : Incident} (hmove : a.move = .handle i) :
    o.act h a =
      ⟨(h.handle i (o.exchange a.sheet)).outcome.map .handled,
        (h.handle i (o.exchange a.sheet)).exchange,
        (h.handle i (o.exchange a.sheet)).events⟩ := by
  unfold act
  rw [hmove]
  rfl

theorem spares_of_declined {i : Incident} {reason : BypassReason} (hmove : a.move = .handle i)
    (hreason : (o.exchange a.sheet).reasonToDecline? i = some reason) : o.Spares h a := by
  have hdeclined := Handler.handle_of_declined (h := h) hreason
  have hexchange : (o.act h a).exchange = (o.exchange a.sheet).lookedAt i := by
    rw [act_of_handle hmove, hdeclined]
    rfl
  have hevents : (o.act h a).events = [.counted (.bypass reason)] := by
    rw [act_of_handle hmove, hdeclined]
    rfl
  obtain ⟨hsheets, hmemos⟩ := put_of_kept (o := o) (n := a.sheet) (x := (o.act h a).exchange)
    (by rw [hexchange, Exchange.lookedAt_request]; rfl)
    (by rw [hexchange, Exchange.lookedAt_draft]; rfl)
    (by rw [hexchange, Exchange.lookedAt_memo]; rfl)
  exact ⟨hsheets, hmemos, by rw [hevents]; rfl⟩

/-- Left alone as that of a client that is gone: so it is answered, and so it is counted. -/
def BypassesAsCancelled (h : Handler) (o : Office) (a : Act) : Prop :=
  (o.act h a).answer = .ok (.handled .bypass)
    ∧ Event.counts (o.act h a).events = [.bypass .cancelled]

theorem bypassesAsCancelled_iff {i : Incident} (hmove : a.move = .handle i) :
    o.BypassesAsCancelled h a ↔
      (o.exchange a.sheet).reasonToDecline? i = some .cancelled := by
  unfold BypassesAsCancelled
  rw [act_of_handle hmove]
  dsimp only
  cases hreason : (o.exchange a.sheet).reasonToDecline? i with
  | some reason =>
      rw [Handler.handle_of_declined hreason]
      simp [Handler.bypass, Event.counts, Except.map]
  | none =>
      have hstays : (h.handle i (o.exchange a.sheet)).outcome ≠ .ok .bypass := by
        rw [Ne, Handler.handle_eq_bypass_iff, hreason]
        simp
      cases hout : (h.handle i (o.exchange a.sheet)).outcome with
      | error t => simp [Except.map]
      | ok out =>
          rw [hout] at hstays
          cases out <;> simp_all [Except.map]

/-! ## How an act stands to its client -/

/-- How an act stands to its client `c`, when `taken` has been taken out of the inbox
before and `here` is taken out by the act. -/
structure Attends (h : Handler) (o : Office) (a : Act) (c : Nat)
    (taken here : List ClientMessage) : Prop where
  takes : (o.inboxes c).waiting = here ++ ((o.next h a).inboxes c).waiting
  takes_one : a.move.looks = true → .disconnect ∉ taken → here = (o.inboxes c).waiting.take 1
  takes_none : a.move.looks = false ∨ .disconnect ∈ taken → here = []
  tells : a.move = .poll →
    (o.act h a).answer = .ok (.client (decide (.disconnect ∈ taken ++ here)))
  bypasses : ∀ i, a.move = .handle i → i.error.isCancellation = false →
    (o.BypassesAsCancelled h a ↔ .disconnect ∈ taken ++ here)
  spares : .disconnect ∈ taken ++ here → ∀ i, a.move = .handle i → o.Spares h a

/-- A look finds the client gone when a disconnect has been taken, by it or before. -/
theorem poll_eq_true_iff_of_leaves (hi : (o.inboxes c).Leaves queue taken)
    (hclient : (o.sheets a.sheet).client = c) (hlooks : a.move.looks = true) :
    (o.exchange a.sheet).inbox.poll.1 = true ↔ .disconnect ∈ taken ++ o.takes a c := by
  subst hclient
  rw [takes_of_looks rfl hlooks]
  exact hi.poll_eq_true_iff

/-- What has been taken out of an inbox so far decides all that an act does with it. -/
theorem attends_of_leaves (hi : (o.inboxes c).Leaves queue taken)
    (hclient : (o.sheets a.sheet).client = c) (h : Handler) :
    o.Attends h a c taken (o.takes a c) := by
  have hgone := poll_eq_true_iff_of_leaves hi hclient
  refine ⟨waiting_eq_takes_append h hclient, ?takes_one, ?takes_none, ?tells, ?bypasses, ?spares⟩
  case takes_one =>
    intro hlooks hunseen
    have hpresent : (o.inboxes c).disconnected = false :=
      Bool.eq_false_iff.mpr fun hseen => hunseen (hi.noticed.mp hseen)
    rw [takes_of_looks hclient hlooks]
    unfold Inbox.due
    rw [hpresent]
    rfl
  case takes_none =>
    rintro (hlooks | hseen)
    · exact takes_of_not_looks hlooks
    · cases hlooks : a.move.looks with
      | false => exact takes_of_not_looks hlooks
      | true =>
          rw [takes_of_looks hclient hlooks]
          exact if_pos (hi.noticed.mpr hseen)
  case tells =>
    intro hmove
    have hanswer : (o.act h a).answer =
        .ok (.client (o.exchange a.sheet).inbox.poll.1) := by
      unfold Office.act
      rw [hmove]
      rfl
    have htells : (o.exchange a.sheet).inbox.poll.1 =
        decide (.disconnect ∈ taken ++ o.takes a c) := by
      rw [Bool.eq_iff_iff, decide_eq_true_iff]
      exact hgone (by rw [hmove]; rfl)
    rw [hanswer, htells]
  case bypasses =>
    intro i hmove hcancel
    rw [← hgone (by rw [hmove]; simp [Move.looks, hcancel]), bypassesAsCancelled_iff hmove,
      Exchange.reasonToDecline?_eq_cancelled_iff, hcancel]
    simp
  case spares =>
    intro hseen i hmove
    refine spares_of_declined hmove (Exchange.reasonToDecline?_eq_cancelled_iff.mpr ?_)
    cases hcancel : i.error.isCancellation with
    | true => exact Or.inl rfl
    | false => exact Or.inr ((hgone (by rw [hmove]; simp [Move.looks, hcancel])).mpr hseen)

/-- **A disconnect is noticed once and for good.** Whatever acts come before on the
sheets of all clients, an act of a client takes one message out of its inbox when it
looks, as long as one waits and no disconnect has been taken, and none otherwise. It
finds the client gone when a disconnect is among the messages taken, its own included,
and from then on no error of this client changes a draft or a memo or lets an
authenticator react. -/
theorem disconnects_are_noticed_for_good (hfresh : (o.inboxes c).disconnected = false)
    (h : Handler) (acts : List Act) :
    ∃ taken, (o.inboxes c).waiting = taken ++ ((o.after h acts).inboxes c).waiting
      ∧ (∀ a, (o.sheets a.sheet).client = c →
        ∃ here, (o.after h acts).Attends h a c taken here)
      ∧ (.disconnect ∈ taken → ∀ later a i, (o.sheets a.sheet).client = c →
        a.move = .handle i → ((o.after h acts).after h later).Spares h a) := by
  have hstart : (o.inboxes c).Leaves (o.inboxes c).waiting [] := ⟨rfl, by simp [hfresh]⟩
  obtain ⟨taken, hnow⟩ := leaves_after hstart h acts
  rw [List.nil_append] at hnow
  refine ⟨taken, hnow.split, ?_, ?_⟩
  · intro a hclient
    exact ⟨_, attends_of_leaves hnow (by rw [client_after, hclient]) h⟩
  · intro hseen later a i hclient hmove
    obtain ⟨more, hlater⟩ := leaves_after hnow h later
    have hattends := attends_of_leaves hlater (a := a)
      (by rw [client_after, client_after, hclient]) h
    exact hattends.spares (by simp [hseen]) i hmove

/-- Layers at work on a page for a client that hangs up after the first part of its body. -/
def hangingUp : Office where
  sheets _ := { request := missingPage.request }
  inboxes _ := { waiting := [.body, .disconnect, .body] }

theorem stranger_after_hanging_up_is_spared :
    (hangingUp.inboxes 0).disconnected = false
      ∧ (∀ later, ((hangingUp.after bearerHandler [⟨0, .poll⟩, ⟨1, .handle crash⟩]).after
        bearerHandler later).Spares bearerHandler ⟨0, .handle stranger⟩)
      ∧ (hangingUp.after bearerHandler [⟨0, .poll⟩]).BypassesAsCancelled bearerHandler
        ⟨1, .handle crash⟩ := by
  obtain ⟨taken, hsplit, -, hgood⟩ := disconnects_are_noticed_for_good (o := hangingUp) (c := 0)
    rfl bearerHandler [⟨0, .poll⟩, ⟨1, .handle crash⟩]
  obtain ⟨taken', hsplit', hacts, -⟩ := disconnects_are_noticed_for_good (o := hangingUp) (c := 0)
    rfl bearerHandler [⟨0, .poll⟩]
  have hqueue : [.body, .disconnect] ++ [.body] = taken ++ [ClientMessage.body] := hsplit
  have hqueue' : [.body] ++ [.disconnect, .body] = taken' ++ [.disconnect, ClientMessage.body] :=
    hsplit'
  obtain rfl := List.append_cancel_right hqueue
  obtain rfl := List.append_cancel_right hqueue'
  obtain ⟨here, hattends⟩ := hacts ⟨1, .handle crash⟩ rfl
  have hhere : here = [.disconnect] := hattends.takes_one rfl (by decide)
  subst hhere
  exact ⟨rfl, fun later => hgood (by decide) later _ stranger rfl rfl,
    (hattends.bypasses crash rfl rfl).mpr (by decide)⟩

end Office

end Triage
