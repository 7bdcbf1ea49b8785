import Triage.Handler.Run

/-!
# Requests side by side

Several requests are served at a time, and for one request there may be several
responses in the making: every layer that deals with a request drafts one of its
own. A sheet is such a draft, with the request as it is known where the draft is
made. The sheets of one client share what this client still sends, and what is
remembered of its errors.
-/

namespace Triage

/-- A response in the making for a client. -/
structure Sheet where
  request : Request
  draft : Draft := {}
  client : Nat := 0

/-- All sheets, with what the sheets of a client share. -/
structure Office where
  sheets : Nat → Sheet
  inboxes : Nat → Inbox := fun _ => {}
  memos : Nat → Memo := fun _ => {}

/-- A move made on a sheet. -/
structure Act where
  sheet : Nat
  move : Move

/-- An act with the exchange that it found, and what came of it. -/
structure Transaction where
  act : Act
  found : Exchange
  moved : Moved

namespace Office

/-- A sheet as part of an exchange. -/
def exchange (o : Office) (n : Nat) : Exchange where
  request := (o.sheets n).request
  draft := (o.sheets n).draft
  inbox := o.inboxes (o.sheets n).client
  memo := o.memos (o.sheets n).client

/-- Takes over what has become of the exchange of a sheet. -/
def put (o : Office) (n : Nat) (x : Exchange) : Office where
  sheets k :=
    if k = n then { o.sheets n with request := x.request, draft := x.draft } else o.sheets k
  inboxes c := if c = (o.sheets n).client then x.inbox else o.inboxes c
  memos c := if c = (o.sheets n).client then x.memo else o.memos c

def act (h : Handler) (o : Office) (a : Act) : Moved := h.move (o.exchange a.sheet) a.move

def next (h : Handler) (o : Office) (a : Act) : Office := o.put a.sheet (o.act h a).exchange

/-- What each of several acts comes to, made one after the other. -/
def run (h : Handler) (o : Office) : List Act → List Transaction
  | [] => []
  | a :: acts => ⟨a, o.exchange a.sheet, o.act h a⟩ :: run h (o.next h a) acts

def after (h : Handler) (o : Office) (acts : List Act) : Office := acts.foldl (next h) o

/-- Everything that has happened during a run. -/
def events (h : Handler) (o : Office) (acts : List Act) : List Event :=
  (o.run h acts).flatMap (·.moved.events)

/-! ## What taking over changes -/

variable {o : Office} {n c : Nat}

theorem client_put (o : Office) (n : Nat) (x : Exchange) (k : Nat) :
    ((o.put n x).sheets k).client = (o.sheets k).client := by
  unfold put
  by_cases hk : k = n
  · subst hk
    simp
  · simp [hk]

theorem inboxes_put_self (o : Office) (n : Nat) (x : Exchange) :
    (o.put n x).inboxes (o.sheets n).client = x.inbox := if_pos rfl

theorem inboxes_put_of_ne (hc : c ≠ (o.sheets n).client) (x : Exchange) :
    (o.put n x).inboxes c = o.inboxes c := if_neg hc

/-- Where a sheet stays as it is, and what is remembered too, nothing but the inbox is
taken over. -/
theorem put_of_kept {x : Exchange} (hrequest : x.request = (o.sheets n).request)
    (hdraft : x.draft = (o.sheets n).draft) (hmemo : x.memo = o.memos (o.sheets n).client) :
    (o.put n x).sheets = o.sheets ∧ (o.put n x).memos = o.memos := by
  constructor
  · funext k
    unfold put
    by_cases hk : k = n
    · subst hk
      simp [hrequest, hdraft]
    · simp [hk]
  · funext k
    unfold put
    by_cases hk : k = (o.sheets n).client
    · simp [hk, hmemo]
    · simp [hk]

/-- A sheet belongs to one client for good. -/
theorem client_after (h : Handler) (o : Office) (acts : List Act) (k : Nat) :
    ((o.after h acts).sheets k).client = (o.sheets k).client := by
  induction acts generalizing o with
  | nil => rfl
  | cons a acts ih => exact (ih (o.next h a)).trans (o.client_put a.sheet _ k)

end Office

end Triage
