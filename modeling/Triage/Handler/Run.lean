import Triage.Exchange.Edit
import Triage.Handler

/-!
# Runs of an exchange

While a request is served, errors are handled and the draft is changed in turn,
the client may be looked at, and the draft may be given up for a new one. Each
of these is a move; a run is what a list of moves comes to, move by move.
-/

namespace Triage

inductive Move where
  | handle (i : Incident)
  | edit (e : Edit)
  | poll
  /-- Starts a new draft with a status. -/
  | renew (status : Int)
  deriving Repr

/-- What a move answers. -/
inductive MoveAnswer where
  | handled (outcome : Outcome)
  | client ( isGone : Bool)
  | done
  deriving DecidableEq, Repr

/-- An answer, the exchange after the move, and what has happened meanwhile. -/
structure Moved where
  answer : Except Trouble MoveAnswer
  exchange : Exchange
  events : List Event := []

namespace Handler

def move (h : Handler) (x : Exchange) : Move → Moved
  | .handle i =>
    let r := h.handle i x
    ⟨r.outcome.map .handled, r.exchange, r.events⟩
  | .edit e =>
    match x.draft.edit e with
    | .ok draft => { answer := .ok .done, exchange := { x with draft } }
    | .error t => { answer := .error t, exchange := x }
  | .poll =>
    let (gone, inbox) := x.inbox.poll
    { answer := .ok (.client gone), exchange := { x with inbox } }
  | .renew status => { answer := .ok .done, exchange := { x with draft := { status } } }

/-- What each of several moves comes to, made one after the other. -/
def run (h : Handler) (x : Exchange) : List Move → List Moved
  | [] => []
  | m :: ms =>
    let r := h.move x m
    r :: h.run r.exchange ms

def after (h : Handler) (x : Exchange) (ms : List Move) : Exchange :=
  ms.foldl (fun x m => (h.move x m).exchange) x

theorem run_append (h : Handler) (x : Exchange) (ms ns : List Move) :
    h.run x (ms ++ ns) = h.run x ms ++ h.run (h.after x ms) ns := by
  induction ms generalizing x with
  | nil => rfl
  | cons m ms ih => exact congrArg _ (ih _)

@[simp] theorem length_run (h : Handler) (x : Exchange) (ms : List Move) :
    (h.run x ms).length = ms.length := by
  induction ms generalizing x with
  | nil => rfl
  | cons m ms ih => exact congrArg Nat.succ (ih _)

theorem after_append (h : Handler) (x : Exchange) (ms ns : List Move) :
    h.after x (ms ++ ns) = h.after (h.after x ms) ns := List.foldl_append

/-- The answer at a place of a run is that of the move there, made after the moves
before it. -/
theorem getElem?_run (h : Handler) (x : Exchange) (ms : List Move) (k : Nat) :
    (h.run x ms)[k]? = ms[k]?.map (h.move (h.after x (ms.take k))) := by
  induction ms generalizing x k with
  | nil => rfl
  | cons m ms ih =>
      cases k with
      | zero => rfl
      | succ k => exact ih _ k

/-- What an invariant of moves holds of at first, it holds of after a run. -/
theorem after_induction {h : Handler} {P : Exchange → Prop} {ms : List Move}
    (hstep : ∀ x, ∀ m ∈ ms, P x → P (h.move x m).exchange) {x : Exchange} (hx : P x) :
    P (h.after x ms) := by
  induction ms generalizing x with
  | nil => exact hx
  | cons m ms ih =>
      exact ih (fun x m' hm' => hstep x m' (List.mem_cons_of_mem _ hm'))
        (hstep x m (List.mem_cons_self ..) hx)

end Handler

end Triage
