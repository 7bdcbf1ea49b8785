import Triage.Memo

/-!
# Runs of a memo

Classifications are asked for one after the other, for several errors in turn
and over several requests. A question may fill in what the answer leaves open;
what is filled in stays.
-/

namespace Triage

/-- What a problem's open fields are filled in from. -/
structure Filling where
  path : Text
  requestId : Option Text := none
  deriving DecidableEq, Repr

/-- Something asked of a memo. -/
inductive Ask where
  /-- A new request begins. -/
  | renew
  /-- Which problem an incident is, and whether to fill in what is open. -/
  | classify (i : Incident) (ambient : Value) (development : Bool) (filling : Option Filling)
  deriving Repr

namespace Memo

/-- Answers a question; a new request has no answer. -/
def ask (m : Memo) : Ask → Except Trouble (Option Remembered) × Memo
  | .renew => (.ok none, m.nextRequest)
  | .classify i ambient development filling =>
    match m.classify i ambient development with
    | (.error t, m) => (.error t, m)
    | (.ok r, m) =>
      match filling with
      | none => (.ok (some r), m)
      | some f =>
        (.ok (some { r with problem := r.problem.withDefaults f.path f.requestId }),
          m.fill i.number f.path f.requestId)

/-- The answers to several questions, asked one after the other. -/
def run (m : Memo) : List Ask → List (Except Trouble (Option Remembered))
  | [] => []
  | q :: qs =>
    let (answer, m) := m.ask q
    answer :: m.run qs

def after (m : Memo) (qs : List Ask) : Memo := qs.foldl (fun m q => (m.ask q).2) m

theorem run_append (m : Memo) (ps qs : List Ask) :
    m.run (ps ++ qs) = m.run ps ++ (m.after ps).run qs := by
  induction ps generalizing m with
  | nil => rfl
  | cons p ps ih => exact congrArg _ (ih _)

end Memo

end Triage
