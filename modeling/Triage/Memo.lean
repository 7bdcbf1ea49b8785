import Triage.Classify

/-!
# Remembering classifications

Within a request an error is classified once. Later questions about the same
error get the same problem, with whatever was filled in since. Every problem
remembered gets a serial number, so that it can be told whether two answers are
one and the same problem; numbers are never used again, in later requests neither.
-/

namespace Triage

/-- A problem under its serial number. -/
structure Remembered where
  serial : Nat
  problem : Problem
  deriving DecidableEq, Repr

/-- The problems of a request, by the number of the incident. -/
structure Memo where
  entries : List (Nat × Remembered) := []
  next : Nat := 0
  deriving Repr

namespace Memo

/-- What is remembered of an incident. -/
def find? (m : Memo) (number : Nat) : Option Remembered :=
  (m.entries.find? fun entry => entry.1 == number).map (·.2)

/-- A number from `n` on under which nothing is remembered. -/
def unusedFrom (m : Memo) (n : Nat) : Nat :=
  m.entries.foldr (fun entry least => max least (entry.1 + 1)) n

/-- The memo of the next request. -/
def nextRequest (m : Memo) : Memo := { m with entries := [] }

def remember (m : Memo) (number : Nat) (p : Problem) : Memo :=
  ⟨(number, ⟨m.next, p⟩) :: m.entries, m.next + 1⟩

/-- Changes the problem that is remembered of an incident. -/
def revise (m : Memo) (number : Nat) (change : Problem → Problem) : Memo :=
  { m with entries := m.entries.map fun entry =>
      if entry.1 = number then (entry.1, { entry.2 with problem := change entry.2.problem })
      else entry }

/-- The problem that an incident is, classified now unless it has been already. -/
def classify (m : Memo) (i : Incident) (ambient : Value) (development : Bool) :
    Except Trouble Remembered × Memo :=
  match m.find? i.number with
  | some r => (.ok r, m)
  | none =>
    match Triage.classify i.error ambient development with
    | .ok p => (.ok ⟨m.next, p⟩, m.remember i.number p)
    | .error t => (.error t, m)

/-- Fills in what the problem of an incident leaves open. -/
def fill (m : Memo) (number : Nat) (path : Text) (requestId : Option Text) : Memo :=
  m.revise number (·.withDefaults path requestId)

end Memo

end Triage
