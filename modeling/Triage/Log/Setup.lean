import Triage.Trouble

/-!
# Setting up logging

Logging is set up once: where handlers are there already, the level stays as it
is and nothing is checked. Every handler gets the same formatter.
-/

namespace Triage.Log

/-- The levels that can be set up by name. -/
def namedLevels : List (String × Int) := [
  ("CRITICAL", 50), ("FATAL", 50), ("ERROR", 40), ("WARN", 30), ("WARNING", 30), ("INFO", 20),
  ("DEBUG", 10), ("NOTSET", 0)]

/-- What logging is set up to do: from which level on records count, and the
service that each handler's formatter names. -/
structure Setup where
  level : Int
  services : List String
  deriving DecidableEq, Repr

def initialLevel : Int := 30

/-- Sets up logging where `existing` handlers are there already. -/
def setUp (level service : String) (existing : Nat) : Except Trouble Setup :=
  if existing = 0 then
    match namedLevels.find? (·.1 == level) with
    | some (_, number) => .ok ⟨number, [service]⟩
    | none => .error (.unknownLevel level)
  else .ok ⟨initialLevel, List.replicate existing service⟩

end Triage.Log
