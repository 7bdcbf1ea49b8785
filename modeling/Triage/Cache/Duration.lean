import Triage.Trouble

/-!
# Durations and moments

Durations and moments are whole microseconds; moments are counted from the start
of the clock. A duration given in seconds is rounded to the nearest microsecond,
a tie to the even one.
-/

namespace Triage

open Number

/-- A number of seconds as it is given. -/
inductive Seconds where
  | whole (n : Int)
  | real (x : Binary64)
  deriving DecidableEq, Repr

namespace Seconds

/-- Whether there are no seconds at all. -/
def isZero : Seconds → Bool
  | .whole n => n == 0
  | .real x => x.isZero

def microseconds : Seconds → Except Trouble Int
  | .whole n => .ok (n * 1000000)
  | .real x =>
    match x.millionths? with
    | some n => .ok n
    | none => .error (if x = .nan then .durationNotANumber else .durationInfinite)

end Seconds

namespace Duration

def day : Int := 86400000000

/-- The most days of a duration. -/
def maxDays : Int := 999999999

/-- The days that can be counted at all. -/
def countableDays : Int := 0x80000000

/-- The duration of a number of microseconds. -/
def checked (n : Int) : Except Trouble Int :=
  let days := n.fdiv day
  if days < -countableDays ∨ countableDays ≤ days then .error .durationUncountable
  else if days < -maxDays ∨ maxDays < days then .error (.durationTooLong days)
  else .ok n

def ofSeconds (s : Seconds) : Except Trouble Int :=
  match s.microseconds with
  | .ok n => checked n
  | .error t => .error t

/-- A duration in seconds, as near as a binary64 number comes to it. -/
def inSeconds (n : Int) : Binary64 := .ofRatio (n < 0) n.natAbs 1000000

end Duration

namespace Moment

/-- The first moment of the calendar: the clock starts 739616 days later. -/
def first : Int := -(739616 * Duration.day)

/-- The last moment of the calendar, just before 2912443 days are over. -/
def last : Int := 2912443 * Duration.day - 1

/-- The moment a duration after another one. -/
def after (moment duration : Int) : Except Trouble Int :=
  let m := moment + duration
  if first ≤ m ∧ m ≤ last then .ok m else .error .momentOutOfRange

end Moment

end Triage
