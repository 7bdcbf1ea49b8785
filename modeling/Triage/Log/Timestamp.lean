import Triage.Cache.Duration

/-!
# Timestamps

A moment is given in seconds from the start of 1970 and written as a date and a
time of day in the calendar that leaps by the four-hundred-year rule, with
microseconds only when there are any.
-/

namespace Triage.Log

open Number

structure Date where
  year : Int
  month : Nat
  day : Nat
  deriving DecidableEq, Repr

/-- The date so many days from the first day of 1970. The years here start in
March, so that the leap day comes last, and go in rounds of four hundred. -/
def Date.ofDays (days : Int) : Date :=
  let shifted := days + 719468
  let era := shifted.fdiv 146097
  let dayOfEra := (shifted - era * 146097).toNat
  let yearOfEra := (dayOfEra - dayOfEra / 1460 + dayOfEra / 36524 - dayOfEra / 146096) / 365
  let dayOfYear := dayOfEra - (365 * yearOfEra + yearOfEra / 4 - yearOfEra / 100)
  let monthFromMarch := (5 * dayOfYear + 2) / 153
  let day := dayOfYear - (153 * monthFromMarch + 2) / 5 + 1
  let month := if monthFromMarch < 10 then monthFromMarch + 3 else monthFromMarch - 9
  ⟨yearOfEra + era * 400 + (if month ≤ 2 then 1 else 0), month, day⟩

/-- The seconds that a clock can count. -/
def clockLimit : Int := 0x8000000000000000

/-- The years that a calendar can count, from 1900 on. -/
def yearLimit : Int := 0x80000000

/-- The microseconds of a moment. -/
def momentOf (seconds : Seconds) : Except Trouble Int :=
  match seconds with
  | .real .nan => .error .timestampNotANumber
  | .real (.infinite _) => .error .timestampOutOfRange
  | s => s.microseconds

def padded (width n : Nat) : String := String.ofList (paddedDigits width n)

/-- The moment as text. A year beyond the calendar is reported as a 32-bit number. -/
def timestamp (seconds : Seconds) : Except Trouble String := do
  let moment ← momentOf seconds
  let whole := moment.fdiv 1000000
  let micros := (moment - whole * 1000000).toNat
  if whole < -clockLimit ∨ clockLimit ≤ whole then throw .timestampOutOfRange
  let days := whole.fdiv 86400
  let ofDay := (whole - days * 86400).toNat
  let date := Date.ofDays days
  if date.year - 1900 < -yearLimit ∨ yearLimit ≤ date.year - 1900 then throw .timestampTooLarge
  if date.year < 1 ∨ 9999 < date.year then throw (.yearOutOfRange (date.year.bmod 0x100000000))
  return padded 4 date.year.toNat ++ "-" ++ padded 2 date.month ++ "-" ++ padded 2 date.day ++
    "T" ++ padded 2 (ofDay / 3600) ++ ":" ++ padded 2 (ofDay / 60 % 60) ++ ":" ++
    padded 2 (ofDay % 60) ++ (if micros = 0 then "" else "." ++ padded 6 micros) ++ "+00:00"

end Triage.Log
