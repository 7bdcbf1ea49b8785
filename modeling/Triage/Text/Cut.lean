/-!
# Cutting rows of characters
-/

namespace Triage.Text

variable {α : Type} [DecidableEq α]

/-- The pieces of a row between the occurrences of a character. -/
def cutAt (c : α) : List α → List (List α)
  | [] => [[]]
  | d :: rest =>
    if d = c then [] :: cutAt c rest
    else
      match cutAt c rest with
      | [] => [[d]]
      | piece :: pieces => (d :: piece) :: pieces

/-- The part of a row before the first occurrence of a character and the part
after it. -/
def cutOnce? (c : α) (cs : List α) : Option (List α × List α) :=
  match cs.dropWhile (· != c) with
  | [] => none
  | _ :: rest => some (cs.takeWhile (· != c), rest)

end Triage.Text
