import Triage.Value
import Triage.Number.Text
import Triage.Text.Quoted

/-!
# Values as text

A value inside another one is displayed with its quotes; a text on its own is
its own text. Every list, tuple or object takes up a level of the room there is,
and the first obstacle that is met, from left to right, is the one reported.
-/

namespace Triage

open Number Text

/-- The displayed items of a tuple, in its parentheses. -/
def tupleText : List Text → Text
  | [s] => "(" ++ s ++ ",)"
  | shown => "(" ++ joined ", " shown ++ ")"

namespace Value

mutual

/-- A value as it is displayed inside others, where `room` levels are left. -/
def shownWithin (room : Nat) : Value → Except Obstacle Text
  | .null => .ok "None"
  | .bool b => .ok (if b then "True" else "False")
  | .int n => wholeText n
  | .float x => .ok x.text
  | .text s => .ok (quoted s)
  | .list items =>
    match room with
    | 0 => .error .tooDeepToShow
    | room + 1 => do return "[" ++ joined ", " (← allShownWithin room items) ++ "]"
  | .tuple items =>
    match room with
    | 0 => .error .tooDeepToShow
    | room + 1 => do return tupleText (← allShownWithin room items)
  | .object fields =>
    match room with
    | 0 => .error .tooDeepToShow
    | room + 1 => do return "\x7b" ++ joined ", " (← fieldsShownWithin room fields) ++ "\x7d"
  | .bytes s => .ok (quotedBytes s)
  | .thing t => t.shown

def allShownWithin (room : Nat) : List Value → Except Obstacle (List Text)
  | [] => .ok []
  | v :: rest => do return (← v.shownWithin room) :: (← allShownWithin room rest)

def fieldsShownWithin (room : Nat) : List (Text × Value) → Except Obstacle (List Text)
  | [] => .ok []
  | (k, v) :: rest => do
    return (quoted k ++ ": " ++ (← v.shownWithin room)) :: (← fieldsShownWithin room rest)

end

/-- A value as it is displayed inside others. -/
def shown (v : Value) : Except Obstacle Text := v.shownWithin deepest

/-- A value as a text of its own. -/
def asText : Value → Except Obstacle Text
  | .text s => .ok s
  | .thing t => t.text
  | v => v.shown

/-- A text for a value: `words`, or what stands for them where there is an obstacle. -/
def wordsOr (v : Value) (words : Except Obstacle Text) : Text :=
  match words with
  | .ok s => s
  | .error _ => "<unprintable " ++ v.typeName ++ " object>"

end Value

end Triage
