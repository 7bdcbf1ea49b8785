import Triage.Text.Ranges
import Triage.Text.CaseTable

/-!
# Full lower-casing

Every capital letter becomes its small letter. Two letters need more than a
table: the dotted capital I becomes an i followed by a combining dot, and a
capital sigma at the end of a word becomes the final form of the small sigma.
A sigma ends a word when the nearest character before it, marks aside, is a
letter with case and the nearest one after it is not.
-/

namespace Triage.Text

/-- The small letter of a capital with exactly one, and every other character
as it is. -/
def smallLetter (c : Char) : Char :=
  match caseRuns.find? (fun r => r.first ≤ c.toNat && c.toNat ≤ r.last &&
      (c.toNat - r.first) % r.step == 0) with
  | some r => Char.ofNat (c.toNat + r.offset).toNat
  | none => c

/-- Whether the nearest character that case does not look through is a letter
with case. -/
def nextIsCased (cs : List Char) : Bool :=
  match cs.dropWhile (fun c => inRanges caseIgnorableRanges c.toNat) with
  | c :: _ => inRanges casedRanges c.toNat
  | [] => false

/-- Lower-cases `cs`, where `before` holds the characters already passed, the
nearest first. -/
def lowerAfter (before : List Char) : List Char → List Char
  | [] => []
  | c :: cs =>
    let small :=
      if c = 'Σ' then
        if nextIsCased before && !nextIsCased cs then ['ς'] else ['σ']
      else if c = 'İ' then ['i', '\u0307']
      else if c.toNat < 0x80 then [c.toLower]
      else [smallLetter c]
    small ++ lowerAfter (c :: before) cs

def lower (cs : List Char) : List Char := lowerAfter [] cs

def lowered (s : String) : String := String.ofList (lower s.toList)

end Triage.Text
