import Triage.Text.Glyph

/-!
# Characters that a coding cannot hold

Header texts may hold the first 256 code points only, and bodies any character
but no half of a surrogate pair. A text that holds more is refused at the first
run of characters that do not fit.
-/

namespace Triage.Text

/-- A run of characters that do not fit. -/
structure Unfit where
  /-- What the run starts with. -/
  first : Glyph
  /-- The number of characters before the run. -/
  start : Nat
  /-- The number of characters after the first one that belong to the run. -/
  more : Nat
  deriving DecidableEq, Repr

/-- The first run of characters that do not fit, if there is one. -/
def firstUnfit? (fits : Glyph → Bool) (gs : List Glyph) : Option Unfit :=
  match gs.dropWhile fits with
  | [] => none
  | g :: rest => some ⟨g, (gs.takeWhile fits).length, (rest.takeWhile (!fits ·)).length⟩

/-- Whether a character is one of the first 256 code points. -/
def isLatin (g : Glyph) : Bool := g.toNat < 256

/-- The first run of characters beyond Latin-1, if there is one. -/
def beyondLatin? (t : Text) : Option Unfit := firstUnfit? isLatin t.toList

/-- The first run of halves of surrogate pairs, if there is one. -/
def unpaired? (t : Text) : Option Unfit := firstUnfit? (!·.isHalf) t.toList

end Triage.Text
