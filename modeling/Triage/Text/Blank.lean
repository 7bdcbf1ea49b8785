import Triage.Text.Glyph
import Triage.Text.Ranges

/-!
# Blanks, and trimming them

The blanks are the characters that Unicode counts as white space together with
the four information separators U+001C to U+001F. The zero-width space and the
byte order mark are not among them.
-/

namespace Triage.Text

/-- The code points of blanks, as ascending ranges. -/
def blankRanges : List (Nat × Nat) := [
  (0x9, 0xd), (0x1c, 0x20), (0x85, 0x85), (0xa0, 0xa0), (0x1680, 0x1680), (0x2000, 0x200a),
  (0x2028, 0x2029), (0x202f, 0x202f), (0x205f, 0x205f), (0x3000, 0x3000)]

def isBlank (c : Char) : Bool := inRanges blankRanges c.toNat

def trimStart (cs : List Char) : List Char := cs.dropWhile isBlank

def trimEnd (cs : List Char) : List Char := (cs.reverse.dropWhile isBlank).reverse

def trim (cs : List Char) : List Char := trimEnd (trimStart cs)

def trimmed (s : String) : String := String.ofList (trim s.toList)

/-- Whether a text has nothing but blanks. -/
def isBlankText (s : String) : Bool := s.toList.all isBlank

/-- A text without the blanks at its end. -/
def trimmedEnd (t : Text) : Text :=
  .ofList (t.toList.reverse.dropWhile fun g => inRanges blankRanges g.toNat).reverse

end Triage.Text
