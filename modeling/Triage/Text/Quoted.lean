import Triage.Text.Glyph
import Triage.Text.Printable

/-!
# Quoted text

A text inside a displayed value stands in single quotes, or in double quotes
when it holds a single quote and no double one. The quote in use and the
backslash are escaped, and so is every character that cannot be shown, by its
number. Bytes are displayed in the same way after a `b`, with a number for
every byte beyond ASCII.
-/

namespace Triage.Text

/-- The small hexadecimal digit for a number below sixteen. -/
def hexDigit (n : Nat) : Char := if n < 10 then Char.ofNat (48 + n) else Char.ofNat (87 + n)

/-- The `width` lowest hexadecimal digits of a number. -/
def hexDigits : Nat → Nat → List Char
  | 0, _ => []
  | width + 1, n => hexDigits width (n / 16) ++ [hexDigit (n % 16)]

theorem exists_of_mem_hexDigits {c : Char} {width n : Nat} (h : c ∈ hexDigits width n) :
    ∃ k : Fin 16, hexDigit k = c := by
  induction width generalizing n with
  | zero => cases h
  | succ width ih =>
      rcases List.mem_append.mp h with hfront | hlast
      · exact ih hfront
      · exact ⟨⟨n % 16, Nat.mod_lt n (by decide)⟩, (List.mem_singleton.mp hlast).symm⟩

/-- A code point as an escape, as short as it allows. -/
def numberedPoint (n : Nat) : List Char :=
  if n < 0x100 then '\\' :: 'x' :: hexDigits 2 n
  else if n < 0x10000 then '\\' :: 'u' :: hexDigits 4 n
  else '\\' :: 'U' :: hexDigits 8 n

/-- The quote that a text is displayed in. -/
def quoteFor (gs : List Glyph) : Char :=
  if gs.contains '\'' && !gs.contains '"' then '"' else '\''

/-- What stands inside quotes of the kind `quote`, where `isShown` says which
characters can be shown. -/
def quotedBy (isShown : Char → Bool) (quote : Char) : Glyph → List Char
  | .half k => numberedPoint (Glyph.half k).toNat
  | .char c =>
    if c = quote ∨ c = '\\' then ['\\', c]
    else if c = '\n' then ['\\', 'n']
    else if c = '\r' then ['\\', 'r']
    else if c = '\t' then ['\\', 't']
    else if isShown c then [c]
    else numberedPoint c.toNat

/-- Whether a character is a printable one of ASCII. -/
def isPlain (c : Char) : Bool := 0x20 ≤ c.toNat && c.toNat < 0x7f

/-- Whether a character is shown in a displayed text. -/
def isShown (c : Char) : Bool := isPlain c || (0x7f < c.toNat && isPrintable c)

/-- A text in quotes. -/
def quoted (t : Text) : Text :=
  let q := quoteFor t.toList
  String.ofList (q :: t.toList.flatMap (quotedBy isShown q) ++ [q])

/-- The bytes of a text, as they are displayed. -/
def quotedBytes (s : String) : Text :=
  let bytes := s.toUTF8.toList.map fun b => Glyph.char (Char.ofNat b.toNat)
  let q := quoteFor bytes
  String.ofList ('b' :: q :: bytes.flatMap (quotedBy isPlain q) ++ [q])

end Triage.Text
