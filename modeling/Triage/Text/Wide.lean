import Triage.Text.Glyph

/-!
# Texts in wide units

Bytes may stand for characters in units of two or of four bytes, with the great
or the small end first. Which it is shows in the zero bytes at the front, when
the first characters of the text are ASCII ones. Units of two bytes go in pairs
beyond the sixteen-bit range; halves of pairs are kept.
-/

namespace Triage.Text

/-- How bytes stand for characters. -/
structure Layout where
  /-- The number of bytes in a unit. -/
  width : Nat
  /-- Whether the first byte of a unit weighs most. -/
  greatFirst : Bool
  deriving DecidableEq, Repr

/-- The layout in wide units that zero bytes at the front show, if they show one. -/
def wideLayout? : List Nat → Option Layout
  | [a, b] => if a = 0 then some ⟨2, true⟩ else if b = 0 then some ⟨2, false⟩ else none
  | a :: b :: c :: d :: _ =>
    if a = 0 then some (if b = 0 then ⟨4, true⟩ else ⟨2, true⟩)
    else if b = 0 then some (if c = 0 ∧ d = 0 then ⟨4, false⟩ else ⟨2, false⟩)
    else none
  | _ => none

/-- The number that bytes stand for, the first one weighing most. -/
def ofBytes (bytes : List Nat) : Nat := bytes.foldl (fun n b => 256 * n + b) 0

/-- The unit that bytes stand for. -/
def Layout.unit (l : Layout) (bytes : List Nat) : Nat :=
  ofBytes (if l.greatFirst then bytes else bytes.reverse)

/-- The units of bytes; fails when some bytes are left over. `fuel` bounds the steps. -/
def Layout.units? (l : Layout) : Nat → List Nat → Option (List Nat)
  | 0, _ => none
  | fuel + 1, bytes =>
    if bytes.isEmpty then some []
    else if bytes.length < l.width then none
    else (l.units? fuel (bytes.drop l.width)).map (l.unit (bytes.take l.width) :: ·)

/-- The code points of two-byte units: two halves of a pair make one. -/
def joinPairs : List Nat → List Nat
  | a :: b :: rest =>
    if 0xd800 ≤ a ∧ a < 0xdc00 ∧ 0xdc00 ≤ b ∧ b < 0xe000 then
      (0x10000 + (a - 0xd800) * 0x400 + (b - 0xdc00)) :: joinPairs rest
    else a :: joinPairs (b :: rest)
  | units => units

/-- The text of bytes; fails when some bytes are left over, or stand for no
code point. -/
def Layout.decode? (l : Layout) (bytes : List Nat) : Option Text :=
  match l.units? (bytes.length + 1) bytes with
  | none => none
  | some units =>
    let points := if l.width = 2 then joinPairs units else units
    if points.all (· < 0x110000) then some (.ofList (points.map Glyph.ofNat)) else none

end Triage.Text
