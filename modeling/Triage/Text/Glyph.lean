/-!
# Texts

A text is a row of code points. Nearly all of them are characters, and a text of
characters alone is a string. But a text that comes from elsewhere may hold half
of a surrogate pair, which is no character. So what stands at one place of a text
is a character or such a half.
-/

namespace Triage

/-- What stands at one place of a text. -/
inductive Glyph where
  | char (c : Char)
  /-- Half of a surrogate pair, by its distance from the first of them. -/
  | half (k : Fin 0x800)
  deriving DecidableEq, Repr, Inhabited

namespace Glyph

instance : Coe Char Glyph := ⟨char⟩

/-- The first half of a pair. -/
def firstHalf : Nat := 0xd800

/-- The code point. -/
def toNat : Glyph → Nat
  | char c => c.toNat
  | half k => firstHalf + k

@[simp] theorem toNat_char (c : Char) : (char c).toNat = c.toNat := rfl

@[simp] theorem toNat_half (k : Fin 0x800) : (half k).toNat = 0xd800 + k := rfl

/-- Whether a code point is half of a surrogate pair. -/
def isSurrogate (n : Nat) : Bool := firstHalf ≤ n && n < firstHalf + 0x800

/-- What a code point stands for. -/
def ofNat (n : Nat) : Glyph :=
  if isSurrogate n then half (Fin.ofNat 0x800 (n - firstHalf)) else char (Char.ofNat n)

def isHalf : Glyph → Bool
  | char _ => false
  | half _ => true

@[simp] theorem isHalf_char (c : Char) : (char c).isHalf = false := rfl

@[simp] theorem isHalf_half (k : Fin 0x800) : (half k).isHalf = true := rfl

/-- The character, or the replacement character for half of a pair. -/
def character : Glyph → Char
  | char c => c
  | half _ => '\ufffd'

theorem isSurrogate_iff {n : Nat} : isSurrogate n = true ↔ 0xd800 ≤ n ∧ n < 0xe000 := by
  rw [isSurrogate, Bool.and_eq_true, decide_eq_true_eq, decide_eq_true_eq]
  exact Iff.rfl

/-- The code points of halves are those that no character has. -/
theorem isSurrogate_toNat (g : Glyph) : isSurrogate g.toNat = g.isHalf := by
  cases g with
  | char c =>
      have hvalid : c.toNat < 0xd800 ∨ 0xdfff < c.toNat ∧ c.toNat < 0x110000 := c.valid
      refine Bool.eq_false_iff.mpr fun hhalf => ?_
      have hbounds := isSurrogate_iff.mp hhalf
      rw [toNat_char] at hbounds
      omega
  | half k =>
      refine isSurrogate_iff.mpr ?_
      rw [toNat_half]
      omega

theorem toNat_lt (g : Glyph) : g.toNat < 0x110000 := by
  cases g with
  | char c =>
      have hvalid : c.toNat < 0xd800 ∨ 0xdfff < c.toNat ∧ c.toNat < 0x110000 := c.valid
      rw [toNat_char]
      omega
  | half k =>
      rw [toNat_half]
      omega

/-- A code point stands for what has it. -/
theorem ofNat_toNat (g : Glyph) : ofNat g.toNat = g := by
  have hhalf := isSurrogate_toNat g
  unfold ofNat
  cases g with
  | char c =>
      rw [hhalf, isHalf, if_neg Bool.false_ne_true, toNat_char, Char.ofNat_toNat]
  | half k =>
      rw [hhalf, isHalf, if_pos rfl, toNat_half, firstHalf, Nat.add_sub_cancel_left]
      exact congrArg half (Fin.ofNat_val_eq_self k)

theorem toNat_inj {g h : Glyph} (heq : g.toNat = h.toNat) : g = h := by
  rw [← ofNat_toNat g, heq, ofNat_toNat]

end Glyph

/-- A row of characters and halves of surrogate pairs. -/
@[ext] structure Text where
  ofList ::
  toList : List Glyph
  deriving DecidableEq, Repr, Inhabited

namespace Text

/-- A string as a text. -/
@[coe] def ofString (s : String) : Text := ofList (s.toList.map .char)

instance : Coe String Text := ⟨ofString⟩

/-- A text as a string, with the replacement character for every half of a pair. -/
def string (t : Text) : String := String.ofList (t.toList.map Glyph.character)

def singleton (g : Glyph) : Text := ofList [g]

def isEmpty (t : Text) : Bool := t.toList.isEmpty

def length (t : Text) : Nat := t.toList.length

instance : Append Text := ⟨fun s t => ofList (s.toList ++ t.toList)⟩

/-- Whether no half of a pair stands in a text. -/
def isWhole (t : Text) : Bool := t.toList.all (!·.isHalf)

/-- Joins texts with a separator between them. -/
def joined (separator : Text) : List Text → Text
  | [] => ""
  | [s] => s
  | s :: rest => s ++ separator ++ joined separator rest

/-- Texts one after the other. -/
def join (texts : List Text) : Text := ofList (texts.flatMap toList)

@[simp] theorem toList_ofString (s : String) : (s : Text).toList = s.toList.map .char := rfl

@[simp] theorem toList_append (s t : Text) : (s ++ t).toList = s.toList ++ t.toList := rfl

theorem toList_joined (separator : Text) (texts : List Text) :
    (joined separator texts).toList = separator.toList.intercalate (texts.map toList) := by
  induction texts with
  | nil => rfl
  | cons s rest ih =>
      cases rest with
      | nil => simp [joined]
      | cons t rest =>
          show s.toList ++ separator.toList ++ (joined separator (t :: rest)).toList = _
          rw [ih]
          exact List.intercalate_cons_cons.symm

theorem toList_eq_nil_iff {s : Text} : s.toList = [] ↔ s = "" := ⟨Text.ext, congrArg toList⟩

@[simp] theorem isEmpty_iff {s : Text} : s.isEmpty = true ↔ s = "" := by
  rw [isEmpty, List.isEmpty_iff, toList_eq_nil_iff]

@[simp] theorem isEmpty_eq_false_iff {s : Text} : s.isEmpty = false ↔ s ≠ "" := by
  rw [← Bool.not_eq_true, isEmpty_iff]

@[simp] theorem string_ofString (s : String) : (s : Text).string = s := by
  simp [string, Glyph.character, Function.comp_def]

@[simp] theorem ofString_inj {s t : String} : (s : Text) = t ↔ s = t := by
  refine ⟨fun h => ?_, congrArg ofString⟩
  rw [← string_ofString s, h, string_ofString]

theorem ofString_append (s t : String) : ((s ++ t : String) : Text) = (s : Text) ++ (t : Text) :=
  Text.ext (by simp)

theorem ofString_ne {s t : String} (h : s ≠ t) : (s : Text) ≠ t := mt ofString_inj.mp h

/-! ## The order of texts -/

/-- The code points of a text. -/
def codes (t : Text) : List Nat := t.toList.map Glyph.toNat

/-- Texts are ordered by their code points, the first of them counting most. -/
instance : LT Text := ⟨fun s t => List.Lex (· < ·) s.codes t.codes⟩

instance (s t : Text) : Decidable (s < t) := List.decidableLex (· < ·) s.codes t.codes

theorem codes_inj {s t : Text} (h : s.codes = t.codes) : s = t :=
  Text.ext ((List.map_inj_right fun _ _ => Glyph.toNat_inj).mp h)

protected theorem lt_irrefl (s : Text) : ¬s < s := List.lt_irrefl s.codes

protected theorem lt_trans {s t u : Text} (hst : s < t) (htu : t < u) : s < u :=
  List.lt_trans hst htu

instance : Std.Asymm fun s t : Text => s < t :=
  ⟨fun _ _ hst hts => Text.lt_irrefl _ (Text.lt_trans hst hts)⟩

protected theorem lt_of_not_lt_of_ne {s t : Text} (h : ¬s < t) (hne : s ≠ t) : t < s := by
  refine Decidable.byContradiction fun hlt => hne (codes_inj ?_)
  exact List.le_antisymm (List.not_lt.mp hlt) (List.not_lt.mp h)

end Text

end Triage
