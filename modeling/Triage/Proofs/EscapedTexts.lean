import Mathlib.Data.List.Chain
import Triage.Json.Reader
import Triage.Proofs.Encodable

/-!
# Escaped texts, read back

Escapes are undone one character at a time (`Json.readString_escapeGlyph`), with one exception.
The halves of a surrogate pair are escaped by number like any other character, and where the two
halves of one pair meet, their escapes are those of the character that the pair stands for. So a
text is read back with such halves joined (`Json.readText_writeString`), and as it is where none
meet (`Json.joinHalves_of_isUnsplit`).
-/

namespace Triage

open Text

namespace Json

/-! ## Units -/

theorem hexValue?_hexDigit {k : Nat} (h : k < 16) : hexValue? (hexDigit k) = some k := by
  have hall : ∀ k : Fin 16, hexValue? (hexDigit k) = some k.val := by decide
  exact hall ⟨k, h⟩

theorem unit?_hexDigits {n : Nat} (h : n < 0x10000) :
    unit? (hexDigit (n / 16 / 16 / 16 % 16)) (hexDigit (n / 16 / 16 % 16)) (hexDigit (n / 16 % 16))
      (hexDigit (n % 16)) = some n := by
  have hlt : ∀ k, k % 16 < 16 := fun k => Nat.mod_lt k (by omega)
  simp only [unit?, hexValue?_hexDigit (hlt _), Option.bind_eq_bind, Option.bind_some,
    Option.pure_def, Option.some.injEq]
  omega

/-- A unit is read back where something follows. -/
theorem readUnit_hexDigits {n : Nat} (h : n < 0x10000) {tail : List Glyph} (htail : tail ≠ []) :
    readUnit ((hexDigits 4 n).map .char ++ tail) = .ok (n, tail) := by
  obtain ⟨g, gs, rfl⟩ := List.exists_cons_of_ne_nil htail
  have hdigits : (hexDigits 4 n).map .char ++ g :: gs =
      .char (hexDigit (n / 16 / 16 / 16 % 16)) :: .char (hexDigit (n / 16 / 16 % 16)) ::
        .char (hexDigit (n / 16 % 16)) :: .char (hexDigit (n % 16)) :: g :: gs := rfl
  rw [hdigits, readUnit, unit?_hexDigits h]

/-! ## Characters and their code points -/

theorem isHighSurrogate_iff {n : Nat} : isHighSurrogate n = true ↔ 0xd800 ≤ n ∧ n < 0xdc00 := by
  rw [isHighSurrogate, Bool.and_eq_true, decide_eq_true_eq, decide_eq_true_eq]

theorem isLowSurrogate_iff {n : Nat} : isLowSurrogate n = true ↔ 0xdc00 ≤ n ∧ n < 0xe000 := by
  rw [isLowSurrogate, Bool.and_eq_true, decide_eq_true_eq, decide_eq_true_eq]

/-- The two halves of one pair, in their order. -/
def Meet (a b : Glyph) : Prop :=
  isHighSurrogate a.toNat = true ∧ isLowSurrogate b.toNat = true

instance (a b : Glyph) : Decidable (Meet a b) :=
  inferInstanceAs (Decidable (_ ∧ _))

theorem Meet.bounds {a b : Glyph} (h : Meet a b) :
    (0xd800 ≤ a.toNat ∧ a.toNat < 0xdc00) ∧ 0xdc00 ≤ b.toNat ∧ b.toNat < 0xe000 :=
  ⟨isHighSurrogate_iff.mp h.1, isLowSurrogate_iff.mp h.2⟩

theorem Meet.isHalf {a b : Glyph} (h : Meet a b) : a.isHalf = true ∧ b.isHalf = true := by
  obtain ⟨⟨hlow, hhigh⟩, hlow', hhigh'⟩ := h.bounds
  rw [← Glyph.isSurrogate_toNat, ← Glyph.isSurrogate_toNat]
  exact ⟨Glyph.isSurrogate_iff.mpr ⟨hlow, by omega⟩, Glyph.isSurrogate_iff.mpr ⟨by omega, hhigh'⟩⟩

/-- The character that a pair stands for. -/
def pairOf (a b : Glyph) : Glyph :=
  Char.ofNat (0x10000 + (a.toNat - 0xd800) * 0x400 + (b.toNat - 0xdc00))

/-- The halves that meet, each two of them made one character. -/
def joinHalves : List Glyph → List Glyph
  | [] => []
  | [c] => [c]
  | a :: b :: rest =>
    if Meet a b then pairOf a b :: joinHalves rest else a :: joinHalves (b :: rest)

/-- No two halves of one pair meet. -/
def IsUnsplit (gs : List Glyph) : Prop := gs.IsChain fun a b => ¬Meet a b

instance : DecidablePred IsUnsplit := fun gs =>
  inferInstanceAs (Decidable (gs.IsChain fun a b => ¬Meet a b))

theorem IsUnsplit.not_meet {a b : Glyph} {gs : List Glyph} (h : IsUnsplit (a :: b :: gs)) :
    ¬Meet a b := (List.isChain_cons_cons.mp h).1

theorem IsUnsplit.tail {g : Glyph} {gs : List Glyph} (h : IsUnsplit (g :: gs)) : IsUnsplit gs :=
  h.of_cons

theorem joinHalves_of_isUnsplit {gs : List Glyph} (h : IsUnsplit gs) : joinHalves gs = gs := by
  fun_induction joinHalves gs with
  | case1 => rfl
  | case2 g => rfl
  | case3 a b rest hmeet ih => exact absurd hmeet h.not_meet
  | case4 a b rest hmeet ih => rw [ih h.tail]

theorem length_joinHalves_le (gs : List Glyph) : (joinHalves gs).length ≤ gs.length := by
  fun_induction joinHalves gs with
  | case1 => exact Nat.le_refl _
  | case2 g => exact Nat.le_refl _
  | case3 a b rest hmeet ih =>
      simp only [List.length_cons]
      omega
  | case4 a b rest hmeet ih =>
      rw [List.length_cons, List.length_cons]
      omega

/-- Joining makes a text shorter, unless there is nothing to join. -/
theorem joinHalves_eq_self_iff {gs : List Glyph} : joinHalves gs = gs ↔ IsUnsplit gs := by
  refine ⟨fun h => ?_, joinHalves_of_isUnsplit⟩
  fun_induction joinHalves gs with
  | case1 => exact .nil
  | case2 g => exact .singleton g
  | case3 a b rest hmeet ih =>
      have hlength := congrArg List.length h
      have hless := length_joinHalves_le rest
      simp only [List.length_cons] at hlength
      omega
  | case4 a b rest hmeet ih =>
      exact List.isChain_cons_cons.mpr ⟨hmeet, ih (List.cons.inj h).2⟩

theorem isUnsplit_of_isPaired {gs : List Glyph} (h : IsPaired gs) : IsUnsplit gs := by
  induction gs with
  | nil => exact .nil
  | cons a gs ih =>
      obtain ⟨ha, hgs⟩ := isPaired_cons.mp h
      cases gs with
      | nil => exact .singleton a
      | cons b gs =>
          refine List.isChain_cons_cons.mpr ⟨fun hmeet => ?_, ih hgs⟩
          rw [hmeet.isHalf.1] at ha
          cases ha

/-! ## What stands before more text -/

/-- No second half of a pair is read at the front of a text. -/
def Detached (tail : List Glyph) : Prop :=
  ∀ more, tail = .char '\\' :: .char 'u' :: more →
    ∃ n after, readUnit more = .ok (n, after) ∧ isLowSurrogate n = false

/-- A unit is read as a character of its own where it does not start a pair. -/
theorem readUnicode_unit {n : Nat} (h : n < 0x10000) {tail : List Glyph} (htail : tail ≠ [])
    (hdetached : isHighSurrogate n = true → Detached tail) :
    readUnicode ((hexDigits 4 n).map .char ++ tail) = .ok (Glyph.ofNat n, tail) := by
  rw [readUnicode, readUnit_hexDigits h htail]
  dsimp only
  split
  · rename_i hhigh
    split
    · rename_i more
      obtain ⟨low, after, hread, hlow⟩ := hdetached hhigh more rfl
      simp [hread, hlow]
    · rfl
  · rfl

/-- Both halves of a pair are read as one character. -/
theorem readUnicode_pair {n : Nat} (h : n < 0x100000) {tail : List Glyph} (htail : tail ≠ []) :
    readUnicode ((hexDigits 4 (0xd800 + n / 0x400)).map .char
        ++ (unitEscape (0xdc00 + n % 0x400) ++ tail)) =
      .ok (.char (Char.ofNat (0x10000 + n)), tail) := by
  have hhigh : isHighSurrogate (0xd800 + n / 0x400) = true := isHighSurrogate_iff.mpr (by omega)
  have hlow : isLowSurrogate (0xdc00 + n % 0x400) = true := isLowSurrogate_iff.mpr (by omega)
  have hlength :
      ¬((hexDigits 4 (0xdc00 + n % 0x400)).map Glyph.char ++ tail).length < 5 := by
    have hpos := List.length_pos_iff.mpr htail
    have hdigits : ((hexDigits 4 (0xdc00 + n % 0x400)).map Glyph.char).length = 4 := rfl
    rw [List.length_append]
    omega
  have hchar : 0x10000 + (0xd800 + n / 0x400 - 0xd800) * 0x400 + (0xdc00 + n % 0x400 - 0xdc00) =
      0x10000 + n := by omega
  rw [readUnicode, readUnit_hexDigits (by omega) (by simp [unitEscape])]
  simp only [hhigh, if_true, unitEscape, List.cons_append, hlength, if_false,
    readUnit_hexDigits (show 0xdc00 + n % 0x400 < 0x10000 by omega) htail, hlow, hchar]

/-- What is escaped by number is read back where something follows that is not the rest of
its pair. -/
theorem readUnicode_numberEscape {g : Glyph} {tail : List Glyph} (htail : tail ≠ [])
    (hdetached : isHighSurrogate g.toNat = true → Detached tail) :
    ∃ digits, numberEscape g.toNat ++ tail = .char '\\' :: .char 'u' :: digits
      ∧ readUnicode digits = .ok (g, tail) := by
  unfold numberEscape
  by_cases hsmall : g.toNat < 0x10000
  · rw [if_pos hsmall]
    refine ⟨(hexDigits 4 g.toNat).map .char ++ tail, rfl, ?_⟩
    rw [readUnicode_unit hsmall htail hdetached, Glyph.ofNat_toNat]
  · have hlimit := g.toNat_lt
    have hread := readUnicode_pair (n := g.toNat - 0x10000) (by omega) htail
    cases g with
    | char c =>
        rw [Glyph.toNat_char] at hsmall hread ⊢
        rw [Nat.add_sub_cancel' (by omega), Char.ofNat_toNat] at hread
        rw [if_neg hsmall]
        exact ⟨_, by rw [unitEscape, List.append_assoc]; rfl, hread⟩
    | half k =>
        rw [Glyph.toNat_half] at hsmall
        omega

/-- The escapes of halves that meet are read as the character of their pair. -/
theorem readUnicode_of_meet {a b : Glyph} (h : Meet a b) {tail : List Glyph} (htail : tail ≠ []) :
    ∃ digits, numberEscape a.toNat ++ (numberEscape b.toNat ++ tail) =
        .char '\\' :: .char 'u' :: digits
      ∧ readUnicode digits = .ok (pairOf a b, tail) := by
  have hbounds := h.bounds
  have hread := readUnicode_pair
    (n := (a.toNat - 0xd800) * 0x400 + (b.toNat - 0xdc00)) (by omega) htail
  rw [show 0xd800 + ((a.toNat - 0xd800) * 0x400 + (b.toNat - 0xdc00)) / 0x400 = a.toNat by omega,
    show 0xdc00 + ((a.toNat - 0xd800) * 0x400 + (b.toNat - 0xdc00)) % 0x400 = b.toNat by omega,
    ← Nat.add_assoc] at hread
  unfold numberEscape
  rw [if_pos (by omega), if_pos (by omega)]
  exact ⟨_, rfl, hread⟩

/-- What is written for a character or half of a pair: a short escape, itself, or an escape
by number. -/
theorem escapeGlyph_cases (asciiOnly : Bool) (g : Glyph) :
    (∃ e c, g = .char c ∧ escapeGlyph asciiOnly g = [.char '\\', e] ∧ e ≠ .char 'u'
        ∧ simpleEscape? e = some c)
      ∨ (escapeGlyph asciiOnly g = [g] ∧ g ≠ .char '"' ∧ g ≠ .char '\\' ∧ ¬g.toNat < 0x20)
      ∨ escapeGlyph asciiOnly g = numberEscape g.toNat := by
  have hshort : ∀ {e d : Char} {gs : List Glyph}, g = .char d → e ≠ 'u' →
      simpleEscape? e = some d →
      ∃ e' c, g = .char c ∧ (if g = .char d then [.char '\\', .char e] else gs) = [.char '\\', e']
        ∧ e' ≠ .char 'u' ∧ simpleEscape? e' = some c :=
    fun heq he hsimple => ⟨_, _, heq, if_pos heq, fun h => he (Glyph.char.inj h), hsimple⟩
  unfold escapeGlyph
  by_cases hquote : g = .char '"'
  · exact Or.inl (hshort hquote (by decide) rfl)
  rw [if_neg hquote]
  by_cases hslash : g = .char '\\'
  · exact Or.inl (hshort hslash (by decide) rfl)
  rw [if_neg hslash]
  by_cases hline : g = .char '\n'
  · exact Or.inl (hshort hline (by decide) rfl)
  rw [if_neg hline]
  by_cases hreturn : g = .char '\r'
  · exact Or.inl (hshort hreturn (by decide) rfl)
  rw [if_neg hreturn]
  by_cases htab : g = .char '\t'
  · exact Or.inl (hshort htab (by decide) rfl)
  rw [if_neg htab]
  by_cases hback : g = .char '\x08'
  · exact Or.inl (hshort hback (by decide) rfl)
  rw [if_neg hback]
  by_cases hfeed : g = .char '\x0c'
  · exact Or.inl (hshort hfeed (by decide) rfl)
  rw [if_neg hfeed]
  by_cases hcontrol : g.toNat < 0x20
  · rw [if_pos hcontrol]
    exact Or.inr (Or.inr (if_pos (by omega)).symm)
  rw [if_neg hcontrol]
  by_cases hplain : g.toNat < 0x7f
  · rw [if_pos hplain]
    exact Or.inr (Or.inl ⟨rfl, hquote, hslash, hcontrol⟩)
  rw [if_neg hplain]
  cases asciiOnly with
  | true => exact Or.inr (Or.inr (if_pos rfl))
  | false => exact Or.inr (Or.inl ⟨if_neg Bool.false_ne_true, hquote, hslash, hcontrol⟩)

/-- The escapes of a text start a pair only where the text starts with a second half. -/
theorem detached_escapeGlyph (asciiOnly : Bool) {g : Glyph}
    (hg : isLowSurrogate g.toNat = false) {tail : List Glyph} (htail : tail ≠ []) :
    Detached (escapeGlyph asciiOnly g ++ tail) := by
  intro more hmore
  rcases escapeGlyph_cases asciiOnly g with
    ⟨e, c, -, hescape, he, -⟩ | ⟨hescape, -, hslash, -⟩ | hescape
  · rw [hescape] at hmore
    exact absurd (List.cons.inj (List.cons.inj hmore).2).1 he
  · rw [hescape] at hmore
    exact absurd (List.cons.inj hmore).1 hslash
  · have hlimit := g.toNat_lt
    rw [hescape, numberEscape] at hmore
    by_cases hsmall : g.toNat < 0x10000
    · rw [if_pos hsmall] at hmore
      obtain rfl : (hexDigits 4 g.toNat).map .char ++ tail = more :=
        (List.cons.inj (List.cons.inj hmore).2).2
      exact ⟨_, _, readUnit_hexDigits hsmall htail, hg⟩
    · rw [if_neg hsmall, List.append_assoc] at hmore
      obtain rfl := (List.cons.inj (List.cons.inj hmore).2).2
      refine ⟨_, _, readUnit_hexDigits (by omega) (List.cons_ne_nil _ _),
        Bool.eq_false_iff.mpr fun hlow => ?_⟩
      have hbounds := isLowSurrogate_iff.mp hlow
      omega

section
variable {g : Glyph} {start fuel : Nat} {tail gs rest : List Glyph}

theorem readString_unicode {digits : List Glyph} (hdigits : readUnicode digits = .ok (g, tail))
    (h : readString start fuel tail = .ok (gs, rest)) :
    readString start (fuel + 1) (.char '\\' :: .char 'u' :: digits) = .ok (g :: gs, rest) := by
  simp [readString, hdigits, h]

theorem readString_simple {e : Glyph} {c : Char} (he : e ≠ .char 'u')
    (hsimple : simpleEscape? e = some c) (h : readString start fuel tail = .ok (gs, rest)) :
    readString start (fuel + 1) (.char '\\' :: e :: tail) = .ok (.char c :: gs, rest) := by
  simp [readString, hsimple, h]

theorem readString_plain (hquote : g ≠ .char '"') (hslash : g ≠ .char '\\')
    (hcontrol : ¬g.toNat < 0x20) (h : readString start fuel tail = .ok (gs, rest)) :
    readString start (fuel + 1) (g :: tail) = .ok (g :: gs, rest) := by
  simp [readString, hcontrol, h]

/-- **Escaping is undone by reading**, halves that meet apart. -/
theorem readString_escapeGlyph (asciiOnly : Bool) (htail : tail ≠ [])
    (hdetached : isHighSurrogate g.toNat = true → Detached tail)
    (h : readString start fuel tail = .ok (gs, rest)) :
    readString start (fuel + 1) (escapeGlyph asciiOnly g ++ tail) = .ok (g :: gs, rest) := by
  rcases escapeGlyph_cases asciiOnly g with
    ⟨e, c, rfl, hescape, he, hsimple⟩ | ⟨hescape, hquote, hslash, hcontrol⟩ | hescape <;>
    rw [hescape]
  · exact readString_simple he hsimple h
  · exact readString_plain hquote hslash hcontrol h
  · obtain ⟨digits, hdigits, hread⟩ := readUnicode_numberEscape htail hdetached
    rw [hdigits]
    exact readString_unicode hread h

theorem escapeGlyph_of_isHalf (h : g.isHalf = true) :
    escapeGlyph true g = numberEscape g.toNat := by
  have hbounds := Glyph.isSurrogate_iff.mp ((Glyph.isSurrogate_toNat g).trans h)
  rw [escapeGlyph_of_le true (by omega), if_pos rfl]

/-- Halves that meet are read as the character of their pair. -/
theorem readString_of_meet {a b : Glyph} (hmeet : Meet a b) (htail : tail ≠ [])
    (h : readString start fuel tail = .ok (gs, rest)) :
    readString start (fuel + 1) (escapeGlyph true a ++ (escapeGlyph true b ++ tail)) =
      .ok (pairOf a b :: gs, rest) := by
  obtain ⟨digits, hdigits, hread⟩ := readUnicode_of_meet hmeet htail
  rw [escapeGlyph_of_isHalf hmeet.isHalf.1, escapeGlyph_of_isHalf hmeet.isHalf.2, hdigits]
  exact readString_unicode hread h

theorem numberEscape_ne_nil (n : Nat) : numberEscape n ≠ [] := by
  unfold numberEscape
  split
  · exact List.cons_ne_nil _ _
  · exact List.append_ne_nil_of_left_ne_nil (List.cons_ne_nil _ _) _

theorem escapeGlyph_ne_nil (asciiOnly : Bool) (g : Glyph) : escapeGlyph asciiOnly g ≠ [] := by
  rcases escapeGlyph_cases asciiOnly g with ⟨e, c, -, hescape, -⟩ | ⟨hescape, -⟩ | hescape <;>
    rw [hescape]
  · exact List.cons_ne_nil _ _
  · exact List.cons_ne_nil _ _
  · exact numberEscape_ne_nil g.toNat

theorem length_le_length_flatMap_escapeGlyph (asciiOnly : Bool) (gs : List Glyph) :
    gs.length ≤ (gs.flatMap (escapeGlyph asciiOnly)).length := by
  induction gs with
  | nil => exact Nat.le_refl _
  | cons g gs ih =>
      have hpos := List.length_pos_iff.mpr (escapeGlyph_ne_nil asciiOnly g)
      rw [List.flatMap_cons, List.length_append, List.length_cons]
      omega

theorem readString_flatMap (asciiOnly : Bool) (hgs : asciiOnly = true ∨ IsPaired gs)
    (hfuel : gs.length < fuel) :
    readString start fuel (gs.flatMap (escapeGlyph asciiOnly) ++ .char '"' :: rest) =
      .ok (joinHalves gs, rest) := by
  have hend : ∀ hs : List Glyph, hs ++ .char '"' :: rest ≠ [] := fun hs => by simp
  fun_induction joinHalves gs generalizing fuel with
  | case1 =>
      obtain ⟨fuel, rfl⟩ := Nat.exists_eq_succ_of_ne_zero (by omega : fuel ≠ 0)
      rfl
  | case2 g =>
      rw [List.length_singleton] at hfuel
      obtain ⟨fuel, rfl⟩ := Nat.exists_eq_add_of_le' hfuel
      rw [List.flatMap_singleton]
      exact readString_escapeGlyph asciiOnly (List.cons_ne_nil _ _)
        (fun _ more hmore => absurd (List.cons.inj hmore).1 (by decide)) rfl
  | case3 a b gs hmeet ih =>
      simp only [List.length_cons] at hfuel
      obtain ⟨fuel, rfl⟩ := Nat.exists_eq_succ_of_ne_zero (by omega : fuel ≠ 0)
      -- A half can only be written where everything beyond ASCII is escaped.
      obtain rfl := hgs.resolve_right fun hpaired => (isUnsplit_of_isPaired hpaired).not_meet hmeet
      rw [List.flatMap_cons, List.flatMap_cons, List.append_assoc, List.append_assoc]
      exact readString_of_meet hmeet (hend _) (ih (Or.inl rfl) (by omega))
  | case4 a b gs hmeet ih =>
      simp only [List.length_cons] at hfuel
      obtain ⟨fuel, rfl⟩ := Nat.exists_eq_succ_of_ne_zero (by omega : fuel ≠ 0)
      have hless : (b :: gs).length < fuel := by
        rw [List.length_cons]
        omega
      have hrest := ih (hgs.imp_right fun hpaired => (isPaired_cons.mp hpaired).2) hless
      rw [List.flatMap_cons, List.append_assoc]
      refine readString_escapeGlyph asciiOnly (hend _) (fun hhigh => ?_) hrest
      rw [List.flatMap_cons, List.append_assoc]
      exact detached_escapeGlyph asciiOnly
        (Bool.eq_false_iff.mpr fun hlow => hmeet ⟨hhigh, hlow⟩) (hend _)

end

/-- A text with the halves that meet joined. -/
def rejoined (s : Text) : Text := .ofList (joinHalves s.toList)

theorem rejoined_eq_self_iff {s : Text} : rejoined s = s ↔ IsUnsplit s.toList := by
  rw [← joinHalves_eq_self_iff, rejoined, Text.ext_iff]

/-- **A string is read back, whatever follows it**, with the halves that meet joined. -/
theorem readText_writeString (asciiOnly : Bool) {s : Text}
    (hs : asciiOnly = true ∨ IsPairedText s) (rest : List Glyph) :
    ∃ gs, writeString asciiOnly s ++ rest = .char '"' :: gs
      ∧ readText gs = .ok (rejoined s, rest) := by
  refine ⟨s.toList.flatMap (escapeGlyph asciiOnly) ++ .char '"' :: rest, by simp [writeString], ?_⟩
  have hlength := length_le_length_flatMap_escapeGlyph asciiOnly s.toList
  rw [readText, readString_flatMap asciiOnly hs (by rw [List.length_append]; omega)]
  rfl

end Json

end Triage
