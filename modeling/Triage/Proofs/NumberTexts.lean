import Triage.Number.Text
import Triage.Proofs.ReadBack
import Triage.Proofs.ShortestDigits

/-!
# Numbers as text, read back

A text spells a value when it is a row of digits, perhaps with a point or an exponent, that
says this value (`Json.Spells`). The layout of a number's digits keeps what they say, whichever
form it takes (`Json.spells_layOut`), and what the fewest digits of a number say is nearest to
no other number. So every number is read back from its text, the infinities and what is no
number included where these have texts (`Json.readScalar_textWith`).
-/

namespace Triage

open Number Text

namespace Number.Binary64

variable {negative : Bool} {m : Nat} {e : Int}

/-! ## Decimals read -/

/-- A decimal is read as the number nearest to what its digits say. -/
theorem ofDecimal_of_nearest {whole fraction : List Char} {exponent : Int}
    (hdigits : ∀ c ∈ whole ++ fraction, isDigit c = true) (hm : m ≠ 0)
    (hnearest : nearest false (ofDigits (whole ++ fraction) * 10 ^ (exponent - fraction.length)) =
      .finite false m e) :
    ofDecimal negative whole fraction exponent = .finite negative m e := by
  obtain ⟨hlow, hhigh⟩ := bounds_of_nearest (by positivity) hm hnearest
  have hvalue := ofDigits_dropWhile_zero (whole ++ fraction)
  have hrow : ∀ c ∈ (whole ++ fraction).dropWhile (· == '0'), isDigit c = true := fun c hc =>
    hdigits c ((List.dropWhile_suffix _).subset hc)
  have hhead := List.head?_dropWhile_not (· == '0') (whole ++ fraction)
  unfold ofDecimal
  generalize (whole ++ fraction).dropWhile (· == '0') = significant at hvalue hrow hhead ⊢
  generalize exponent - (fraction.length : Int) = shift at hlow hhigh hnearest ⊢
  rw [← hvalue] at hlow hhigh hnearest
  cases significant with
  | nil =>
      have hzero : ofDigits [] = 0 := rfl
      rw [hzero, Nat.cast_zero, zero_mul] at hlow
      exact absurd hlow (not_le.mpr (by positivity))
  | cons c cs =>
      have hc : isDigit c = true := hrow c (List.mem_cons_self ..)
      have hleast := pow_le_ofDigits_cons hc (by simpa using hhead) cs
      have hmost := ofDigits_lt hrow
      have hunit : (0 : ℚ) < 10 ^ shift := by positivity
      have hbelow : ((cs.length : Int) + shift) < 400 := by
        refine (zpow_lt_zpow_iff_right₀ (by norm_num : (1 : ℚ) < 10)).mp (lt_of_le_of_lt ?_ hhigh)
        rw [zpow_add₀ (by norm_num), zpow_natCast]
        exact mul_le_mul_of_nonneg_right (by exact_mod_cast hleast) hunit.le
      have habove : -400 < ((c :: cs).length : Int) + shift := by
        refine (zpow_lt_zpow_iff_right₀ (by norm_num : (1 : ℚ) < 10)).mp (lt_of_le_of_lt hlow ?_)
        rw [zpow_add₀ (by norm_num), zpow_natCast]
        exact mul_lt_mul_of_pos_right (by exact_mod_cast hmost) hunit
      dsimp only
      rw [List.length_cons] at habove ⊢
      rw [List.isEmpty_cons, if_neg Bool.false_ne_true, if_neg (by omega), if_neg (by omega),
        ofRatio_eq negative _ (tenTo_pos _), Nat.cast_mul, cast_tenTo, cast_tenTo, mul_div_assoc,
        ← zpow_eq_div (by norm_num)]
      exact nearest_of_sign hnearest

/-- **A number that is read from decimal digits is one as numbers are kept.** -/
theorem isCanonical_ofDecimal (negative : Bool) (whole fraction : List Char) (exponent : Int) :
    (ofDecimal negative whole fraction exponent).IsCanonical := by
  have hzero : (zero negative).IsCanonical := by cases negative <;> decide
  unfold ofDecimal
  dsimp only
  split
  · exact hzero
  · split
    · trivial
    · split
      · exact hzero
      · exact isCanonical_ofRatio negative _ (tenTo_pos _)

end Number.Binary64

namespace Json

variable {d : Dialect} {negative : Bool} {whole fraction : List Char} {rest : List Glyph}
  {power : Int}

/-! ## The parts of a number -/

/-- A part of a number ends where no digit follows. -/
theorem ends_of_not_digit {g : Glyph} (hg : isDigitGlyph g = false) (gs : List Glyph) :
    ∀ e ∈ (g :: gs).head?, isDigitGlyph e = false := by
  intro e he
  obtain rfl := Option.some.inj he
  exact hg

theorem isDigit_replicate_zero (k : Nat) : ∀ c ∈ List.replicate k '0', isDigit c = true := by
  intro c hc
  rw [List.eq_of_mem_replicate hc]
  rfl

theorem spanFraction_point (hne : fraction ≠ []) (hfraction : ∀ c ∈ fraction, isDigit c = true)
    (hrest : ∀ g ∈ rest.head?, isDigitGlyph g = false) :
    spanFraction (.char '.' :: (fraction.map .char ++ rest)) = (some fraction, rest) := by
  simp [spanFraction, frontDigits_append hfraction hrest, hne]

theorem isDigit_paddedDigits (width n : Nat) : ∀ c ∈ paddedDigits width n, isDigit c = true := by
  rw [paddedDigits, List.forall_mem_append]
  exact ⟨isDigit_replicate_zero _, isDigit_decimalDigits n⟩

theorem ofDigits_paddedDigits (width n : Nat) : ofDigits (paddedDigits width n) = n := by
  rw [paddedDigits, ofDigits_append, ofDigits_replicate_zero, ofDigits_decimalDigits, Nat.zero_mul,
    Nat.zero_add]

theorem paddedDigits_ne_nil (width n : Nat) : paddedDigits width n ≠ [] :=
  List.append_ne_nil_of_right_ne_nil _ (decimalDigits_ne_nil n)

theorem spanExponent_exponentText (l : NumberLayout) (power : Int)
    (hrest : ∀ g ∈ rest.head?, isDigitGlyph g = false) :
    spanExponent ((exponentText l power).map .char ++ rest) = (some power, rest) := by
  have hspan := frontDigits_append (isDigit_paddedDigits l.exponentDigits power.natAbs) hrest
  unfold exponentText spanExponent
  rcases lt_or_ge power 0 with hneg | hpos
  · have hvalue : -|power| = power := by rw [abs_of_neg hneg, neg_neg]
    simp [hneg, hspan, paddedDigits_ne_nil, ofDigits_paddedDigits, hvalue]
  · have hvalue : |power| = power := abs_of_nonneg hpos
    simp [not_lt.mpr hpos, hspan, paddedDigits_ne_nil, ofDigits_paddedDigits, hvalue]

/-- A number with digits after a point. -/
theorem readNumber_point (hwhole : IsWhole whole) (hne : fraction ≠ [])
    (hfraction : ∀ c ∈ fraction, isDigit c = true) (hrest : EndsNumber rest) :
    readNumber d negative (whole.map .char ++ .char '.' :: (fraction.map .char ++ rest)) =
      some (.ok (.float (.ofDecimal negative whole fraction 0), rest)) := by
  have hpoint : ∀ g ∈ (Glyph.char '.' :: (fraction.map .char ++ rest)).head?,
      isDigitGlyph g = false := ends_of_not_digit rfl _
  have hspan := spanWhole?_append hwhole hpoint
  unfold readNumber
  simp [hspan, spanFraction_point hne hfraction fun g hg => (hrest g hg).1,
    spanExponent_of_ends hrest]

/-- The digits after a point, if any, and the point. -/
def pointed (fraction : List Char) : List Char := if fraction = [] then [] else '.' :: fraction

/-- A number with an exponent. -/
theorem readNumber_exponent (l : NumberLayout) (hwhole : IsWhole whole)
    (hfraction : ∀ c ∈ fraction, isDigit c = true) (hrest : EndsNumber rest) :
    readNumber d negative
        (whole.map .char
          ++ ((pointed fraction).map .char ++ ((exponentText l power).map .char ++ rest))) =
      some (.ok (.float (.ofDecimal negative whole fraction power), rest)) := by
  have hexponent := spanExponent_exponentText l power fun g hg => (hrest g hg).1
  have hmark : ∀ g ∈ ((exponentText l power).map Glyph.char ++ rest).head?,
      isDigitGlyph g = false := ends_of_not_digit rfl _
  unfold readNumber pointed
  by_cases hne : fraction = []
  · subst hne
    have hnone : spanFraction ((exponentText l power).map .char ++ rest) =
        (none, (exponentText l power).map Glyph.char ++ rest) := rfl
    rw [if_pos rfl, List.map_nil, List.nil_append, spanWhole?_append hwhole hmark]
    simp [hnone, hexponent]
  · have hpoint : ∀ g ∈ (('.' :: fraction).map Glyph.char
        ++ ((exponentText l power).map Glyph.char ++ rest)).head?, isDigitGlyph g = false :=
      ends_of_not_digit rfl _
    rw [if_neg hne, spanWhole?_append hwhole hpoint]
    simp [spanFraction_point hne hfraction hmark, hexponent]

/-! ## What a text spells -/

/-- A text is read as the number nearest to a value, with either sign and whatever follows it. -/
def Spells (d : Dialect) (text : List Char) (x : ℚ) : Prop :=
  ∃ whole fraction : List Char, ∃ exponent : Int,
    (∀ c ∈ whole ++ fraction, isDigit c = true)
    ∧ (ofDigits (whole ++ fraction) : ℚ) * 10 ^ (exponent - fraction.length) = x
    ∧ ∀ negative rest, EndsNumber rest →
      readNumber d negative (text.map .char ++ rest) =
        some (.ok (.float (.ofDecimal negative whole fraction exponent), rest))

theorem Spells.readNumber {text : List Char} {x : ℚ} {m : Nat} {e : Int} (h : Spells d text x)
    (hnearest : Binary64.nearest false x = .finite false m e) (hm : m ≠ 0) (negative : Bool)
    (hrest : EndsNumber rest) :
    readNumber d negative (text.map .char ++ rest) =
      some (.ok (.float (.finite negative m e), rest)) := by
  obtain ⟨whole, fraction, exponent, hdigits, rfl, hread⟩ := h
  rw [hread negative rest hrest, Binary64.ofDecimal_of_nearest hdigits hm hnearest]

theorem IsWhole.isDigit (h : IsWhole whole) : ∀ c ∈ whole, isDigit c = true := by
  rcases h with rfl | ⟨c, cs, rfl, -, hdigits⟩
  · exact List.forall_mem_singleton.mpr (by decide)
  · exact hdigits

theorem spells_point (hwhole : IsWhole whole) (hne : fraction ≠ [])
    (hfraction : ∀ c ∈ fraction, isDigit c = true) :
    Spells d (whole ++ '.' :: fraction)
      (ofDigits (whole ++ fraction) * 10 ^ (-fraction.length : Int)) := by
  refine ⟨whole, fraction, 0, List.forall_mem_append.mpr ⟨hwhole.isDigit, hfraction⟩, ?_, ?_⟩
  · rw [zero_sub]
  · intro negative rest hrest
    rw [List.map_append, List.append_assoc, List.map_cons, List.cons_append]
    exact readNumber_point hwhole hne hfraction hrest

theorem spells_exponent (l : NumberLayout) (hwhole : IsWhole whole)
    (hfraction : ∀ c ∈ fraction, isDigit c = true) (power : Int) :
    Spells d (whole ++ (pointed fraction ++ exponentText l power))
      (ofDigits (whole ++ fraction) * 10 ^ (power - fraction.length)) := by
  refine ⟨whole, fraction, power, List.forall_mem_append.mpr ⟨hwhole.isDigit, hfraction⟩, rfl, ?_⟩
  intro negative rest hrest
  rw [List.map_append, List.map_append, List.append_assoc, List.append_assoc]
  exact readNumber_exponent l hwhole hfraction hrest

/-- Digits in their places below the point. -/
theorem spells_below {ds : List Char} (hds : ∀ c ∈ ds, isDigit c = true) (hne : ds ≠ []) (z : Nat) :
    Spells d ('0' :: '.' :: (List.replicate z '0' ++ ds))
      (ofDigits ds * 10 ^ (-(z + ds.length) : Int)) := by
  have hfraction : ∀ c ∈ List.replicate z '0' ++ ds, isDigit c = true :=
    List.forall_mem_append.mpr ⟨isDigit_replicate_zero z, hds⟩
  have hvalue : ofDigits (['0'] ++ (List.replicate z '0' ++ ds)) = ofDigits ds := by
    rw [ofDigits_append, ofDigits_append, ofDigits_replicate_zero]
    simp [ofDigits, digitValue]
  have hlength : ((List.replicate z '0' ++ ds).length : Int) = z + ds.length := by simp
  have hwhole : IsWhole ['0'] := Or.inl rfl
  have h := spells_point (d := d) hwhole (List.append_ne_nil_of_right_ne_nil _ hne) hfraction
  rwa [hvalue, hlength] at h

/-- Digits in their places on both sides of the point, or on its left alone. -/
theorem spells_around {c : Char} {cs : List Char} (hc : c ≠ '0')
    (hds : ∀ d ∈ c :: cs, isDigit d = true) (k : Nat) :
    Spells d ((c :: cs).take (k + 1) ++ List.replicate (k + 1 - (c :: cs).length) '0'
        ++ '.' :: (if ((c :: cs).drop (k + 1)).isEmpty then ['0'] else (c :: cs).drop (k + 1)))
      (ofDigits (c :: cs) * 10 ^ ((k : Int) + 1 - (c :: cs).length)) := by
  rcases Nat.lt_or_ge (k + 1) (c :: cs).length with hlong | hshort
  · have hwhole : IsWhole ((c :: cs).take (k + 1)) :=
      Or.inr ⟨c, cs.take k, rfl, hc, fun d hd => hds d (List.mem_of_mem_take hd)⟩
    have hne : (c :: cs).drop (k + 1) ≠ [] := by
      rw [Ne, List.drop_eq_nil_iff]
      omega
    have hfraction : ∀ d ∈ (c :: cs).drop (k + 1), isDigit d = true := fun d hd =>
      hds d (List.mem_of_mem_drop hd)
    have hlength : -(((c :: cs).drop (k + 1)).length : Int) = (k : Int) + 1 - (c :: cs).length := by
      rw [List.length_drop]
      omega
    have h := spells_point (d := d) hwhole hne hfraction
    rw [List.take_append_drop, hlength] at h
    rwa [show k + 1 - (c :: cs).length = 0 by omega, List.replicate_zero, List.append_nil,
      if_neg (by simpa using hne)]
  · generalize hzeros : k + 1 - (c :: cs).length = zeros
    have hwhole : IsWhole ((c :: cs) ++ List.replicate zeros '0') :=
      Or.inr ⟨c, _, rfl, hc, List.forall_mem_append.mpr ⟨hds, isDigit_replicate_zero zeros⟩⟩
    have hpower : (k : Int) + 1 - (c :: cs).length = zeros := by omega
    have hvalue : (ofDigits ((c :: cs) ++ List.replicate zeros '0' ++ ['0']) : ℚ)
          * 10 ^ (-(1 : Nat) : Int) = ofDigits (c :: cs) * 10 ^ (zeros : Int) := by
      rw [ofDigits_append_singleton, ofDigits_append, ofDigits_replicate_zero,
        List.length_replicate, zpow_natCast]
      simp [digitValue]
      ring
    have h := spells_point (d := d) hwhole (List.cons_ne_nil '0' [])
      (List.forall_mem_singleton.mpr rfl)
    rw [List.length_singleton, hvalue] at h
    rwa [List.take_of_length_le hshort, List.drop_eq_nil_of_le hshort, hpower]

/-- **The layout of a number's digits keeps its value.** -/
theorem spells_layOut {n : Nat} (hn : 0 < n) (power : Int) :
    Spells d (layOut numberLayout (decimalDigits n) power)
      (n * 10 ^ (power + 1 - (decimalDigits n).length)) := by
  obtain ⟨c, cs, hcs, hc⟩ := decimalDigits_of_pos hn
  have hds := isDigit_decimalDigits n
  have hvalue := ofDigits_decimalDigits n
  rw [hcs] at hds hvalue ⊢
  unfold layOut
  split
  · split
    · rename_i hneg
      have h := spells_below (d := d) hds (List.cons_ne_nil _ _) (-power - 1).toNat
      rw [hvalue] at h
      have hpower : power + 1 - (c :: cs).length =
          -((-power - 1).toNat + (c :: cs).length : Int) := by omega
      rwa [hpower]
    · rename_i hpos
      have h := spells_around (d := d) hc hds power.toNat
      rw [hvalue] at h
      rwa [show power = (power.toNat : Int) by omega]
  · have hwhole : IsWhole [c] :=
      Or.inr ⟨c, [], rfl, hc, List.forall_mem_singleton.mpr (hds c (List.mem_cons_self ..))⟩
    have h := spells_exponent (d := d) numberLayout hwhole
      (fun c hc => hds c (List.mem_cons_of_mem _ hc)) power
    have hlength : power - cs.length = power + 1 - (c :: cs).length := by
      rw [List.length_cons]
      omega
    rw [List.singleton_append, List.singleton_append, hvalue, hlength] at h
    cases cs <;> exact h

/-! ## Whole texts -/

/-- The digits of a finite number are read back with the sign before them. -/
theorem readNumber_layOut {m : Nat} {e : Int}
    (hcanonical : (Binary64.finite negative m e).IsCanonical) (hrest : EndsNumber rest) :
    readNumber d negative
        ((layOut numberLayout (decimalDigits (Binary64.shortest m e).digits)
          ((decimalDigits (Binary64.shortest m e).digits).length - 1
            + (Binary64.shortest m e).exponent)).map .char ++ rest) =
      some (.ok (.float (.finite negative m e), rest)) := by
  rcases Nat.eq_zero_or_pos m with rfl | hm
  · obtain rfl : e = Binary64.minExponent := hcanonical.2.2.2 (by decide)
    have hshortest : Binary64.shortest 0 Binary64.minExponent = ⟨0, 0⟩ := rfl
    have hzero : Binary64.ofDecimal negative ['0'] ['0'] 0 = .zero negative := by
      cases negative <;> rfl
    have hread : readNumber d negative (.char '0' :: .char '.' :: .char '0' :: rest) =
        some (.ok (.float (.ofDecimal negative ['0'] ['0'] 0), rest)) :=
      readNumber_point (Or.inl rfl) (List.cons_ne_nil '0' []) (List.forall_mem_singleton.mpr rfl)
        hrest
    rw [hzero] at hread
    rw [hshortest, decimalDigits_zero]
    exact hread
  · have hnearest := Binary64.nearest_shortest (e := e) hcanonical hm
    generalize Binary64.shortest m e = x at hnearest ⊢
    have hdigits : 0 < x.digits := by
      have hlow := (Binary64.bounds_of_nearest
        (by unfold Scaled.value; positivity) hm.ne' hnearest).1
      refine Nat.pos_of_ne_zero fun hzero => absurd hlow (not_le.mpr ?_)
      rw [Scaled.value, hzero, Nat.cast_zero, zero_mul]
      positivity
    have hspells := spells_layOut (d := d) hdigits
      ((decimalDigits x.digits).length - 1 + x.exponent)
    have hpower : ((decimalDigits x.digits).length : Int) - 1 + x.exponent + 1
        - (decimalDigits x.digits).length = x.exponent := by omega
    rw [hpower] at hspells
    exact hspells.readNumber hnearest hm.ne' negative hrest

/-- A dialect has the texts of a number: those of finite ones in any case. -/
def Dialect.Takes (d : Dialect) (x : Binary64) : Prop :=
  x.isFinite = false → d.specialNumbers = true

/-- **Every number is read back from its text.** -/
theorem readScalar_textWith {x : Binary64} (hcanonical : x.IsCanonical) (hx : d.Takes x)
    (hrest : EndsNumber rest) :
    readScalar d ((x.textWith specialNames : Text).toList ++ rest) = .ok (.float x, rest) := by
  cases x with
  | finite negative m e =>
      have hread := readScalar_of_readNumber (readNumber_layOut (d := d) hcanonical hrest)
      rw [← hread, Binary64.textWith, finiteText, Text.toList_ofString, String.toList_ofList]
      cases negative <;> rfl
  | infinite negative =>
      unfold readScalar
      rw [hx rfl]
      cases negative <;> rfl
  | nan =>
      unfold readScalar
      rw [hx rfl]
      rfl

/-- A number starts with nothing that another value or a blank could start with. -/
theorem textWith_eq_cons {x : Binary64} (hcanonical : x.IsCanonical) :
    ∃ g gs, (x.textWith specialNames : Text).toList = g :: gs ∧ isSpace g = false ∧
      g ≠ .char ']' ∧ g ≠ .char '"' ∧ g ≠ .char '[' ∧ g ≠ .char '{' := by
  cases x with
  | finite negative m e =>
      have hends : EndsNumber [] := fun _ hg => nomatch hg
      have hread := readNumber_layOut (d := wide) hcanonical hends
      obtain ⟨g, gs, hgs, hg⟩ := exists_digit_of_readNumber hread
      rw [List.append_nil] at hgs
      rw [Binary64.textWith, finiteText, Text.toList_ofString, String.toList_ofList]
      cases negative with
      | false => exact ⟨g, gs, hgs, not_special_of_isDigit hg⟩
      | true => exact ⟨.char '-', _, rfl, by decide⟩
  | infinite negative => cases negative <;> exact ⟨_, _, rfl, by decide⟩
  | nan => exact ⟨_, _, rfl, by decide⟩

theorem ReadsAs.float {st : Style} {x : Binary64} (hcanonical : x.IsCanonical) (hx : d.Takes x) :
    ReadsAs d st (.float x) (.float x) := by
  obtain ⟨g, gs, hgs, hspace, hbracket, hhead⟩ := textWith_eq_cons hcanonical
  refine .of_step ⟨g, gs, hgs, hspace, hbracket⟩ fun fuel depth rest _ hrest => ?_
  rw [← readScalar_textWith hcanonical hx hrest, write, hgs, List.cons_append]
  exact readValue_of_scalar hhead fuel depth _

end Json

end Triage
