import Triage.Proofs.Digits
import Triage.Proofs.EscapedTexts
import Triage.Proofs.Fields
import Triage.Value.Part

/-!
# JSON read back

What is written is read back, whatever follows it: a number as long as no character
follows that a number could go on with, everything else in any case. Lists and objects are
read item by item, and what is said of a list or an object is what is said of the items
(`Json.ReadsAs.list`, `Json.ReadsAs.object`); a plain value is read as itself
(`Json.IsPlain.readsBack`).
-/

namespace Triage

open Number Text

namespace Json

/-! ## Numbers -/

/-- A number does not go on with what follows. -/
def EndsNumber (rest : List Glyph) : Prop :=
  ∀ g ∈ rest.head?, isDigitGlyph g = false ∧ g ≠ .char '.' ∧ g ≠ .char 'e' ∧ g ≠ .char 'E'

/-- What stands before a point: one zero, or a row of digits that starts with another one. -/
def IsWhole (ds : List Char) : Prop :=
  ds = ['0'] ∨ ∃ c cs, ds = c :: cs ∧ c ≠ '0' ∧ ∀ d ∈ ds, isDigit d = true

theorem isWhole_decimalDigits (n : Nat) : IsWhole (decimalDigits n) := by
  rcases Nat.eq_zero_or_pos n with rfl | hpos
  · exact Or.inl decimalDigits_zero
  · obtain ⟨c, cs, hcs, hc⟩ := decimalDigits_of_pos hpos
    exact Or.inr ⟨c, cs, hcs, hc, isDigit_decimalDigits n⟩

theorem spanWhole?_append {ds : List Char} {rest : List Glyph} (hds : IsWhole ds)
    (hrest : ∀ g ∈ rest.head?, isDigitGlyph g = false) :
    spanWhole? (ds.map .char ++ rest) = some (ds, rest) := by
  rcases hds with rfl | ⟨c, cs, rfl, hc, hdigits⟩
  · rfl
  · have hspan := frontDigits_append hdigits hrest
    rw [List.map_cons, List.cons_append] at hspan ⊢
    unfold spanWhole?
    split
    · rename_i heq
      exact absurd (Glyph.char.inj (List.cons.inj heq).1) hc
    · simp [hspan]

theorem spanFraction_of_ends {rest : List Glyph} (hrest : EndsNumber rest) :
    spanFraction rest = (none, rest) := by
  unfold spanFraction
  split
  · exact absurd rfl (hrest _ rfl).2.1
  · rfl

theorem spanExponent_of_ends {rest : List Glyph} (hrest : EndsNumber rest) :
    spanExponent rest = (none, rest) := by
  cases rest with
  | nil => rfl
  | cons g gs =>
      obtain ⟨-, -, hsmall, hcapital⟩ := hrest g rfl
      exact if_neg (not_or.mpr ⟨hsmall, hcapital⟩)

/-- A dialect without limits. -/
structure Dialect.IsUnlimited (d : Dialect) : Prop where
  digits : d.digitLimit = none
  depth : d.depthLimit = none

theorem isUnlimited_strict : strict.IsUnlimited := ⟨rfl, rfl⟩

theorem readNumber_decimalDigits {d : Dialect} (hd : d.IsUnlimited) (negative : Bool) (n : Nat)
    {rest : List Glyph} (hrest : EndsNumber rest) :
    readNumber d negative ((decimalDigits n).map .char ++ rest) =
      some (.ok (.int (if negative then -(n : Int) else n), rest)) := by
  have hwhole := spanWhole?_append (isWhole_decimalDigits n) fun g hg => (hrest g hg).1
  unfold readNumber
  simp [hwhole, spanFraction_of_ends hrest, spanExponent_of_ends hrest, hd.digits, exceeds,
    ofDigits_decimalDigits]

/-- The words that stand for a value. -/
def words : List String := ["null", "true", "false", "NaN", "Infinity", "-Infinity"]

theorem after?_eq_none {word : String} {gs : List Glyph} (h : ¬(word : Text).toList <+: gs) :
    after? word gs = none := by
  unfold after?
  rw [if_neg (mt List.isPrefixOf_iff_prefix.mp h)]

/-- The number at the front of a text, with or without a minus sign. -/
def frontNumber? (d : Dialect) : List Glyph → Option (Parsed Value)
  | .char '-' :: rest => readNumber d true rest
  | gs => readNumber d false gs

theorem readScalar_of_no_word (d : Dialect) {gs : List Glyph}
    (h : ∀ word ∈ words, ¬(word : Text).toList <+: gs) :
    readScalar d gs = (frontNumber? d gs).getD (.error ⟨.value, gs.length⟩) := by
  simp only [words, List.forall_mem_cons] at h
  obtain ⟨hnull, htrue, hfalse, hnan, hinfinity, hnegative, -⟩ := h
  unfold readScalar
  cases d.specialNumbers <;>
    simp only [List.findSome?_cons, List.findSome?_nil, List.cons_append, List.nil_append,
      after?_eq_none hnull, after?_eq_none htrue, after?_eq_none hfalse, after?_eq_none hnan,
      after?_eq_none hinfinity, after?_eq_none hnegative, Option.map_none, Bool.false_eq_true,
      if_true, if_false] <;>
    rfl

theorem isDigit_head_decimalDigits (n : Nat) :
    ∃ c cs, decimalDigits n = c :: cs ∧ isDigit c = true := by
  obtain ⟨c, cs, hcs⟩ := List.exists_cons_of_ne_nil (decimalDigits_ne_nil n)
  exact ⟨c, cs, hcs, isDigit_decimalDigits n c (hcs ▸ List.mem_cons_self ..)⟩

theorem not_prefix_of_isDigit {g : Glyph} (hg : isDigitGlyph g = true) (gs : List Glyph)
    {ws : List Glyph} (hws : ws.head?.map isDigitGlyph = some false) : ¬ws <+: g :: gs := by
  intro hprefix
  cases ws with
  | nil => cases hws
  | cons w ws =>
      rw [(List.cons_prefix_cons.mp hprefix).1, List.head?_cons, Option.map_some, hg] at hws
      cases hws

/-- No word starts with a digit. -/
theorem no_word_of_isDigit {g : Glyph} (hg : isDigitGlyph g = true) (gs : List Glyph) :
    ∀ word ∈ words, ¬(word : Text).toList <+: g :: gs := by
  have hheads : ∀ word ∈ words, (word : Text).toList.head?.map isDigitGlyph = some false := by
    decide
  exact fun word hword => not_prefix_of_isDigit hg gs (hheads word hword)

/-- No word goes on with a digit after a minus sign. -/
theorem no_word_of_minus {g : Glyph} (hg : isDigitGlyph g = true) (gs : List Glyph) :
    ∀ word ∈ words, ¬(word : Text).toList <+: .char '-' :: g :: gs := by
  have hseconds : ∀ word ∈ words,
      (word : Text).toList.tail.head?.map isDigitGlyph = some false := by decide
  intro word hword hprefix
  have hsecond := hseconds word hword
  cases hglyphs : (word : Text).toList with
  | nil =>
      rw [hglyphs] at hsecond
      cases hsecond
  | cons w ws =>
      rw [hglyphs] at hprefix hsecond
      exact not_prefix_of_isDigit hg gs hsecond (List.cons_prefix_cons.mp hprefix).2

theorem exists_digit_of_readNumber {d : Dialect} {negative : Bool} {gs : List Glyph}
    {r : Parsed Value} (h : readNumber d negative gs = some r) :
    ∃ g rest, gs = g :: rest ∧ isDigitGlyph g = true := by
  cases gs with
  | nil => cases h
  | cons g rest =>
      refine ⟨g, rest, rfl, ?_⟩
      by_contra hg
      have hzero : g ≠ .char '0' := fun heq => hg (heq ▸ rfl)
      have hnone : spanWhole? (g :: rest) = none := by
        unfold spanWhole?
        split
        · rename_i heq
          exact absurd (List.cons.inj heq).1 hzero
        · simp [frontDigits, hg]
      rw [readNumber, hnone] at h
      cases h

/-- A number at the front is what is read there, with its sign. -/
theorem readScalar_of_readNumber {d : Dialect} {negative : Bool} {gs : List Glyph}
    {r : Parsed Value} (h : readNumber d negative gs = some r) :
    readScalar d (if negative then .char '-' :: gs else gs) = r := by
  obtain ⟨g, rest, rfl, hg⟩ := exists_digit_of_readNumber h
  cases negative with
  | true =>
      rw [if_pos rfl, readScalar_of_no_word d (no_word_of_minus hg rest), frontNumber?, h]
      rfl
  | false =>
      have hminus : g ≠ .char '-' := fun heq => by rw [heq] at hg; revert hg; decide
      rw [if_neg Bool.false_ne_true, readScalar_of_no_word d (no_word_of_isDigit hg rest)]
      unfold frontNumber?
      split
      · rename_i heq
        exact absurd (List.cons.inj heq).1 hminus
      · rw [h]
        rfl

/-- A whole number is read back where nothing follows that it could go on with. -/
theorem readScalar_decimalText {d : Dialect} (hd : d.IsUnlimited) (n : Int) {rest : List Glyph}
    (hrest : EndsNumber rest) :
    readScalar d ((decimalText n : Text).toList ++ rest) = .ok (.int n, rest) := by
  cases n with
  | ofNat k =>
      rw [decimalText, Text.toList_ofString, String.toList_ofList]
      exact readScalar_of_readNumber (readNumber_decimalDigits hd false k hrest)
  | negSucc k =>
      rw [decimalText, Text.toList_ofString, String.toList_ofList]
      exact readScalar_of_readNumber (readNumber_decimalDigits hd true (k + 1) hrest)

/-! ## Values -/

/-- What JSON holds without loss: whole numbers of a size that can be read, texts without
halves of surrogate pairs, lists, and objects whose names are distinct. -/
inductive IsPlain : Value → Prop
  | null : IsPlain .null
  | bool (b : Bool) : IsPlain (.bool b)
  | int {n : Int} : (decimalDigits n.natAbs).length ≤ mostDigits → IsPlain (.int n)
  | float (x : Binary64) : IsPlain (.float x)
  | text {s : Text} : IsPairedText s → IsPlain (.text s)
  | list {items : List Value} : (∀ v ∈ items, IsPlain v) → IsPlain (.list items)
  | object {fields : List (Text × Value)} : (fields.map (·.1)).Nodup →
      (∀ f ∈ fields, IsPairedText f.1) → (∀ f ∈ fields, IsPlain f.2) → IsPlain (.object fields)

/-- A layout whose separators read as separators: a comma and a colon, and nothing but
blanks after them. -/
structure Style.Separates (st : Style) : Prop where
  item : ∃ blanks, st.itemSeparator = .char ',' :: blanks ∧ ∀ g ∈ blanks, isSpace g = true
  key : ∃ blanks, st.keySeparator = .char ':' :: blanks ∧ ∀ g ∈ blanks, isSpace g = true

/-- A value's text is read as a value, whatever follows it that could not be more of it. -/
structure ReadsAs (d : Dialect) (st : Style) (v w : Value) : Prop where
  /-- The text starts with no blank and no closing bracket. -/
  start : ∃ g gs, write st v = g :: gs ∧ isSpace g = false ∧ g ≠ .char ']'
  value : ∀ fuel depth rest, 2 * (write st v).length ≤ fuel + 1 → EndsNumber rest →
    readValue d fuel depth (write st v ++ rest) = .ok (w, rest)

section
variable {d : Dialect} {st : Style} {v w : Value} {told : Value → Value}

theorem writeItems_singleton (v : Value) : writeItems st [v] = write st v := by
  simp [writeItems]

theorem writeItems_cons_cons (v w : Value) (items : List Value) :
    writeItems st (v :: w :: items) =
      write st v ++ (st.itemSeparator ++ writeItems st (w :: items)) := by
  simp [writeItems]

theorem writeFields_singleton (f : Text × Value) :
    writeFields st [f] = writeString st.asciiOnly f.1 ++ (st.keySeparator ++ write st f.2) := by
  simp [writeFields]

theorem writeFields_cons_cons (f g : Text × Value) (fields : List (Text × Value)) :
    writeFields st (f :: g :: fields) =
      writeString st.asciiOnly f.1 ++ (st.keySeparator ++
        (write st f.2 ++ (st.itemSeparator ++ writeFields st (g :: fields)))) := by
  simp [writeFields]

theorem ReadsAs.skipSpace_append (hv : ReadsAs d st v w) {blanks : List Glyph}
    (hblanks : ∀ g ∈ blanks, isSpace g = true) (rest : List Glyph) :
    skipSpace (blanks ++ (write st v ++ rest)) = write st v ++ rest := by
  obtain ⟨g, gs, hgs, hg, -⟩ := hv.start
  rw [hgs, skipSpace, List.dropWhile_append_of_pos hblanks]
  simp [hg]

theorem endsNumber_cons {g : Glyph}
    (hg : isDigitGlyph g = false ∧ g ≠ .char '.' ∧ g ≠ .char 'e' ∧ g ≠ .char 'E')
    (gs : List Glyph) : EndsNumber (g :: gs) := by
  intro e he
  obtain rfl := Option.some.inj he
  exact hg

theorem ReadsAs.length_pos (hv : ReadsAs d st v w) : 0 < (write st v).length := by
  obtain ⟨g, gs, hgs, -⟩ := hv.start
  rw [hgs, List.length_cons]
  omega

/-- The items of a list start as the first of them does. -/
theorem writeItems_append (st : Style) (v : Value) (items : List Value) :
    ∃ more, writeItems st (v :: items) = write st v ++ more := by
  cases items with
  | nil => exact ⟨[], by rw [writeItems_singleton, List.append_nil]⟩
  | cons w items => exact ⟨_, writeItems_cons_cons v w items⟩

theorem readItems_writeItems (hst : st.Separates) {items : List Value}
    (hv : ReadsAs d st v (told v)) (hitems : ∀ w ∈ items, ReadsAs d st w (told w))
    (fuel depth : Nat) (rest : List Glyph)
    (hfuel : 2 * (writeItems st (v :: items)).length ≤ fuel) :
    readItems d fuel depth (writeItems st (v :: items) ++ .char ']' :: rest) =
      .ok ((v :: items).map told, rest) := by
  induction items generalizing v fuel with
  | nil =>
      have hpos := hv.length_pos
      rw [writeItems_singleton] at hfuel ⊢
      obtain ⟨fuel, rfl⟩ := Nat.exists_eq_succ_of_ne_zero (by omega : fuel ≠ 0)
      rw [readItems, hv.value fuel depth _ (by omega) (endsNumber_cons (by decide) _)]
      rfl
  | cons w items ih =>
      have hpos := hv.length_pos
      obtain ⟨hw, hitems⟩ := List.forall_mem_cons.mp hitems
      obtain ⟨blanks, hseparator, hblanks⟩ := hst.item
      rw [writeItems_cons_cons, hseparator] at hfuel ⊢
      simp only [List.length_append, List.length_cons] at hfuel
      obtain ⟨fuel, rfl⟩ := Nat.exists_eq_succ_of_ne_zero (by omega : fuel ≠ 0)
      have hrest := ih hw hitems fuel (by omega)
      obtain ⟨more, hmore⟩ := writeItems_append st w items
      have hskip : skipSpace (blanks ++ (writeItems st (w :: items) ++ .char ']' :: rest)) =
          writeItems st (w :: items) ++ .char ']' :: rest := by
        rw [hmore, List.append_assoc, hw.skipSpace_append hblanks]
      simp only [List.append_assoc, List.cons_append]
      rw [readItems, hv.value fuel depth _ (by omega) (endsNumber_cons (by decide) _)]
      have hcomma : ∀ gs, skipSpace (.char ',' :: gs) = .char ',' :: gs := fun _ => rfl
      simp only [hcomma, hskip, hrest]
      rfl

theorem writeFields_eq_cons (st : Style) (f : Text × Value) (fields : List (Text × Value)) :
    ∃ more, writeFields st (f :: fields) = .char '"' :: more := by
  simp [writeFields, writeString]

/-- What is read after a field: the end of the object, or further fields. -/
def readMore (d : Dialect) (fuel depth : Nat) (read : List (Text × Value)) (tail : List Glyph) :
    Parsed (List (Text × Value)) :=
  match skipSpace tail with
  | .char '}' :: after => .ok (read, after)
  | .char ',' :: more => readFields d fuel depth read (skipSpace more)
  | other => .error ⟨.comma, other.length⟩

/-- What the text of a field is read as. -/
def toldField (told : Value → Value) (f : Text × Value) : Text × Value :=
  (rejoined f.1, told f.2)

/-- One field is read, and then the rest goes on with it among the fields read. -/
theorem readFields_field (hst : st.Separates) {k : Text} (hk : st.Holds k)
    (hv : ReadsAs d st v w) {fuel depth : Nat} {read : List (Text × Value)} {tail : List Glyph}
    (hfuel : 2 * (write st v).length ≤ fuel + 1) (htail : EndsNumber tail) :
    readFields d (fuel + 1) depth read
        (writeString st.asciiOnly k ++ (st.keySeparator ++ (write st v ++ tail))) =
      readMore d fuel depth (Value.insert read (rejoined k) w) tail := by
  obtain ⟨blanks, hseparator, hblanks⟩ := hst.key
  obtain ⟨gs, hgs, hname⟩ := readText_writeString st.asciiOnly hk
    (st.keySeparator ++ (write st v ++ tail))
  have hcolon : skipSpace (.char ':' :: (blanks ++ (write st v ++ tail))) =
      .char ':' :: (blanks ++ (write st v ++ tail)) := rfl
  rw [hseparator, List.cons_append] at hname
  rw [hgs, readFields]
  simp only [hname, hcolon, hv.skipSpace_append hblanks, hv.value fuel depth tail hfuel htail]
  rfl

theorem readFields_writeFields (hst : st.Separates) {f : Text × Value}
    {fields : List (Text × Value)} (hk : st.Holds f.1) (hv : ReadsAs d st f.2 (told f.2))
    (hnames : ∀ g ∈ fields, st.Holds g.1) (hfields : ∀ g ∈ fields, ReadsAs d st g.2 (told g.2))
    (fuel depth : Nat) (read : List (Text × Value)) (rest : List Glyph)
    (hfuel : 2 * (writeFields st (f :: fields)).length ≤ fuel) :
    readFields d fuel depth read (writeFields st (f :: fields) ++ .char '}' :: rest) =
      .ok (Value.insertAll read ((f :: fields).map (toldField told)), rest) := by
  induction fields generalizing f fuel read with
  | nil =>
      have hpos := hv.length_pos
      rw [writeFields_singleton] at hfuel ⊢
      simp only [List.length_append] at hfuel
      obtain ⟨fuel, rfl⟩ := Nat.exists_eq_succ_of_ne_zero (by omega : fuel ≠ 0)
      simp only [List.append_assoc]
      rw [readFields_field hst hk hv (by omega) (endsNumber_cons (by decide) _)]
      rfl
  | cons g fields ih =>
      have hpos := hv.length_pos
      obtain ⟨hl, hnames⟩ := List.forall_mem_cons.mp hnames
      obtain ⟨hw, hfields⟩ := List.forall_mem_cons.mp hfields
      obtain ⟨blanks, hseparator, hblanks⟩ := hst.item
      rw [writeFields_cons_cons, hseparator] at hfuel ⊢
      simp only [List.length_append, List.length_cons] at hfuel
      obtain ⟨fuel, rfl⟩ := Nat.exists_eq_succ_of_ne_zero (by omega : fuel ≠ 0)
      have hless : 2 * (writeFields st (g :: fields)).length ≤ fuel := by omega
      have hcomma : ∀ gs, skipSpace (.char ',' :: gs) = .char ',' :: gs := fun _ => rfl
      have hskip : skipSpace (blanks ++ (writeFields st (g :: fields) ++ .char '}' :: rest)) =
          writeFields st (g :: fields) ++ .char '}' :: rest := by
        obtain ⟨more, hmore⟩ := writeFields_eq_cons st g fields
        rw [skipSpace, List.dropWhile_append_of_pos hblanks, hmore]
        rfl
      simp only [List.append_assoc, List.cons_append]
      rw [readFields_field hst hk hv (by omega) (endsNumber_cons (by decide) _)]
      simp only [readMore, hcomma, hskip]
      exact ih hl hw hnames hfields fuel _ hless

theorem readValue_of_scalar {g : Glyph} (hg : g ≠ .char '"' ∧ g ≠ .char '[' ∧ g ≠ .char '{')
    (fuel depth : Nat) (gs : List Glyph) :
    readValue d (fuel + 1) depth (g :: gs) = readScalar d (g :: gs) := by
  simp [readValue, hg]

theorem readScalar_null (rest : List Glyph) :
    readScalar d (("null" : Text).toList ++ rest) = .ok (.null, rest) := by
  unfold readScalar
  cases d.specialNumbers <;> rfl

theorem readScalar_bool (b : Bool) (rest : List Glyph) :
    readScalar d ((if b then "true" else "false" : Text).toList ++ rest) = .ok (.bool b, rest) := by
  unfold readScalar
  cases b <;> cases d.specialNumbers <;> rfl

theorem not_special_of_isDigit {g : Glyph} (hg : isDigitGlyph g = true) :
    isSpace g = false ∧ g ≠ .char ']' ∧ g ≠ .char '"' ∧ g ≠ .char '[' ∧ g ≠ .char '{' := by
  have hother : ∀ e ∈ [' ', '\t', '\n', '\r', ']', '"', '[', '{'],
      isDigitGlyph (.char e) = false := forall_mem_of_all (by decide)
  have hne : ∀ e ∈ [' ', '\t', '\n', '\r', ']', '"', '[', '{'], g ≠ .char e := by
    intro e he heq
    rw [heq, hother e he] at hg
    cases hg
  simp only [List.forall_mem_cons] at hne
  obtain ⟨hblank, htab, hline, hreturn, hbracket, hquote, hlist, hobject, -⟩ := hne
  exact ⟨by simp [isSpace, hblank, htab, hline, hreturn], hbracket, hquote, hlist, hobject⟩

/-- A whole number starts with nothing that another value or a blank could start with. -/
theorem decimalText_eq_cons (n : Int) :
    ∃ g gs, (decimalText n : Text).toList = g :: gs ∧ isSpace g = false ∧ g ≠ .char ']' ∧
      g ≠ .char '"' ∧ g ≠ .char '[' ∧ g ≠ .char '{' := by
  cases n with
  | ofNat k =>
      obtain ⟨c, cs, hcs, hc⟩ := isDigit_head_decimalDigits k
      rw [decimalText, Text.toList_ofString, String.toList_ofList, hcs]
      exact ⟨.char c, cs.map .char, rfl, not_special_of_isDigit hc⟩
  | negSucc k =>
      rw [decimalText, Text.toList_ofString, String.toList_ofList]
      exact ⟨.char '-', _, rfl, by decide⟩

/-- It is enough to read with a step to spare. -/
theorem ReadsAs.of_step
    (hstart : ∃ g gs, write st v = g :: gs ∧ isSpace g = false ∧ g ≠ .char ']')
    (hread : ∀ fuel depth rest, 2 * (write st v).length ≤ fuel + 2 → EndsNumber rest →
      readValue d (fuel + 1) depth (write st v ++ rest) = .ok (w, rest)) : ReadsAs d st v w := by
  refine ⟨hstart, fun fuel depth rest hfuel hrest => ?_⟩
  obtain ⟨g, gs, hgs, -⟩ := hstart
  have hpos : 0 < (write st v).length := by rw [hgs, List.length_cons]; omega
  obtain ⟨fuel, rfl⟩ := Nat.exists_eq_succ_of_ne_zero (by omega : fuel ≠ 0)
  exact hread fuel depth rest hfuel hrest

theorem ReadsAs.null : ReadsAs d st .null .null := by
  refine .of_step ⟨.char 'n', _, rfl, by decide⟩ fun fuel depth rest _ _ => ?_
  exact (readValue_of_scalar (by decide) fuel depth _).trans (readScalar_null rest)

theorem ReadsAs.bool (b : Bool) : ReadsAs d st (.bool b) (.bool b) := by
  refine .of_step (by cases b <;> exact ⟨_, _, rfl, by decide⟩) fun fuel depth rest _ _ => ?_
  rw [← readScalar_bool (d := d) b rest]
  cases b <;> exact readValue_of_scalar (by decide) fuel depth _

theorem ReadsAs.int (hd : d.IsUnlimited) (n : Int) : ReadsAs d st (.int n) (.int n) := by
  obtain ⟨g, gs, hgs, hspace, hbracket, hhead⟩ := decimalText_eq_cons n
  refine .of_step ⟨g, gs, hgs, hspace, hbracket⟩ fun fuel depth rest _ hrest => ?_
  rw [← readScalar_decimalText hd n hrest, write, hgs, List.cons_append]
  exact readValue_of_scalar hhead fuel depth _

/-- What is written as a string is read as a text, with the halves that meet joined. -/
theorem ReadsAs.string {s : Text} (hwrite : write st v = writeString st.asciiOnly s)
    (hs : st.Holds s) : ReadsAs d st v (.text (rejoined s)) := by
  refine .of_step ⟨.char '"', _, by rw [hwrite]; rfl, by decide⟩ fun fuel depth rest _ _ => ?_
  obtain ⟨gs, hgs, hread⟩ := readText_writeString st.asciiOnly hs rest
  rw [hwrite, hgs, readValue]
  simp [hread]

/-- What is written as a list is read as one, item by item. -/
theorem ReadsAs.list (hd : d.IsUnlimited) (hst : st.Separates) {items : List Value}
    (hwrite : write st v = Glyph.char '[' :: writeItems st items ++ [Glyph.char ']'])
    (hitems : ∀ v ∈ items, ReadsAs d st v (told v)) :
    ReadsAs d st v (.list (items.map told)) := by
  refine .of_step ⟨.char '[', _, by rw [hwrite]; rfl, by decide⟩ fun fuel depth rest hfuel _ => ?_
  have hdeep : exceeds d.depthLimit (depth + 1) = false := by rw [hd.depth]; rfl
  rw [hwrite] at hfuel ⊢
  cases items with
  | nil =>
      simp only [writeItems, List.nil_append, List.cons_append, readValue, hdeep]
      rfl
  | cons v items =>
      obtain ⟨hv, hitems⟩ := List.forall_mem_cons.mp hitems
      obtain ⟨g, gs, hgs, hspace, hbracket⟩ := hv.start
      obtain ⟨more, hmore⟩ := writeItems_append st v items
      simp only [List.length_append, List.length_cons, List.length_nil] at hfuel
      have hread := readItems_writeItems hst hv hitems fuel (depth + 1) rest (by omega)
      have hskip : skipSpace (writeItems st (v :: items) ++ .char ']' :: rest) =
          writeItems st (v :: items) ++ .char ']' :: rest := by
        simp [hmore, hgs, skipSpace, hspace]
      simp only [List.cons_append, List.append_assoc, List.nil_append, readValue, hdeep,
        hskip, Bool.false_eq_true, if_false]
      -- The items start with no closing bracket, so they are read as items.
      split
      · rename_i heq
        rw [hmore, hgs] at heq
        exact absurd (List.cons.inj heq).1 hbracket
      · rw [hread]

/-- An object is read as one, field by field. -/
theorem ReadsAs.object (hd : d.IsUnlimited) (hst : st.Separates)
    {fields : List (Text × Value)} (hnames : ∀ f ∈ fields, st.Holds f.1)
    (hfields : ∀ f ∈ fields, ReadsAs d st f.2 (told f.2)) :
    ReadsAs d st (.object fields)
      (.object (Value.insertAll [] (fields.map (toldField told)))) := by
  refine .of_step ⟨.char '{', _, by rw [write]; rfl, by decide⟩ fun fuel depth rest hfuel _ => ?_
  have hdeep : exceeds d.depthLimit (depth + 1) = false := by rw [hd.depth]; rfl
  cases fields with
  | nil =>
      simp only [write, writeFields, List.nil_append, List.cons_append, readValue, hdeep]
      rfl
  | cons f fields =>
      obtain ⟨hk, hnames⟩ := List.forall_mem_cons.mp hnames
      obtain ⟨hv, hfields⟩ := List.forall_mem_cons.mp hfields
      obtain ⟨more, hmore⟩ := writeFields_eq_cons st f fields
      simp only [write, List.length_append, List.length_cons, List.length_nil] at hfuel
      have hless : 2 * (writeFields st (f :: fields)).length ≤ fuel := by omega
      have hread := readFields_writeFields hst hk hv hnames hfields fuel (depth + 1) [] rest hless
      have hskip : skipSpace (writeFields st (f :: fields) ++ .char '}' :: rest) =
          writeFields st (f :: fields) ++ .char '}' :: rest := by
        rw [hmore]
        rfl
      simp only [write, List.cons_append, List.append_assoc, List.nil_append, readValue, hdeep,
        hskip, Bool.false_eq_true, if_false]
      split
      · rename_i heq
        rw [hmore] at heq
        exact absurd (List.cons.inj heq).1 (by decide)
      · rw [hread]

/-- **Every value that JSON holds is read back**, one with a float apart. -/
theorem IsPlain.readsBack (hd : d.IsUnlimited) (hst : st.Separates) (hv : IsPlain v)
    (hfloat : ∀ x, ¬Value.IsPart (.float x) v) : ReadsAs d st v v := by
  induction hv with
  | null => exact .null
  | bool b => exact .bool b
  | @int n hn => exact .int hd n
  | float x => exact absurd .self (hfloat x)
  | @text s hs =>
      have hread : ReadsAs d st (.text s) (.text (rejoined s)) :=
        .string (by rw [write]) (Or.inr hs)
      rwa [rejoined_eq_self_iff.mpr (isUnsplit_of_isPaired hs)] at hread
  | @list items hitems ih =>
      have hread : ReadsAs d st (.list items) (.list (items.map id)) :=
        .list hd hst (by rw [write]) fun v hv => ih v hv fun x hx => hfloat x (.item hv hx)
      rwa [List.map_id] at hread
  | @object fields hdistinct hnames hfields ih =>
      have hread : ReadsAs d st (.object fields)
          (.object (Value.insertAll [] (fields.map (toldField id)))) :=
        .object hd hst (fun f hf => Or.inr (hnames f hf))
          fun f hf => ih f hf fun x hx => hfloat x (.field hf hx)
      have hsame : fields.map (toldField id) = fields.map id := by
        refine List.map_congr_left fun f hf => ?_
        rw [toldField, rejoined_eq_self_iff.mpr (isUnsplit_of_isPaired (hnames f hf))]
        rfl
      rwa [hsame, List.map_id, Value.insertAll_nil hdistinct] at hread

/-- A text that holds one value and nothing else is read as that value. -/
theorem ReadsAs.read (hv : ReadsAs d st v w) :
    Json.read d (.ofList (write st v)) = .ok w := by
  have hnone : ∀ g ∈ ([] : List Glyph), isSpace g = true := fun _ hg => nomatch hg
  have hskip := hv.skipSpace_append hnone []
  have hvalue := hv.value (2 * (write st v).length + 2) 0 [] (by omega) (fun _ hc => nomatch hc)
  rw [List.nil_append, List.append_nil] at hskip
  rw [List.append_nil] at hvalue
  simp only [Json.read, hskip, hvalue]
  rfl

end

end Json

end Triage
