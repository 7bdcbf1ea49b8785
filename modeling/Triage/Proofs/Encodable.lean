import Triage.Proofs.Digits
import Triage.Proofs.Latin
import Triage.Proofs.Obstacles
import Triage.Problem

/-!
# Values that a body can hold

A written value can be sent when no half of a surrogate pair is left in it.
Numbers, brackets and escapes are ASCII, so that depends on the texts in the value
alone: either everything beyond ASCII is escaped, or every text is paired
(`Json.isPaired_write_iff`). A problem holds texts and one whole number, so nothing
else can go wrong with one whose status is no longer than what is written
(`Problem.write_payload_cases`).
-/

namespace Triage

open Number Text

/-! ## Paired and ASCII characters -/

namespace Text

/-- No half of a surrogate pair is there. -/
def IsPaired (gs : List Glyph) : Prop := ∀ g ∈ gs, g.isHalf = false

/-- Every character is one of ASCII. -/
def IsAscii (gs : List Glyph) : Prop := ∀ g ∈ gs, g.toNat < 0x80

instance : DecidablePred IsPaired :=
  List.decidableBAll fun g : Glyph => g.isHalf = false

instance : DecidablePred IsAscii :=
  List.decidableBAll fun g : Glyph => g.toNat < 0x80

@[simp] theorem isPaired_nil : IsPaired [] := fun _ hg => nomatch hg

@[simp] theorem isPaired_cons {g : Glyph} {gs : List Glyph} :
    IsPaired (g :: gs) ↔ g.isHalf = false ∧ IsPaired gs := List.forall_mem_cons

@[simp] theorem isPaired_append {gs hs : List Glyph} :
    IsPaired (gs ++ hs) ↔ IsPaired gs ∧ IsPaired hs := List.forall_mem_append

@[simp] theorem isAscii_nil : IsAscii [] := fun _ hg => nomatch hg

@[simp] theorem isAscii_cons {g : Glyph} {gs : List Glyph} :
    IsAscii (g :: gs) ↔ g.toNat < 0x80 ∧ IsAscii gs := List.forall_mem_cons

@[simp] theorem isAscii_append {gs hs : List Glyph} :
    IsAscii (gs ++ hs) ↔ IsAscii gs ∧ IsAscii hs := List.forall_mem_append

theorem IsAscii.isPaired {gs : List Glyph} (h : IsAscii gs) : IsPaired gs := by
  intro g hg
  have hlow := h g hg
  cases g with
  | char c => rfl
  | half k =>
      rw [Glyph.toNat_half] at hlow
      omega

/-- A character of a token that is no string. -/
def IsSymbol (c : Char) : Prop := 0x20 < c.toNat ∧ c.toNat < 0x7f ∧ c ≠ '"'

instance : DecidablePred IsSymbol := fun c =>
  inferInstanceAs (Decidable (0x20 < c.toNat ∧ c.toNat < 0x7f ∧ c ≠ '"'))

/-- Every character is a symbol. -/
def AreSymbols (cs : List Char) : Prop := ∀ c ∈ cs, IsSymbol c

instance : DecidablePred AreSymbols := List.decidableBAll IsSymbol

theorem areSymbols_nil : AreSymbols [] := fun _ hc => nomatch hc

theorem areSymbols_cons {c : Char} {cs : List Char} :
    AreSymbols (c :: cs) ↔ IsSymbol c ∧ AreSymbols cs := List.forall_mem_cons

theorem areSymbols_append {cs ds : List Char} :
    AreSymbols (cs ++ ds) ↔ AreSymbols cs ∧ AreSymbols ds := List.forall_mem_append

theorem AreSymbols.isAscii {cs : List Char} (h : AreSymbols cs) : IsAscii (cs.map .char) :=
  List.forall_mem_map.mpr fun c hc => Nat.lt_trans (h c hc).2.1 (by decide)

theorem areSymbols_hexDigits (width n : Nat) : AreSymbols (hexDigits width n) := by
  have hdigit : ∀ k : Fin 16, IsSymbol (hexDigit k) := by decide
  intro c hc
  obtain ⟨k, rfl⟩ := exists_of_mem_hexDigits hc
  exact hdigit k

end Text

/-! ## Numbers -/

namespace Number

theorem isSymbol_of_isDigit {c : Char} (hc : isDigit c = true) : IsSymbol c := by
  simp only [isDigit, Bool.and_eq_true, decide_eq_true_eq, Char.le_def,
    UInt32.le_iff_toNat_le] at hc
  have hlow : 48 ≤ c.toNat := hc.1
  have hhigh : c.toNat ≤ 57 := hc.2
  refine ⟨by omega, by omega, fun heq => ?_⟩
  rw [heq] at hlow
  revert hlow
  decide

theorem areSymbols_replicate_zero (k : Nat) : AreSymbols (List.replicate k '0') := by
  intro c hc
  rw [List.eq_of_mem_replicate hc]
  decide

theorem areSymbols_decimalDigits (n : Nat) : AreSymbols (decimalDigits n) := fun c hc =>
  isSymbol_of_isDigit (isDigit_decimalDigits n c hc)

theorem areSymbols_decimalText (n : Int) : AreSymbols (decimalText n).toList := by
  cases n with
  | ofNat k =>
      rw [decimalText, String.toList_ofList]
      exact areSymbols_decimalDigits k
  | negSucc k =>
      rw [decimalText, String.toList_ofList, areSymbols_cons]
      exact ⟨by decide, areSymbols_decimalDigits _⟩

theorem areSymbols_exponentText (l : NumberLayout) (power : Int) :
    AreSymbols (exponentText l power) := by
  rw [exponentText, paddedDigits, areSymbols_cons, areSymbols_cons, areSymbols_append]
  refine ⟨by decide, ?_, areSymbols_replicate_zero _, areSymbols_decimalDigits _⟩
  split <;> decide

theorem areSymbols_layOut (l : NumberLayout) {ds : List Char} (hds : AreSymbols ds)
    (power : Int) : AreSymbols (layOut l ds power) := by
  have htake : ∀ n, AreSymbols (ds.take n) := fun n c hc => hds c (List.mem_of_mem_take hc)
  have hdrop : ∀ n, AreSymbols (ds.drop n) := fun n c hc => hds c (List.mem_of_mem_drop hc)
  have hmarks : IsSymbol '0' ∧ IsSymbol '.' := by decide
  unfold layOut
  split
  · split
    · simp only [List.cons_append, areSymbols_cons, areSymbols_append]
      exact ⟨hmarks.1, hmarks.2, areSymbols_replicate_zero _, hds⟩
    · simp only [areSymbols_cons, areSymbols_append]
      refine ⟨⟨htake _, areSymbols_replicate_zero _⟩, hmarks.2, ?_⟩
      split
      · exact areSymbols_cons.mpr ⟨hmarks.1, areSymbols_nil⟩
      · exact hdrop _
  · split
    · exact areSymbols_nil
    · rw [areSymbols_cons]
      exact ⟨(areSymbols_cons.mp hds).1, areSymbols_exponentText l power⟩
    · simp only [List.cons_append, areSymbols_cons, areSymbols_append]
      exact ⟨(areSymbols_cons.mp hds).1, hmarks.2, (areSymbols_cons.mp hds).2,
        areSymbols_exponentText l power⟩

theorem areSymbols_textWith {special : SpecialTexts} (hnan : AreSymbols special.nan.toList)
    (hinfinite : AreSymbols special.infinite.toList)
    (hnegative : AreSymbols special.negativeInfinite.toList) (x : Binary64) :
    AreSymbols (x.textWith special).toList := by
  unfold Binary64.textWith
  split
  · rename_i negative mantissa exponent
    have hbody : AreSymbols (layOut numberLayout
        (decimalDigits (Binary64.shortest mantissa exponent).digits)
        ((decimalDigits (Binary64.shortest mantissa exponent).digits).length - 1
          + (Binary64.shortest mantissa exponent).exponent)) :=
      areSymbols_layOut _ (areSymbols_decimalDigits _) _
    unfold finiteText
    rw [String.toList_ofList]
    cases negative with
    | false => exact hbody
    | true => exact areSymbols_cons.mpr ⟨by decide, hbody⟩
  · exact hinfinite
  · exact hnegative
  · exact hnan

end Number

/-! ## Texts -/

namespace Json

theorem isAscii_unitEscape (n : Nat) : IsAscii (unitEscape n) := by
  rw [unitEscape, isAscii_cons, isAscii_cons]
  exact ⟨by decide, by decide, (areSymbols_hexDigits 4 n).isAscii⟩

theorem isAscii_numberEscape (n : Nat) : IsAscii (numberEscape n) := by
  unfold numberEscape
  split
  · exact isAscii_unitEscape _
  · rw [isAscii_append]
    exact ⟨isAscii_unitEscape _, isAscii_unitEscape _⟩

theorem isAscii_escapeGlyph_of_lt (asciiOnly : Bool) {g : Glyph} (hg : g.toNat < 0x7f) :
    IsAscii (escapeGlyph asciiOnly g) := by
  cases g with
  | char c =>
      exact of_toNat_lt (P := fun c => IsAscii (escapeGlyph asciiOnly (.char c)))
        (by cases asciiOnly <;> decide +kernel) hg
  | half k =>
      rw [Glyph.toNat_half] at hg
      omega

/-- Anything else is written by number, or as it is. -/
theorem escapeGlyph_of_le (asciiOnly : Bool) {g : Glyph} (hg : 0x7f ≤ g.toNat) :
    escapeGlyph asciiOnly g = if asciiOnly then numberEscape g.toNat else [g] := by
  have hnamed : (['"', '\\', '\n', '\r', '\t', '\x08', '\x0c'].all (·.toNat < 0x7f)) = true := by
    decide
  have hne : ∀ d ∈ ['"', '\\', '\n', '\r', '\t', '\x08', '\x0c'], g ≠ .char d := by
    intro d hd heq
    have hlt : (Glyph.char d).toNat < 0x7f :=
      of_decide_eq_true (List.all_eq_true.mp hnamed d hd)
    rw [heq] at hg
    omega
  simp only [List.forall_mem_cons] at hne
  obtain ⟨hquote, hslash, hline, hreturn, htab, hback, hfeed, -⟩ := hne
  unfold escapeGlyph
  rw [if_neg hquote, if_neg hslash, if_neg hline, if_neg hreturn, if_neg htab, if_neg hback,
    if_neg hfeed, if_neg (by omega), if_neg (by omega)]

theorem isPaired_escapeGlyph_iff (asciiOnly : Bool) (g : Glyph) :
    IsPaired (escapeGlyph asciiOnly g) ↔ asciiOnly = true ∨ g.isHalf = false := by
  by_cases hg : g.toNat < 0x7f
  · have hascii : IsAscii [g] := isAscii_cons.mpr ⟨by omega, isAscii_nil⟩
    have hpaired := (isAscii_escapeGlyph_of_lt asciiOnly hg).isPaired
    exact ⟨fun _ => Or.inr (isPaired_cons.mp hascii.isPaired).1, fun _ => hpaired⟩
  · rw [escapeGlyph_of_le asciiOnly (by omega)]
    cases asciiOnly with
    | true => simpa using (isAscii_numberEscape g.toNat).isPaired
    | false => simp

/-- A string is paired when everything beyond ASCII is escaped, and otherwise when
the text is. -/
theorem isPaired_writeString_iff (asciiOnly : Bool) (s : Text) :
    IsPaired (writeString asciiOnly s) ↔ asciiOnly = true ∨ IsPairedText s := by
  have hflat : IsPaired (s.toList.flatMap (escapeGlyph asciiOnly)) ↔
      ∀ g ∈ s.toList, IsPaired (escapeGlyph asciiOnly g) := by
    simp only [IsPaired, List.mem_flatMap]
    exact ⟨fun h g hg d hd => h d ⟨g, hg, hd⟩, fun h d ⟨g, hg, hd⟩ => h g hg d hd⟩
  simp only [writeString, List.cons_append, isPaired_cons, isPaired_append, Glyph.isHalf_char,
    isPaired_nil, hflat, isPaired_escapeGlyph_iff]
  cases asciiOnly <;> simp [IsPairedText]

/-! ## Whole values -/

/-- Whether a text can be written in a layout so that the result can be sent. -/
def Style.Holds (st : Style) (s : Text) : Prop := st.asciiOnly = true ∨ IsPairedText s

mutual

/-- The texts in a value, names of fields among them. -/
def texts : Value → List Text
  | .null => []
  | .bool _ => []
  | .int _ => []
  | .float _ => []
  | .text s => [s]
  | .list items => textsOfItems items
  | .tuple items => textsOfItems items
  | .object fields => textsOfFields fields
  | .bytes s => [quotedBytes s]
  | .thing t => [t.text.toOption.getD ""]

/-- `texts` for items. -/
def textsOfItems : List Value → List Text
  | [] => []
  | v :: rest => texts v ++ textsOfItems rest

/-- `texts` for fields. -/
def textsOfFields : List (Text × Value) → List Text
  | [] => []
  | (k, v) :: rest => k :: (texts v ++ textsOfFields rest)

end

/-- A layout whose separators can be sent. -/
structure Style.HasPairedSeparators (st : Style) : Prop where
  item : IsPaired st.itemSeparator
  key : IsPaired st.keySeparator

mutual

/-- **Writing keeps texts paired, and nothing else matters.** -/
theorem isPaired_write_iff {st : Style} (hst : st.HasPairedSeparators) : ∀ v : Value,
    IsPaired (write st v) ↔ ∀ s ∈ texts v, st.Holds s
  | .null => by
      rw [write, texts]
      exact iff_of_true (by decide) (fun s hs => nomatch hs)
  | .bool b => by
      rw [write, texts]
      exact iff_of_true (by cases b <;> decide) (fun s hs => nomatch hs)
  | .int n => by
      rw [write, texts]
      exact iff_of_true (areSymbols_decimalText n).isAscii.isPaired (fun s hs => nomatch hs)
  | .float x => by
      have htext : AreSymbols (x.textWith specialNames).toList :=
        areSymbols_textWith (by decide) (by decide) (by decide) x
      rw [write, texts]
      exact iff_of_true htext.isAscii.isPaired (fun s hs => nomatch hs)
  | .text s => by simp [write, texts, isPaired_writeString_iff, Style.Holds]
  | .list items => by simp [write, texts, isPaired_writeItems_iff hst items]
  | .tuple items => by simp [write, texts, isPaired_writeItems_iff hst items]
  | .object fields => by simp [write, texts, isPaired_writeFields_iff hst fields]
  | .bytes s => by simp [write, texts, isPaired_writeString_iff, Style.Holds]
  | .thing t => by simp [write, texts, isPaired_writeString_iff, Style.Holds]

theorem isPaired_writeItems_iff {st : Style} (hst : st.HasPairedSeparators) :
    ∀ items : List Value,
      IsPaired (writeItems st items) ↔ ∀ s ∈ textsOfItems items, st.Holds s
  | [] => by simp [writeItems, textsOfItems]
  | v :: rest => by
      simp only [writeItems, textsOfItems, isPaired_append, List.forall_mem_append,
        isPaired_write_iff hst v, isPaired_writeItems_iff hst rest]
      cases rest <;> simp [hst.item]

theorem isPaired_writeFields_iff {st : Style} (hst : st.HasPairedSeparators) :
    ∀ fields : List (Text × Value),
      IsPaired (writeFields st fields) ↔ ∀ s ∈ textsOfFields fields, st.Holds s
  | [] => by simp [writeFields, textsOfFields]
  | (k, v) :: rest => by
      have hname := isPaired_writeString_iff st.asciiOnly k
      simp only [writeFields, textsOfFields, isPaired_append, List.forall_mem_cons,
        List.forall_mem_append, hname, isPaired_write_iff hst v, isPaired_writeFields_iff hst rest]
      cases rest <;> simp [hst.item, hst.key, Style.Holds, and_assoc]

end

end Json

/-! ## Bodies -/

namespace Http.BodyFormat

/-- Whether a body in a format can hold a value: everything beyond ASCII is escaped,
or no text in the value has half of a surrogate pair. -/
def Holds (f : BodyFormat) (v : Value) : Prop :=
  f.asciiOnly = true ∨ ∀ s ∈ Json.texts v, IsPairedText s

theorem hasPairedSeparators_style (f : BodyFormat) : f.style.HasPairedSeparators :=
  ⟨(by decide : IsPaired [',']), (by decide : IsPaired [':'])⟩

theorem holds_iff (f : BodyFormat) (v : Value) :
    f.Holds v ↔ IsPaired (Json.write f.style v) := by
  rw [Json.isPaired_write_iff f.hasPairedSeparators_style]
  obtain ⟨contentType, asciiOnly⟩ := f
  cases asciiOnly <;> simp [Holds, Json.Style.Holds, style]

/-- A value without an obstacle is written when a body can hold it; otherwise a half of a
surrogate pair is reported. -/
theorem writeWithin_cases (f : BodyFormat) {room : Nat} {v : Value}
    (hv : Json.CanWrite f.style room v) :
    (f.Holds v ∧ ∃ body : String, f.writeWithin room v = .ok body
        ∧ (body : Text) = .ofList (Json.write f.style v))
      ∨ (¬f.Holds v ∧ ∃ run, f.writeWithin room v = .error (.unpaired run)) := by
  have hpaired : IsPairedText (.ofList (Json.write f.style v)) ↔ f.Holds v :=
    (f.holds_iff v).symm
  unfold writeWithin Response.checkBody
  rw [Json.obstacle?_eq_none_iff v |>.mpr hv]
  dsimp only
  cases hrun : unpaired? (.ofList (Json.write f.style v)) with
  | none =>
      have hwhole := unpaired?_eq_none_iff.mp hrun
      exact Or.inl ⟨hpaired.mp hwhole, _, rfl, ofString_string hwhole⟩
  | some run =>
      refine Or.inr ⟨fun hholds => ?_, run, rfl⟩
      rw [unpaired?_eq_none_iff.mpr (hpaired.mpr hholds)] at hrun
      cases hrun

end Http.BodyFormat

/-! ## Problems -/

namespace Problem

/-- Nothing but too long a status stands in the way of a problem: it is an object with texts, and
a list of such objects. -/
theorem canWrite_payload {p : Problem} (hstatus : fitsDigits p.status = true) (st : Json.Style)
    (room : Nat) : Json.CanWrite st (room + 3) p.payload := by
  have hoptional : ∀ (n : FieldName) (o : Option Text), ∀ f ∈ optionalField n o,
      Json.CanWrite st (room + 2) f.2 := by
    intro n o f hf
    cases o with
    | none => cases hf
    | some s =>
        obtain rfl := List.mem_singleton.mp hf
        exact .text s
  have hitem : ∀ item ∈ p.failures.map (·.toValue FieldName.wire),
      Json.CanWrite st (room + 1) item := by
    intro v hv
    obtain ⟨item, -, rfl⟩ := List.mem_map.mp hv
    refine .object ?_
    simp only [List.forall_mem_cons]
    exact ⟨.text _, .text _, .text _, .text _, .text _, .text _, List.forall_mem_nil _⟩
  refine .object ?_
  simp only [wireFields, List.forall_mem_cons, List.forall_mem_append]
  refine ⟨.int hstatus, ⟨⟨⟨⟨hoptional _ _, hoptional _ _⟩, hoptional _ _⟩, hoptional _ _⟩, ?_⟩,
    hoptional _ _⟩
  split
  · exact List.forall_mem_nil _
  · exact List.forall_mem_singleton.mpr (.list hitem)

/-- A problem has a body, which is not empty, in every format that holds it. -/
theorem write_payload_cases {p : Problem} (hstatus : fitsDigits p.status = true)
    (f : Http.BodyFormat) :
    (f.Holds p.payload ∧ ∃ body, f.write p.payload = .ok body ∧ body ≠ "")
      ∨ (¬f.Holds p.payload ∧ ∃ run, f.write p.payload = .error (.unpaired run)) := by
  have hwritable := canWrite_payload hstatus f.style (deepest - 3)
  rcases f.writeWithin_cases hwritable with ⟨hholds, body, hbody, htext⟩ | hfails
  · refine Or.inl ⟨hholds, body, hbody, fun hempty => ?_⟩
    rw [hempty, payload, Json.write] at htext
    cases htext
  · exact Or.inr hfails

/-- A body can hold a problem exactly if the problem can be written. -/
theorem holds_payload_iff {p : Problem} (hstatus : fitsDigits p.status = true)
    {f : Http.BodyFormat} : f.Holds p.payload ↔ ∃ body, f.write p.payload = .ok body := by
  rcases write_payload_cases hstatus f with ⟨hholds, body, hwrite, -⟩ | ⟨hnot, run, hwrite⟩
  · exact iff_of_true hholds ⟨body, hwrite⟩
  · refine iff_of_false hnot ?_
    rintro ⟨body, hbody⟩
    rw [hwrite] at hbody
    cases hbody

end Problem

end Triage
