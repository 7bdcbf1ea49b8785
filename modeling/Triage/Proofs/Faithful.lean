import Triage.Proofs.ReadBack

/-!
# Bodies say what they hold

A body is written without a control character and without a blank between its tokens, in
ASCII alone where that is asked for, and read as the value that it was made from. A plain
value meets two obstacles only (`Json.IsPlain.obstacle_cases`): a number that is not finite,
and the end of the room that is left to go into it
(`Http.BodyFormat.body_says_what_it_holds`).
-/

namespace Triage

open Number Text

namespace Json

/-! ## What stands in the way of plain values -/

/-- No number in a value is infinite or none at all. -/
def AreFinite (v : Value) : Prop := ∀ x, Value.IsPart (.float x) v → x.isFinite = true

section
variable {st : Style} {room : Nat} {v : Value}

theorem areFinite_list_iff {items : List Value} :
    AreFinite (.list items) ↔ ∀ v ∈ items, AreFinite v := by
  constructor
  · exact fun h v hv x hx => h x (.item hv hx)
  · intro h x hx
    obtain ⟨v, hv, hx⟩ := (Value.isPart_list_iff.mp hx).resolve_left (by rintro ⟨⟩)
    exact h v hv x hx

theorem areFinite_object_iff {fields : List (Text × Value)} :
    AreFinite (.object fields) ↔ ∀ f ∈ fields, AreFinite f.2 := by
  constructor
  · exact fun h f hf x hx => h x (.field hf hx)
  · intro h x hx
    obtain ⟨f, hf, hx⟩ := (Value.isPart_object_iff.mp hx).resolve_left (by rintro ⟨⟩)
    exact h f hf x hx

/-- What can be written has room for its levels, and its numbers are finite where names of
others are no JSON. -/
theorem IsPlain.of_canWrite (hv : IsPlain v) (hstrict : st.isLenient = false)
    (hwritable : CanWrite st room v) : levels v ≤ room ∧ AreFinite v := by
  induction hv generalizing room with
  | null | bool b | int hn | text hs => exact ⟨Nat.zero_le _, fun x hx => nomatch hx⟩
  | float x =>
      cases hwritable with
      | float h =>
          refine ⟨Nat.zero_le _, fun y hy => ?_⟩
          cases hy
          exact h.resolve_left (by rw [hstrict]; exact Bool.false_ne_true)
  | list hitems ih =>
      cases hwritable with
      | list h =>
          exact ⟨levels_list_le_iff.mpr fun v hv => (ih v hv (h v hv)).1,
            areFinite_list_iff.mpr fun v hv => (ih v hv (h v hv)).2⟩
  | object hdistinct hnames hfields ih =>
      cases hwritable with
      | object h =>
          exact ⟨levels_object_le_iff.mpr fun f hf => (ih f hf (h f hf)).1,
            areFinite_object_iff.mpr fun f hf => (ih f hf (h f hf)).2⟩

/-- A plain value meets two obstacles only: a number that is not finite, and the end of the
room. -/
theorem IsPlain.obstacle_cases (hv : IsPlain v) {o : Obstacle}
    (ho : obstacle? st room v = some o) :
    (o = .notFinite ∧ ¬AreFinite v) ∨ (o = .tooDeepToWrite ∧ room < levels v) := by
  induction hv generalizing room with
  | null | bool b | text hs => simp [obstacle?] at ho
  | int hn => simp [obstacle?, fitsDigits_iff_length.mpr hn] at ho
  | float x =>
      cases hfinite : x.isFinite with
      | true => simp [obstacle?, hfinite] at ho
      | false =>
          refine Or.inl ⟨?_, fun hall => ?_⟩
          · cases hlenient : st.isLenient <;> simp [obstacle?, hfinite, hlenient] at ho
            exact ho.symm
          · rw [hall x .self] at hfinite
            cases hfinite
  | list hitems ih =>
      cases room with
      | zero =>
          rw [obstacle?] at ho
          exact Or.inr ⟨(Option.some.inj ho).symm, by simp [levels]⟩
      | succ room =>
          rw [obstacle?] at ho
          obtain ⟨v, hv, ho⟩ := exists_of_itemsObstacle? ho
          refine (ih v hv ho).imp ?_ ?_
          · exact fun h => ⟨h.1, fun hall => h.2 (areFinite_list_iff.mp hall v hv)⟩
          · exact fun h => ⟨h.1, Nat.lt_of_not_le fun hle =>
              Nat.not_lt.mpr (levels_list_le_iff.mp hle v hv) h.2⟩
  | object hdistinct hnames hfields ih =>
      cases room with
      | zero =>
          rw [obstacle?] at ho
          exact Or.inr ⟨(Option.some.inj ho).symm, by simp [levels]⟩
      | succ room =>
          rw [obstacle?] at ho
          obtain ⟨f, hf, ho⟩ := exists_of_fieldsObstacle? ho
          refine (ih f hf ho).imp ?_ ?_
          · exact fun h => ⟨h.1, fun hall => h.2 (areFinite_object_iff.mp hall f hf)⟩
          · exact fun h => ⟨h.1, Nat.lt_of_not_le fun hle =>
              Nat.not_lt.mpr (levels_object_le_iff.mp hle f hf) h.2⟩

end

/-! ## Texts of plain values -/

theorem mem_textsOfItems {items : List Value} {s : Text} :
    s ∈ textsOfItems items ↔ ∃ v ∈ items, s ∈ texts v := by
  induction items with
  | nil => simp [textsOfItems]
  | cons v items ih => simp [textsOfItems, ih]

theorem mem_textsOfFields {fields : List (Text × Value)} {s : Text} :
    s ∈ textsOfFields fields ↔ ∃ f ∈ fields, s = f.1 ∨ s ∈ texts f.2 := by
  induction fields with
  | nil => simp [textsOfFields]
  | cons f fields ih => simp [textsOfFields, ih, or_assoc]

theorem IsPlain.isPairedText {v : Value} (hv : IsPlain v) : ∀ s ∈ texts v, IsPairedText s := by
  induction hv with
  | null => simp [texts]
  | bool b => simp [texts]
  | int hn => simp [texts]
  | float x => simp [texts]
  | text hs => simpa [texts] using hs
  | list hitems ih =>
      intro s hs
      obtain ⟨v, hv, hs⟩ := mem_textsOfItems.mp hs
      exact ih v hv s hs
  | object hdistinct hnames hfields ih =>
      intro s hs
      obtain ⟨f, hf, rfl | hs⟩ := mem_textsOfFields.mp hs
      · exact hnames f hf
      · exact ih f hf s hs

/-! ## What a text is put together from

A text is made of strings, separators and symbols, so what holds of these and of two rows
of characters in a row holds of every text. -/

/-- What holds of the parts of texts in a layout, and of two texts in a row. -/
structure Composes (st : Style) (P : List Glyph → Prop) : Prop where
  append : ∀ {gs hs}, P gs → P hs → P (gs ++ hs)
  symbols : ∀ {cs}, AreSymbols cs → P (cs.map .char)
  string : ∀ s, P (writeString st.asciiOnly s)
  item : P st.itemSeparator
  key : P st.keySeparator

section
variable {st : Style} {P : List Glyph → Prop}

theorem Composes.nil (h : Composes st P) : P [] := h.symbols areSymbols_nil

/-- What is put in brackets. -/
theorem Composes.enclosed (h : Composes st P) {before after : Char} (hbefore : IsSymbol before)
    (hafter : IsSymbol after) {gs : List Glyph} (hgs : P gs) :
    P (Glyph.char before :: gs ++ [Glyph.char after]) := by
  have hsingle : ∀ {c}, IsSymbol c → P [.char c] := fun hc =>
    h.symbols (areSymbols_cons.mpr ⟨hc, areSymbols_nil⟩)
  rw [List.cons_append, ← List.singleton_append]
  exact h.append (hsingle hbefore) (h.append hgs (hsingle hafter))

mutual

/-- **What composes holds of every text.** -/
theorem Composes.write (h : Composes st P) : ∀ v : Value, P (write st v)
  | .null => by
      rw [Json.write]
      exact h.symbols (by decide : AreSymbols "null".toList)
  | .bool b => by
      rw [Json.write]
      cases b with
      | false => exact h.symbols (by decide : AreSymbols "false".toList)
      | true => exact h.symbols (by decide : AreSymbols "true".toList)
  | .int n => by
      rw [Json.write]
      exact h.symbols (areSymbols_decimalText n)
  | .float x => by
      rw [Json.write]
      exact h.symbols (areSymbols_textWith (by decide) (by decide) (by decide) x)
  | .text s => by
      rw [Json.write]
      exact h.string s
  | .list items => by
      rw [Json.write]
      exact h.enclosed (by decide) (by decide) (h.writeItems items)
  | .tuple items => by
      rw [Json.write]
      exact h.enclosed (by decide) (by decide) (h.writeItems items)
  | .object fields => by
      rw [Json.write]
      exact h.enclosed (by decide) (by decide) (h.writeFields fields)
  | .bytes s => by
      rw [Json.write]
      exact h.string (quotedBytes s)
  | .thing t => by
      rw [Json.write]
      exact h.string _

theorem Composes.writeItems (h : Composes st P) : ∀ items : List Value, P (writeItems st items)
  | [] => h.nil
  | [v] => by
      rw [writeItems_singleton]
      exact h.write v
  | v :: w :: rest => by
      rw [writeItems_cons_cons]
      exact h.append (h.write v) (h.append h.item (h.writeItems (w :: rest)))

theorem Composes.writeFields (h : Composes st P) :
    ∀ fields : List (Text × Value), P (writeFields st fields)
  | [] => h.nil
  | [(k, v)] => by
      rw [writeFields_singleton]
      exact h.append (h.string k) (h.append h.key (h.write v))
  | (k, v) :: f :: rest => by
      rw [writeFields_cons_cons]
      exact h.append (h.string k) (h.append h.key
        (h.append (h.write v) (h.append h.item (h.writeFields (f :: rest)))))

end

end

/-! ## Characters of a text -/

/-- What stands at a place is no control character, and printable ASCII where only ASCII is
written. -/
def Fits (asciiOnly : Bool) (g : Glyph) : Prop :=
  0x20 ≤ g.toNat ∧ (asciiOnly = true → g.toNat < 0x7f)

instance (asciiOnly : Bool) : DecidablePred (Fits asciiOnly) := fun g =>
  inferInstanceAs (Decidable (0x20 ≤ g.toNat ∧ (asciiOnly = true → g.toNat < 0x7f)))

theorem fits_of_isSymbol (asciiOnly : Bool) {c : Char} (hc : IsSymbol c) :
    Fits asciiOnly (.char c) :=
  ⟨Nat.le_of_lt hc.1, fun _ => hc.2.1⟩

theorem fits_unitEscape (asciiOnly : Bool) (n : Nat) : ∀ g ∈ unitEscape n, Fits asciiOnly g := by
  have hsymbols : AreSymbols ('\\' :: 'u' :: hexDigits 4 n) :=
    areSymbols_cons.mpr ⟨by decide, areSymbols_cons.mpr ⟨by decide, areSymbols_hexDigits 4 n⟩⟩
  exact List.forall_mem_map.mpr fun c hc => fits_of_isSymbol asciiOnly (hsymbols c hc)

theorem fits_escapeGlyph (asciiOnly : Bool) (g : Glyph) :
    ∀ e ∈ escapeGlyph asciiOnly g, Fits asciiOnly e := by
  by_cases hg : g.toNat < 0x7f
  · cases g with
    | char c =>
        exact of_toNat_lt (P := fun c => ∀ e ∈ escapeGlyph asciiOnly (.char c), Fits asciiOnly e)
          (by cases asciiOnly <;> decide +kernel) hg
    | half k =>
        rw [Glyph.toNat_half] at hg
        omega
  · rw [escapeGlyph_of_le asciiOnly (by omega)]
    cases asciiOnly with
    | false => exact List.forall_mem_singleton.mpr ⟨by omega, fun h => nomatch h⟩
    | true =>
        rw [if_pos rfl, numberEscape]
        split
        · exact fits_unitEscape true _
        · exact List.forall_mem_append.mpr ⟨fits_unitEscape true _, fits_unitEscape true _⟩

theorem fits_writeString (asciiOnly : Bool) (s : Text) :
    ∀ g ∈ writeString asciiOnly s, Fits asciiOnly g := by
  have hquote : Fits asciiOnly (.char '"') := by cases asciiOnly <;> decide
  have hinside : ∀ g ∈ s.toList.flatMap (escapeGlyph asciiOnly), Fits asciiOnly g := by
    intro g hg
    obtain ⟨e, -, hg⟩ := List.mem_flatMap.mp hg
    exact fits_escapeGlyph asciiOnly e g hg
  rw [writeString, List.cons_append, List.forall_mem_cons, List.forall_mem_append]
  exact ⟨hquote, hinside, List.forall_mem_singleton.mpr hquote⟩

/-- No text of a plain value has a control character, or any but ASCII ones where only
these are written. -/
theorem composes_fits {st : Style} (hitem : ∀ g ∈ st.itemSeparator, Fits st.asciiOnly g)
    (hkey : ∀ g ∈ st.keySeparator, Fits st.asciiOnly g) :
    Composes st fun gs => ∀ g ∈ gs, Fits st.asciiOnly g where
  append hgs hhs := List.forall_mem_append.mpr ⟨hgs, hhs⟩
  symbols hcs := List.forall_mem_map.mpr fun c hc => fits_of_isSymbol st.asciiOnly (hcs c hc)
  string s := fits_writeString st.asciiOnly s
  item := hitem
  key := hkey

/-! ## Outside the strings -/

/-- What of a JSON text stands outside its strings; `quoted` says whether the text starts inside
of one. -/
def outside : (quoted : Bool) → List Glyph → List Glyph
  | _, [] => []
  | true, .char '\\' :: _ :: rest => outside true rest
  | true, .char '"' :: rest => outside false rest
  | true, _ :: rest => outside true rest
  | false, .char '"' :: rest => outside true rest
  | false, g :: rest => g :: outside false rest

theorem outside_cons_of_quoted {g : Glyph} (hg : g ≠ .char '\\' ∧ g ≠ .char '"')
    (rest : List Glyph) : outside true (g :: rest) = outside true rest := by
  simp [outside, hg]

theorem outside_of_quoted {gs : List Glyph} (hgs : ∀ g ∈ gs, g ≠ .char '\\' ∧ g ≠ .char '"')
    (rest : List Glyph) : outside true (gs ++ rest) = outside true rest := by
  induction gs with
  | nil => rfl
  | cons g gs ih =>
      obtain ⟨hg, hgs⟩ := List.forall_mem_cons.mp hgs
      rw [List.cons_append, outside_cons_of_quoted hg, ih hgs]

theorem outside_unitEscape (n : Nat) (rest : List Glyph) :
    outside true (unitEscape n ++ rest) = outside true rest := by
  have hdigit : ∀ k : Fin 16, hexDigit k ≠ '\\' ∧ hexDigit k ≠ '"' := by decide
  have hglyphs : ∀ g ∈ (hexDigits 4 n).map Glyph.char, g ≠ .char '\\' ∧ g ≠ .char '"' := by
    refine List.forall_mem_map.mpr fun c hc => ?_
    obtain ⟨k, rfl⟩ := exists_of_mem_hexDigits hc
    exact (hdigit k).imp (mt Glyph.char.inj) (mt Glyph.char.inj)
  exact outside_of_quoted hglyphs rest

/-- Nothing of what is escaped stands outside the string. -/
theorem outside_escapeGlyph (asciiOnly : Bool) (g : Glyph) (rest : List Glyph) :
    outside true (escapeGlyph asciiOnly g ++ rest) = outside true rest := by
  rcases escapeGlyph_cases asciiOnly g with
    ⟨e, c, -, hescape, -⟩ | ⟨hescape, hquote, hslash, -⟩ | hescape <;> rw [hescape]
  · rfl
  · exact outside_cons_of_quoted ⟨hslash, hquote⟩ rest
  · unfold numberEscape
    split
    · exact outside_unitEscape _ rest
    · rw [List.append_assoc, outside_unitEscape, outside_unitEscape]

theorem outside_writeString (asciiOnly : Bool) (s : Text) (rest : List Glyph) :
    outside false (writeString asciiOnly s ++ rest) = outside false rest := by
  have hinside : ∀ gs : List Glyph,
      outside true (gs.flatMap (escapeGlyph asciiOnly) ++ .char '"' :: rest) =
        outside false rest := by
    intro gs
    induction gs with
    | nil => rfl
    | cons g gs ih => rw [List.flatMap_cons, List.append_assoc, outside_escapeGlyph, ih]
  rw [writeString, List.cons_append, List.cons_append, List.append_assoc]
  exact hinside s.toList

/-- Nothing outside the strings of a text is a blank, and what follows is outside again. -/
def IsTight (gs : List Glyph) : Prop :=
  ∃ tokens, (∀ g ∈ tokens, isSpace g = false) ∧
    ∀ rest, outside false (gs ++ rest) = tokens ++ outside false rest

theorem isSpace_of_isSymbol {c : Char} (hc : IsSymbol c) : isSpace (.char c) = false := by
  have hblank : ∀ e ∈ [' ', '\t', '\n', '\r'], ¬IsSymbol e := forall_mem_of_all (by decide)
  have hne : ∀ e ∈ [' ', '\t', '\n', '\r'], c ≠ e := fun e he heq => hblank e he (heq ▸ hc)
  simp only [List.forall_mem_cons] at hne
  simp [isSpace, hne]

theorem isTight_of_symbols {cs : List Char} (hcs : AreSymbols cs) : IsTight (cs.map .char) := by
  refine ⟨cs.map .char, List.forall_mem_map.mpr fun c hc => isSpace_of_isSymbol (hcs c hc),
    fun rest => ?_⟩
  induction cs with
  | nil => rfl
  | cons c cs ih =>
      obtain ⟨hc, hcs⟩ := areSymbols_cons.mp hcs
      rw [List.map_cons, List.cons_append, List.cons_append, ← ih hcs]
      simp [outside, hc.2.2]

theorem isTight_writeString (asciiOnly : Bool) (s : Text) :
    IsTight (writeString asciiOnly s) :=
  ⟨[], List.forall_mem_nil _, outside_writeString asciiOnly s⟩

theorem composes_isTight {st : Style} (hitem : IsTight st.itemSeparator)
    (hkey : IsTight st.keySeparator) : Composes st IsTight where
  append := by
    rintro gs hs ⟨ts, hts, hgs⟩ ⟨us, hus, hhs⟩
    refine ⟨ts ++ us, List.forall_mem_append.mpr ⟨hts, hus⟩, fun rest => ?_⟩
    rw [List.append_assoc, hgs, hhs, List.append_assoc]
  symbols := isTight_of_symbols
  string := isTight_writeString st.asciiOnly
  item := hitem
  key := hkey

end Json

/-! ## Bodies -/

namespace Http.BodyFormat

variable (f : BodyFormat)

/-- A body says what a value is. -/
structure Says (v : Value) (body : String) : Prop where
  /-- It is read as the value, fields in their order. -/
  reads : Json.read Json.strict body = .ok v
  /-- It holds no control character. -/
  noControl : ∀ c ∈ body.toList, 0x20 ≤ c.toNat
  /-- It holds no blank outside its strings. -/
  noBlank : ∀ g ∈ Json.outside false (body : Text).toList, Json.isSpace g = false
  /-- It holds ASCII alone where that is asked for. -/
  ascii : f.asciiOnly = true → ∀ c ∈ body.toList, c.toNat < 0x80

theorem separates_style : f.style.Separates :=
  ⟨⟨[], rfl, List.forall_mem_nil _⟩, ⟨[], rfl, List.forall_mem_nil _⟩⟩

/-- A body with the text of a plain value says what the value is. -/
theorem says_of_write {v : Value} {body : String}
    (hbody : (body : Text) = .ofList (Json.write f.style v)) (hv : Json.IsPlain v)
    (hfloat : ∀ x, ¬Value.IsPart (.float x) v) : f.Says v body := by
  have hitem : AreSymbols [','] := by decide
  have hkey : AreSymbols [':'] := by decide
  have hsymbol : ∀ {cs}, AreSymbols cs → ∀ g ∈ cs.map Glyph.char, Json.Fits f.asciiOnly g :=
    fun hcs => List.forall_mem_map.mpr fun c hc => Json.fits_of_isSymbol _ (hcs c hc)
  have hwritten : Json.write f.style v = body.toList.map .char :=
    (congrArg Text.toList hbody).symm
  have hfits : ∀ g ∈ Json.write f.style v, Json.Fits f.asciiOnly g :=
    (Json.composes_fits (hsymbol hitem) (hsymbol hkey)).write v
  have htight : Json.Composes f.style Json.IsTight :=
    Json.composes_isTight (Json.isTight_of_symbols hitem) (Json.isTight_of_symbols hkey)
  obtain ⟨tokens, htokens, houtside⟩ := htight.write v
  rw [hwritten] at hfits houtside
  refine ⟨?_, fun c hc => (hfits (.char c) (List.mem_map_of_mem hc)).1, ?_,
    fun hascii c hc => Nat.lt_succ_of_lt ((hfits (.char c) (List.mem_map_of_mem hc)).2 hascii)⟩
  · rw [hbody]
    exact (hv.readsBack Json.isUnlimited_strict f.separates_style hfloat).read
  · have hall := houtside []
    rw [List.append_nil, Json.outside, List.append_nil] at hall
    rw [toList_ofString, hall]
    exact htokens

theorem exists_nonFinite_iff {v : Value} :
    (∃ x, Value.IsPart (.float x) v ∧ x.isFinite = false) ↔ ¬Json.AreFinite v := by
  simp [Json.AreFinite]

/-- What a body for a plain value comes to. -/
theorem writeWithin_cases_of_isPlain (room : Nat) {v : Value} (hv : Json.IsPlain v) :
    (∃ body : String, f.writeWithin room v = .ok body
        ∧ (body : Text) = .ofList (Json.write f.style v)
        ∧ Json.levels v ≤ room ∧ Json.AreFinite v)
      ∨ (f.writeWithin room v = .error (.obstacle .notFinite) ∧ ¬Json.AreFinite v)
      ∨ (f.writeWithin room v = .error (.obstacle .tooDeepToWrite) ∧ room < Json.levels v) := by
  cases hobstacle : Json.obstacle? f.style room v with
  | none =>
      have hwritable := (Json.obstacle?_eq_none_iff v).mp hobstacle
      obtain ⟨-, body, hbody, htext⟩ := (f.writeWithin_cases hwritable).resolve_right
        fun hfails => hfails.1 (Or.inr hv.isPairedText)
      exact Or.inl ⟨body, hbody, htext, hv.of_canWrite rfl hwritable⟩
  | some o =>
      have hfails : f.writeWithin room v = .error (.obstacle o) := by
        rw [writeWithin, hobstacle]
      refine Or.inr ((hv.obstacle_cases hobstacle).imp ?_ ?_)
      · rintro ⟨rfl, hfinite⟩
        exact ⟨hfails, hfinite⟩
      · rintro ⟨rfl, hlevels⟩
        exact ⟨hfails, hlevels⟩

/-- A text with a quote, a line break and characters of every width, a private one of the last
plane among them. -/
def characters : Text := "a \"𝄞\"\n€" ++ .singleton (Char.ofNat 0x10d800)

/-- Such a text under a name, in a list. -/
def sampler : Value :=
  .list [.null, .int (-12), .object [("naïve", .text characters), ("", .bool true)]]

theorem isPlain_sampler : Json.IsPlain sampler := by
  have hobject : Json.IsPlain (.object [("naïve", .text characters), ("", .bool true)]) := by
    refine .object (by decide) ?_ ?_
    · simp only [List.forall_mem_cons]
      exact ⟨by decide +kernel, by decide +kernel, List.forall_mem_nil _⟩
    · simp only [List.forall_mem_cons]
      exact ⟨.text (by decide +kernel), .bool true, List.forall_mem_nil _⟩
  refine .list ?_
  simp only [List.forall_mem_cons]
  exact ⟨.null, .int (by decide +kernel), hobject, List.forall_mem_nil _⟩

theorem not_isPart_float_sampler (x : Binary64) : ¬Value.IsPart (.float x) sampler := by
  intro hx
  obtain ⟨v, hv, hx⟩ := (Value.isPart_list_iff.mp hx).resolve_left (by rintro ⟨⟩)
  simp only [List.mem_cons, List.not_mem_nil, or_false] at hv
  rcases hv with rfl | rfl | rfl
  · cases hx
  · cases hx
  · obtain ⟨f, hf, hx⟩ := (Value.isPart_object_iff.mp hx).resolve_left (by rintro ⟨⟩)
    simp only [List.mem_cons, List.not_mem_nil, or_false] at hf
    rcases hf with rfl | rfl <;> cases hx

end Http.BodyFormat

end Triage
