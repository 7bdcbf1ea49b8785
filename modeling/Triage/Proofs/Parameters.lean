import Triage.Accept.Header
import Triage.Proofs.Negotiating

/-!
# Parameters of media ranges

A header is cut at its commas, whatever they stand in, and a piece is read up to its first
semicolon. So of a listed range the first piece is read as the range without parameters
(`namesProblem_first_iff`), and nothing else of it counts, unless a quoted text has a
comma, and after the comma, up to the next comma or semicolon, something that reads as a
range (`Smuggles`). A piece that goes on to the closing quotation mark reads as no range
that names a problem, for the mark is in none. What a header with parameters comes to is
therefore what it comes to without them, or what its quoted texts smuggle in
(`canWriteProblem_header_iff`).
-/

namespace Triage

open Text

namespace Accept

/-- A quoted text has something between a comma and the next comma or semicolon that
names a problem. -/
def Smuggles (text : List Char) : Prop :=
  ∃ before read d rest, text = before ++ ',' :: (read ++ d :: rest) ∧ (d = ',' ∨ d = ';')
    ∧ ',' ∉ read ∧ ';' ∉ read ∧ NamesProblem read

/-- Something behind a comma of the text is read as a range that names a problem. -/
def Leaks (text : List Char) : Prop :=
  ∃ before read rest, text = before ++ ',' :: (read ++ rest)
    ∧ (∀ d ∈ rest.head?, d = ',' ∨ d = ';') ∧ ',' ∉ read ∧ ';' ∉ read ∧ NamesProblem read

end Accept

/-! ## Characters that no such range has -/

namespace Text

theorem mem_lowerAfter {c : Char} {before cs : List Char} (hc : c.toNat < 0x80) (hmem : c ∈ cs) :
    c.toLower ∈ lowerAfter before cs := by
  induction cs generalizing before with
  | nil => cases hmem
  | cons d cs ih =>
      rw [lowerAfter, List.mem_append]
      rcases List.mem_cons.mp hmem with rfl | hrest
      · have hsigma : c ≠ 'Σ' := fun heq => by subst heq; revert hc; decide
        have hdotted : c ≠ 'İ' := fun heq => by subst heq; revert hc; decide
        left
        rw [if_neg hsigma, if_neg hdotted, if_pos hc]
        exact List.mem_singleton_self _
      · exact Or.inr (ih hrest)

end Text

theorem quote_notMem_of_namesProblem {piece : List Char} (hnames : NamesProblem piece)
    (hsemicolon : ';' ∉ piece) : '"' ∉ piece := by
  intro hmem
  obtain ⟨type, subtype, hessence, -, htype, hsubtype⟩ := hnames
  rw [List.takeWhile_eq_self_iff.mpr (ne_of_notMem hsemicolon)] at hessence
  have hlower : '"' ∈ lower (trim piece) :=
    mem_lowerAfter (c := '"') (by decide) ((mem_trim_iff (by decide)).mpr hmem)
  rw [hessence, List.mem_append, List.mem_cons] at hlower
  have hquote : ∀ taken ∈ takenTypes ++ takenSubtypes, '"' ∉ taken := by decide
  rcases hlower with hin | hslash | hin
  · exact hquote _ (List.mem_append_left _ htype) ((mem_trim_iff (by decide)).mpr hin)
  · cases hslash
  · exact hquote _ (List.mem_append_right _ hsubtype) ((mem_trim_iff (by decide)).mpr hin)

namespace Accept

/-! ## Words and gaps -/

section Separators

variable {c : Char} (hc : c = ',' ∨ c = ';')

include hc

theorem Word.notMem (w : Word) : c ∉ w.chars := by
  intro hmem
  have hword := List.all_eq_true.mp w.all_isWordChar c hmem
  rcases hc with rfl | rfl <;> exact absurd hword (by decide)

theorem Gap.notMem (g : Gap) : c ∉ g.chars := by
  intro hmem
  have hgap := List.all_eq_true.mp g.all_isGapChar c hmem
  rcases hc with rfl | rfl <;> exact absurd hgap (by decide)

theorem ListedRange.notMem_lead (r : ListedRange) : c ∉ r.lead := by
  have hslash : c ≠ '/' := by rcases hc with rfl | rfl <;> decide
  simp [lead, Gap.notMem hc, Word.notMem hc, hslash]

end Separators

theorem Gap.isBlanks (g : Gap) : IsBlanks g.chars := by
  intro c hc
  have hgap := List.all_eq_true.mp g.all_isGapChar c hc
  rw [isGapChar, Bool.or_eq_true, beq_iff_eq, beq_iff_eq] at hgap
  rcases hgap with rfl | rfl <;> rfl

/-! ## What leaks out of a text -/

section Leaks

variable {a b q : List Char}

/-- Only what stands behind a comma leaks. -/
theorem leaks_append_iff (ha : ',' ∉ a) : Leaks (a ++ b) ↔ Leaks b := by
  constructor
  · rintro ⟨before, read, rest, heq, hleaks⟩
    obtain ⟨before', -, hb⟩ := exists_of_append_eq ha heq
    exact ⟨before', read, rest, hb, hleaks⟩
  · rintro ⟨before, read, rest, rfl, hleaks⟩
    exact ⟨a ++ before, read, rest, (List.append_assoc ..).symm, hleaks⟩

theorem not_leaks (ha : ',' ∉ a) : ¬Leaks a := by
  rintro ⟨before, read, rest, rfl, -⟩
  simp at ha

/-- Out of a quoted text leaks what it smuggles, and nothing across its end, for the mark
there is read as well. -/
theorem leaks_quoted_iff : Leaks (q ++ '"' :: b) ↔ Smuggles q ∨ Leaks b := by
  constructor
  · rintro ⟨before, read, rest, heq, hstop, hcomma, hsemicolon, hnames⟩
    have hread := quote_notMem_of_namesProblem hnames hsemicolon
    rcases List.append_eq_append_iff.mp heq with ⟨between, rfl, hb⟩ | ⟨inside, rfl, hinside⟩
    · -- the comma stands behind the closing mark
      cases between with
      | nil => cases hb
      | cons d between =>
          exact Or.inr ⟨between, read, rest, (List.cons.inj hb).2, hstop, hcomma, hsemicolon,
            hnames⟩
    · -- the comma stands in the text, and what is read ends before the mark
      cases inside with
      | nil => cases hinside
      | cons d inside =>
          obtain ⟨rfl, hrest⟩ := List.cons.inj hinside
          obtain ⟨more, rfl, rfl⟩ := exists_of_append_eq hread hrest
          cases more with
          | nil => simp at hstop
          | cons d more =>
              exact Or.inl ⟨before, read, d, more, rfl, hstop d rfl, hcomma, hsemicolon, hnames⟩
  · rintro (⟨before, read, d, rest, rfl, hstop, hleaks⟩ | ⟨before, read, rest, rfl, hleaks⟩)
    · exact ⟨before, read, d :: rest ++ '"' :: b, by simp, by simpa using hstop, hleaks⟩
    · exact ⟨q ++ '"' :: before, read, rest, by simp, hleaks⟩

end Leaks

theorem leaks_parameter_iff (p : Parameter) (b : List Char) :
    Leaks (p.chars ++ b) ↔ (∃ text ∈ p.quotedText?, Smuggles text) ∨ Leaks b := by
  have hgap : ∀ g : Gap, ',' ∉ g.chars := Gap.notMem (Or.inl rfl)
  have hword : ∀ w : Word, ',' ∉ w.chars := Word.notMem (Or.inl rfl)
  obtain ⟨before, after, setting⟩ := p
  cases setting with
  | none =>
      rw [leaks_append_iff (by simp [Parameter.chars, Parameter.settingChars, hgap])]
      simp [Parameter.quotedText?]
  | some setting =>
      obtain ⟨name, value⟩ := setting
      cases value with
      | word w =>
          rw [leaks_append_iff (by simp [Parameter.chars, Parameter.settingChars,
            ParameterValue.chars, hgap, hword])]
          simp [Parameter.quotedText?, ParameterValue.quotedText?]
      | quoted content =>
          obtain ⟨front, hfront⟩ : ∃ front, front =
              before.chars ++ ';' :: (after.chars ++ (name.chars ++ ['=', '"'])) := ⟨_, rfl⟩
          have hcomma : ',' ∉ front := by simp [hfront, hgap, hword]
          have hsplit : Parameter.chars ⟨before, after, some (name, .quoted content)⟩ ++ b =
              front ++ (content.flatMap QuotedChar.chars ++ '"' :: b) := by
            simp [hfront, Parameter.chars, Parameter.settingChars, ParameterValue.chars]
          rw [hsplit, leaks_append_iff hcomma, leaks_quoted_iff]
          simp [Parameter.quotedText?, ParameterValue.quotedText?]

theorem leaks_range_iff (r : ListedRange) :
    Leaks r.chars ↔ ∃ text ∈ r.quotedTexts, Smuggles text := by
  have hparameters : ∀ parameters : List Parameter,
      Leaks (parameters.flatMap Parameter.chars ++ r.after.chars) ↔
        ∃ text ∈ parameters.filterMap (·.quotedText?), Smuggles text := by
    -- one parameter after the other, none of which reads on into the next
    intro parameters
    induction parameters with
    | nil => simpa using not_leaks (r.after.notMem (Or.inl rfl))
    | cons p parameters ih =>
        rw [List.flatMap_cons, List.append_assoc, leaks_parameter_iff, ih]
        cases htext : p.quotedText? <;> simp [htext]
  unfold ListedRange.chars ListedRange.quotedTexts
  rw [leaks_append_iff (r.notMem_lead (Or.inl rfl)), hparameters]

/-! ## The pieces of a range -/

theorem namesProblem_congr {a b : List Char}
    (h : trim (a.takeWhile (· != ';')) = trim (b.takeWhile (· != ';'))) :
    NamesProblem a ↔ NamesProblem b := by
  unfold NamesProblem
  rw [h]

theorem leaks_iff_exists_piece (text : List Char) :
    Leaks text ↔ ∃ piece ∈ (cutAt ',' text).tail, NamesProblem piece := by
  constructor
  · rintro ⟨before, read, rest, rfl, hstop, hcomma, hsemicolon, hnames⟩
    refine ⟨read ++ rest.takeWhile (· != ','), mem_tail_cutAt.mpr ?_, ?_⟩
    · obtain ⟨after, hrest, hnone, hhead⟩ :=
        eq_takeWhile_ne_iff.mp (rfl : rest.takeWhile (· != ',') = _)
      refine ⟨before, after, ?_, ?_, hhead⟩
      · rw [List.append_assoc, ← hrest]
      · simp only [List.mem_append, not_or]
        exact ⟨hcomma, hnone⟩
    · refine (namesProblem_congr (congrArg trim ?_)).mp hnames
      rw [← eq_takeWhile_ne_iff.mpr ⟨[], (List.append_nil read).symm, hsemicolon, by simp⟩]
      refine eq_takeWhile_ne_iff.mpr ⟨_, rfl, hsemicolon, ?_⟩
      cases rest with
      | nil => simp
      | cons d rest => rcases hstop d rfl with rfl | rfl <;> simp
  · rintro ⟨piece, hpiece, hnames⟩
    obtain ⟨before, rest, rfl, hcomma, hhead⟩ := mem_tail_cutAt.mp hpiece
    obtain ⟨after, hcut, hsemicolon, hstop⟩ :=
      eq_takeWhile_ne_iff.mp (rfl : piece.takeWhile (· != ';') = _)
    refine ⟨before, piece.takeWhile (· != ';'), after ++ rest, ?_, ?_, ?_, hsemicolon, ?_⟩
    · rw [← List.append_assoc, ← hcut]
    · cases after with
      | nil => exact fun d hd => Or.inl (hhead d hd)
      | cons d after => exact fun e he => Or.inr (hstop e he)
    · exact fun hmem => hcomma ((List.takeWhile_prefix _).subset hmem)
    · exact (namesProblem_congr (congrArg trim List.takeWhile_idem)).mpr hnames

namespace ListedRange

theorem takeWhile_chars (r : ListedRange) :
    r.chars.takeWhile (· != ',') =
      r.lead ++ (r.parameters.flatMap Parameter.chars ++ r.after.chars).takeWhile (· != ',') :=
  List.takeWhile_append_of_pos (ne_of_notMem (r.notMem_lead (Or.inl rfl)))

/-- Behind the range itself there are but blanks up to the first semicolon. -/
theorem isBlanks_takeWhile (r : ListedRange) :
    IsBlanks (((r.parameters.flatMap Parameter.chars ++ r.after.chars).takeWhile
      (· != ',')).takeWhile (· != ';')) := by
  have hgap : ∀ {c}, c = ',' ∨ c = ';' → ∀ (g : Gap), ∀ d ∈ g.chars, (d != c) = true :=
    fun hc g => ne_of_notMem (g.notMem hc)
  cases r.parameters with
  | nil =>
      intro c hc
      have hmem := (List.takeWhile_prefix _).subset ((List.takeWhile_prefix _).subset hc)
      exact r.after.isBlanks c (by simpa using hmem)
  | cons p parameters =>
      rw [List.flatMap_cons, Parameter.chars, List.append_assoc, List.append_assoc,
        List.takeWhile_append_of_pos (hgap (Or.inl rfl) p.before), List.cons_append,
        List.takeWhile_cons_of_pos (by decide),
        List.takeWhile_append_of_pos (hgap (Or.inr rfl) p.before),
        List.takeWhile_cons_of_neg (by decide), List.append_nil]
      exact p.before.isBlanks

/-- The first piece of a range is read as the range without its parameters. -/
theorem namesProblem_first_iff (r : ListedRange) :
    NamesProblem (r.chars.takeWhile (· != ',')) ↔ NamesProblem r.lead := by
  have hlead : ∀ d ∈ r.lead, (d != ';') = true :=
    ne_of_notMem (r.notMem_lead (Or.inr rfl))
  refine namesProblem_congr ?_
  rw [takeWhile_chars, List.takeWhile_append_of_pos hlead,
    trim_append_blanks _ r.isBlanks_takeWhile, List.takeWhile_eq_self_iff.mpr hlead]

theorem not_isBlanks_first (r : ListedRange) : ¬IsBlanks (r.chars.takeWhile (· != ',')) := by
  intro hblanks
  refine absurd (hblanks '/' ?_) (by decide)
  rw [takeWhile_chars]
  simp [lead]

end ListedRange

/-! ## What a header comes to -/

theorem mem_headerPieces {ranges : List ListedRange} (hranges : ranges ≠ []) {piece : List Char} :
    piece ∈ headerPieces (some (header ranges)) ↔
      ∃ r ∈ ranges, piece = r.chars.takeWhile (· != ',') ∨ piece ∈ (cutAt ',' r.chars).tail := by
  have hcut : headerPieces (some (header ranges)) =
      (ranges.map ListedRange.chars).flatMap (cutAt ',') := by
    rw [← cutAt_intercalate ',' (by simpa using hranges), cutAt_eq_splitOn]
    simp [headerPieces, header]
  rw [hcut, List.flatMap_map, List.mem_flatMap]
  refine exists_congr fun r => and_congr_right fun _ => ?_
  rw [cutAt_eq_cons, List.mem_cons, List.tail_cons]

/-- A range counts by what stands before its parameters, or by what leaks out of them. -/
theorem canWriteProblem_header_iff_leads (ranges : List ListedRange) :
    canWriteProblem (parseAccept (some (header ranges))) = true ↔
      ranges = [] ∨ ∃ r ∈ ranges, NamesProblem r.lead ∨ Leaks r.chars := by
  by_cases hranges : ranges = []
  · subst hranges
    simp only [true_or, iff_true]
    decide
  · obtain ⟨first, hfirst⟩ := List.exists_mem_of_ne_nil _ hranges
    have hstated : ¬∀ piece ∈ headerPieces (some (header ranges)), IsBlanks piece := fun hblank =>
      first.not_isBlanks_first
        (hblank _ ((mem_headerPieces hranges).mpr ⟨first, hfirst, Or.inl rfl⟩))
    simp only [canWriteProblem_parseAccept_iff, hstated, hranges, false_or,
      ← ListedRange.namesProblem_first_iff, leaks_iff_exists_piece]
    constructor
    · rintro ⟨piece, hpiece, hnames⟩
      obtain ⟨r, hr, rfl | htail⟩ := (mem_headerPieces hranges).mp hpiece
      · exact ⟨r, hr, Or.inl hnames⟩
      · exact ⟨r, hr, Or.inr ⟨piece, htail, hnames⟩⟩
    · rintro ⟨r, hr, hnames | ⟨piece, htail, hnames⟩⟩
      · exact ⟨_, (mem_headerPieces hranges).mpr ⟨r, hr, Or.inl rfl⟩, hnames⟩
      · exact ⟨piece, (mem_headerPieces hranges).mpr ⟨r, hr, Or.inr htail⟩, hnames⟩

/-- **What a header with parameters comes to**: what it comes to without them, or what its
quoted texts smuggle in. -/
theorem canWriteProblem_header_iff (ranges : List ListedRange) :
    canWriteProblem (parseAccept (some (header ranges))) = true ↔
      canWriteProblem (parseAccept (some (header (ranges.map ListedRange.bare)))) = true
        ∨ ∃ r ∈ ranges, ∃ text ∈ r.quotedTexts, Smuggles text := by
  have hlead : ∀ r : ListedRange, r.bare.lead = r.lead := fun _ => rfl
  have hquoted : ∀ r : ListedRange, r.bare.quotedTexts = [] := fun _ => rfl
  simp only [canWriteProblem_header_iff_leads, List.map_eq_nil_iff, List.mem_map,
    exists_exists_and_eq_and, leaks_range_iff, hlead, hquoted, List.not_mem_nil, false_and,
    and_false, exists_false, or_false, and_or_left, exists_or, or_assoc]

/-- **When parameters play no part.** A header comes to the same with its parameters and
without them exactly if it already names a problem without them, or no quoted text has
something between a comma and the next comma or semicolon that does. In particular they
play no part as long as there is no comma in quotes. -/
theorem parameters_play_no_part_iff (ranges : List ListedRange) :
    (canWriteProblem (parseAccept (some (header ranges))) =
        canWriteProblem (parseAccept (some (header (ranges.map ListedRange.bare)))) ↔
      canWriteProblem (parseAccept (some (header (ranges.map ListedRange.bare)))) = true
        ∨ ∀ r ∈ ranges, ∀ text ∈ r.quotedTexts, ¬Smuggles text)
    ∧ ((∀ r ∈ ranges, ∀ text ∈ r.quotedTexts, ',' ∉ text) →
      canWriteProblem (parseAccept (some (header ranges))) =
        canWriteProblem (parseAccept (some (header (ranges.map ListedRange.bare))))) := by
  have hsame : canWriteProblem (parseAccept (some (header ranges))) =
        canWriteProblem (parseAccept (some (header (ranges.map ListedRange.bare)))) ↔
      canWriteProblem (parseAccept (some (header (ranges.map ListedRange.bare)))) = true
        ∨ ∀ r ∈ ranges, ∀ text ∈ r.quotedTexts, ¬Smuggles text := by
    have hnone : (∀ r ∈ ranges, ∀ text ∈ r.quotedTexts, ¬Smuggles text) ↔
        ¬∃ r ∈ ranges, ∃ text ∈ r.quotedTexts, Smuggles text := by simp
    rw [Bool.eq_iff_iff, canWriteProblem_header_iff, or_iff_left_iff_imp, hnone, imp_iff_or_not]
  refine ⟨hsame, fun hcomma => hsame.mpr (Or.inr fun r hr text htext => ?_)⟩
  rintro ⟨before, read, d, rest, rfl, -⟩
  exact hcomma r hr _ htext (by simp)

/-- A caller of problems who says more about them in quotes, and about a page. -/
def quotedProblem : ListedRange where
  type := { chars := "application".toList }
  subtype := { chars := "problem+json".toList }
  parameters := [{ after := { chars := [' '] }, setting := some ({ chars := "profile".toList },
    .ofText "a; b = \"*/*\"".toList) }, { setting := none }]

theorem profile_plays_no_part :
    (∀ r ∈ [quotedProblem], ∀ text ∈ r.quotedTexts, ',' ∉ text)
      ∧ canWriteProblem (parseAccept (some (header [quotedProblem]))) =
        canWriteProblem (parseAccept (some (header [quotedProblem.bare]))) := by
  have hcomma : ∀ r ∈ [quotedProblem], ∀ text ∈ r.quotedTexts, ',' ∉ text := by decide
  exact ⟨hcomma, (parameters_play_no_part_iff [quotedProblem]).2 hcomma⟩

/-- A page for readers, with a note on it that mentions another format. -/
def notedPage : ListedRange where
  type := { chars := "text".toList }
  subtype := { chars := "html".toList }
  parameters := [{ setting := some ({ chars := "note".toList },
    .ofText "a, application/json, b".toList) }]

theorem note_is_read_as_a_range :
    header [notedPage] = "text/html;note=\"a, application/json, b\""
      ∧ ¬∀ ranges : List ListedRange, ranges ≠ [] →
        canWriteProblem (parseAccept (some (header ranges))) =
          canWriteProblem (parseAccept (some (header (ranges.map ListedRange.bare)))) := by
  refine ⟨by decide, fun hsame => ?_⟩
  exact absurd (hsame [notedPage] (List.cons_ne_nil _ _)) (by decide)

end Accept

end Triage
