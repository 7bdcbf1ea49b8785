import Triage.Proofs.MediaRanges

/-!
# What a header has to say

An accept header is a list of pieces between commas. Whether a problem can be written is
decided piece by piece: one that names a problem is enough (`NamesProblem`), and so is a
header that says nothing at all (`canWriteProblem_parseAccept_iff`). Of all media ranges
there are only eight that do, two types with four subtypes each, as no suffix but that of
problem JSON ends one of the two media types (`exists_writable_le_iff`).
-/

namespace Triage

open Text

/-- The types of the ranges that admit a problem; `takenSubtypes` are their subtypes. -/
def takenTypes : List (List Char) := ["*".toList, "application".toList]

def takenSubtypes : List (List Char) :=
  ["*".toList, "json".toList, "problem+json".toList, "*+json".toList]

/-- Up to its first semicolon, trimmed and in small letters, the piece has a taken type
before its first slash and a taken subtype after it. -/
def NamesProblem (piece : List Char) : Prop :=
  ∃ type subtype, lower (trim (piece.takeWhile (· != ';'))) = type ++ '/' :: subtype
    ∧ '/' ∉ type ∧ trim type ∈ takenTypes ∧ trim subtype ∈ takenSubtypes

/-- The pieces of a header between its commas. -/
def headerPieces (header : Option String) : List (List Char) :=
  (header.map fun s => s.toList.splitOn ',').getD []

/-! ## The ranges that admit a problem -/

namespace MediaType

theorem admits_json_iff {range : List Char} :
    Admits range json.subtype ↔ range = ['*'] ∨ range = json.subtype := by
  have hsuffix : ∀ suffix, ¬('+' :: suffix <:+ json.subtype) := by
    show ∀ suffix, ¬('+' :: suffix <:+ ['j', 's', 'o', 'n'])
    simp [List.suffix_cons_iff]
  simp only [Admits, hsuffix, and_false, exists_false, or_false]

theorem admits_problemJson_iff {range : List Char} :
    Admits range problemJson.subtype ↔
      range = ['*'] ∨ range = problemJson.subtype ∨ range = '*' :: '+' :: json.subtype := by
  have hsuffix : ∀ suffix, '+' :: suffix <:+ problemJson.subtype ↔ suffix = json.subtype := by
    show ∀ suffix, '+' :: suffix <:+ ['p', 'r', 'o', 'b', 'l', 'e', 'm', '+', 'j', 's', 'o', 'n'] ↔
      suffix = ['j', 's', 'o', 'n']
    simp [List.suffix_cons_iff]
  simp only [Admits, hsuffix, exists_eq_right]

theorem mem_takenSubtypes_iff {subtype : List Char} :
    subtype ∈ takenSubtypes ↔ subtype = ['*'] ∨ subtype = json.subtype
      ∨ subtype = problemJson.subtype ∨ subtype = '*' :: '+' :: json.subtype := by
  show subtype ∈ [['*'], json.subtype, problemJson.subtype, '*' :: '+' :: json.subtype] ↔ _
  simp only [List.mem_cons, List.not_mem_nil, or_false]

theorem suffix_mem_takenSubtypes_iff {suffix : List Char} :
    '*' :: '+' :: suffix ∈ takenSubtypes ↔ suffix = json.subtype := by
  have hjson : '*' :: '+' :: suffix ≠ json.subtype := fun heq => nomatch heq
  have hproblem : '*' :: '+' :: suffix ≠ problemJson.subtype := fun heq => nomatch heq
  simp [mem_takenSubtypes_iff, hjson, hproblem]

theorem exists_writable_le_iff {range : MediaType} :
    (∃ m ∈ writable, m ≤ range) ↔
      range.type ∈ takenTypes ∧ range.subtype ∈ takenSubtypes := by
  have htype : range.type ∈ takenTypes ↔ range.type = ['*'] ∨ range.type = json.type := by
    show range.type ∈ [['*'], json.type] ↔ _
    simp only [List.mem_cons, List.not_mem_nil, or_false]
  have hboth : problemJson.type = json.type := rfl
  simp only [writable, List.mem_cons, List.not_mem_nil, or_false, exists_eq_or_imp,
    exists_eq_left, le_iff, hboth, ← htype, admits_json_iff, admits_problemJson_iff,
    mem_takenSubtypes_iff, ← and_or_left]
  exact and_congr_right fun _ => or_or_distrib_left.symm

theorem ofChars?_eq_some_iff {cs : List Char} {range : MediaType} :
    ofChars? cs = some range ↔
      ∃ type subtype, essence cs = type ++ '/' :: subtype ∧ '/' ∉ type
        ∧ trim type ≠ [] ∧ trim subtype ≠ [] ∧ range = ⟨trim type, trim subtype⟩ := by
  unfold ofChars?
  cases hcut : cutOnce? '/' (essence cs) with
  | none =>
      simp only [reduceCtorEq, false_iff, not_exists, not_and]
      intro type subtype hessence hslash
      rw [cutOnce?_eq_some_iff.mpr ⟨hessence, hslash⟩] at hcut
      cases hcut
  | some parts =>
      obtain ⟨type, subtype⟩ := parts
      have hparts := cutOnce?_eq_some_iff.mp hcut
      simp only [Option.ite_none_left_eq_some, Bool.or_eq_true, List.isEmpty_iff, not_or,
        Option.some.injEq]
      constructor
      · rintro ⟨⟨htype, hsubtype⟩, rfl⟩
        exact ⟨type, subtype, hparts.1, hparts.2, htype, hsubtype, rfl⟩
      · rintro ⟨type', subtype', hessence, hslash, htype, hsubtype, rfl⟩
        rw [cutOnce?_eq_some_iff.mpr ⟨hessence, hslash⟩] at hcut
        obtain ⟨rfl, rfl⟩ := Prod.mk.inj (Option.some.inj hcut)
        exact ⟨⟨htype, hsubtype⟩, rfl⟩

end MediaType

/-! ## The pieces of a header -/

/-- Blanks around a piece make no difference, also where parameters follow. -/
theorem MediaType.essence_trim (cs : List Char) : essence (trim cs) = essence cs := by
  obtain ⟨before, after, hcs, hbefore, hafter⟩ := exists_blanks cs
  have hsemicolon : ∀ {blanks : List Char}, IsBlanks blanks → ∀ c ∈ blanks, (c != ';') = true := by
    intro blanks hblanks c hc
    rw [bne_iff_ne]
    rintro rfl
    exact absurd (hblanks _ hc) (by decide)
  unfold essence
  rw [congrArg (List.takeWhile (· != ';')) hcs, List.append_assoc,
    List.takeWhile_append_of_pos (hsemicolon hbefore), trim_blanks_append hbefore,
    List.takeWhile_append]
  split
  · -- no parameters, so that the blanks at the end belong to the range
    rename_i hall
    rw [List.takeWhile_eq_self_iff.mpr (hsemicolon hafter), trim_append_blanks _ hafter,
      ((List.takeWhile_prefix _).eq_of_length hall)]
  · rfl

theorem takesProblem_trim_iff {piece : List Char} :
    takesProblem (String.ofList (trim piece)) = true ↔ NamesProblem piece := by
  have hread : MediaType.ofString? (String.ofList (trim piece)) = MediaType.ofChars? piece := by
    unfold MediaType.ofString? MediaType.ofChars?
    rw [String.toList_ofList, MediaType.essence_trim]
  rw [takesProblem_iff, hread]
  simp only [MediaType.exists_writable_le_iff, MediaType.ofChars?_eq_some_iff]
  constructor
  · rintro ⟨range, ⟨type, subtype, hessence, hslash, -, -, rfl⟩, htaken⟩
    exact ⟨type, subtype, hessence, hslash, htaken⟩
  · rintro ⟨type, subtype, hessence, hslash, htype, hsubtype⟩
    refine ⟨_, ⟨type, subtype, hessence, hslash, ?_, ?_, rfl⟩, htype, hsubtype⟩
    · rintro hnil
      exact absurd (hnil ▸ htype) (by decide)
    · rintro hnil
      exact absurd (hnil ▸ hsubtype) (by decide)

theorem mem_parseAccept {header : Option String} {preference : String} :
    preference ∈ parseAccept header ↔
      ∃ piece ∈ headerPieces header, ¬IsBlanks piece ∧ String.ofList (trim piece) = preference := by
  cases header with
  | none => simp [parseAccept, headerPieces]
  | some s =>
      simp only [parseAccept, acceptPieces, headerPieces, cutAt_eq_splitOn, List.mem_map,
        List.mem_filter, Option.map_some, Option.getD_some, Bool.not_eq_true',
        List.isEmpty_eq_false_iff, ne_eq]
      constructor
      · rintro ⟨_, ⟨⟨piece, hmem, rfl⟩, hne⟩, rfl⟩
        exact ⟨piece, hmem, fun hblanks => hne (trim_eq_nil_iff.mpr hblanks), rfl⟩
      · rintro ⟨piece, hmem, hne, rfl⟩
        exact ⟨_, ⟨⟨piece, hmem, rfl⟩, fun hnil => hne (trim_eq_nil_iff.mp hnil)⟩, rfl⟩

theorem not_isBlanks_of_namesProblem {piece : List Char} (h : NamesProblem piece) :
    ¬IsBlanks piece := by
  intro hblanks
  have htakes := takesProblem_trim_iff.mpr h
  rw [trim_eq_nil_iff.mpr hblanks] at htakes
  exact absurd htakes (by decide)

/-- The preferences of a header are trimmed, and none is blank. -/
theorem isBlankText_of_mem_parseAccept {header : Option String} {preference : String}
    (h : preference ∈ parseAccept header) : isBlankText preference = false := by
  obtain ⟨piece, -, hstated, rfl⟩ := mem_parseAccept.mp h
  by_contra hblank
  refine hstated fun c hc => ?_
  by_contra hc'
  have hmem : c ∈ trim piece := (mem_trim_iff (by simpa using hc')).mpr hc
  exact hc' (List.all_eq_true.mp (by simpa [isBlankText] using hblank) c hmem)

/-- **What a header has to say**: nothing, or something that names a problem. -/
theorem canWriteProblem_parseAccept_iff {header : Option String} :
    canWriteProblem (parseAccept header) = true ↔
      (∀ piece ∈ headerPieces header, IsBlanks piece)
        ∨ ∃ piece ∈ headerPieces header, NamesProblem piece := by
  rw [canWriteProblem_iff]
  refine or_congr ?_ ?_
  · constructor
    · intro hblank piece hpiece
      by_contra hstated
      have hmem := mem_parseAccept.mpr ⟨piece, hpiece, hstated, rfl⟩
      exact absurd (hblank _ hmem) (by simp [isBlankText_of_mem_parseAccept hmem])
    · intro hblank preference hmem
      obtain ⟨piece, hpiece, hstated, -⟩ := mem_parseAccept.mp hmem
      exact absurd (hblank piece hpiece) hstated
  · constructor
    · rintro ⟨preference, hmem, htakes⟩
      obtain ⟨piece, hpiece, -, rfl⟩ := mem_parseAccept.mp hmem
      exact ⟨piece, hpiece, takesProblem_trim_iff.mp htakes⟩
    · rintro ⟨piece, hpiece, hnames⟩
      exact ⟨_, mem_parseAccept.mpr ⟨piece, hpiece, not_isBlanks_of_namesProblem hnames, rfl⟩,
        takesProblem_trim_iff.mpr hnames⟩

/-- **The grammar of the gate.** A problem can be written for a header exactly if all its
pieces are blank or one of them names a problem. So headers with the same pieces, in any
order and any number, blank ones aside, come to the same; and of the ranges over a suffix
only those over the one of problem JSON are accepted. -/
theorem gate_accepts_its_grammar (header : Option String) :
    (canWriteProblem (parseAccept header) = true ↔
      (∀ piece ∈ headerPieces header, IsBlanks piece)
        ∨ ∃ piece ∈ headerPieces header, NamesProblem piece)
    ∧ (∀ other, (∀ piece, ¬IsBlanks piece →
          (piece ∈ headerPieces other ↔ piece ∈ headerPieces header)) →
        canWriteProblem (parseAccept other) = canWriteProblem (parseAccept header))
    ∧ ∀ preference type suffix,
        MediaType.ofString? preference = some ⟨type, '*' :: '+' :: suffix⟩ →
        (canWriteProblem [preference] = true ↔ type ∈ takenTypes ∧ suffix = "json".toList) := by
  refine ⟨canWriteProblem_parseAccept_iff, fun other hsame => ?_,
    fun preference type suffix hrange => ?_⟩
  · -- a piece that counts on either side is not blank
    rw [Bool.eq_iff_iff, canWriteProblem_parseAccept_iff, canWriteProblem_parseAccept_iff]
    refine or_congr ?_ (exists_congr fun piece => and_congr_left fun hnames =>
      hsame piece (not_isBlanks_of_namesProblem hnames))
    exact forall_congr' fun piece => (not_imp_not.symm.trans
      (forall_congr' fun hstated => not_congr (hsame piece hstated))).trans not_imp_not
  · have hstated : isBlankText preference = false := by
      by_contra hblank
      rw [MediaType.ofString?_of_isBlankText (by simpa using hblank)] at hrange
      cases hrange
    have hsuffix : '*' :: '+' :: suffix ∈ takenSubtypes ↔ suffix = "json".toList :=
      MediaType.suffix_mem_takenSubtypes_iff
    simp [canWriteProblem_iff, hstated, takesProblem_iff, hrange, MediaType.exists_writable_le_iff,
      hsuffix]

/-- What a browser sends, shuffled and with a blank piece; and a suffix that will not do. -/
theorem browser_header_in_any_order :
    canWriteProblem (parseAccept (some " */*;q=0.8,text/html, ,text/html")) =
        canWriteProblem (parseAccept (some "text/html, */*;q=0.8"))
      ∧ canWriteProblem ["application/*+xml"] = false := by
  obtain ⟨-, hsame, hsuffix⟩ := gate_accepts_its_grammar (some "text/html, */*;q=0.8")
  constructor
  · refine hsame _ fun piece hstated => ?_
    have hblank : piece ≠ [' '] := fun heq => hstated (heq ▸ trim_eq_nil_iff.mp rfl)
    have hpieces : headerPieces (some "text/html, */*;q=0.8") =
        ["text/html".toList, " */*;q=0.8".toList] := by decide
    have hothers : headerPieces (some " */*;q=0.8,text/html, ,text/html") =
        [" */*;q=0.8".toList, "text/html".toList, [' '], "text/html".toList] := by decide
    rw [hpieces, hothers]
    simp only [List.mem_cons, List.not_mem_nil, or_false, hblank, false_or]
    grind
  · have hxml := hsuffix "application/*+xml" "application".toList "xml".toList (by decide)
    rw [← Bool.not_eq_true, hxml]
    decide

end Triage
