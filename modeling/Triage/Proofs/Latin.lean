import Mathlib.Data.List.TakeWhile
import Triage.Exchange
import Triage.Proofs.SmallLetters

/-!
# Texts that a response can hold

A header holds Latin-1 texts, and a body holds any text without halves of
surrogate pairs, which is to say any string. For Latin-1 headers nothing can go
wrong on the way from a draft to a response: `Draft.render_of_isSendable` gives
the response outright. A header's name is lower-cased before it is looked at,
which does not lead out of Latin-1 (`isLatinText_lowered`).
-/

namespace Triage

open Http

namespace Text

/-- Everything in the text is Latin-1. -/
def IsLatinText (t : Text) : Prop := ∀ g ∈ t.toList, isLatin g = true

/-- No half of a surrogate pair stands in a text. -/
def IsPairedText (t : Text) : Prop := ∀ g ∈ t.toList, g.isHalf = false

instance : DecidablePred IsLatinText := fun t =>
  List.decidableBAll (fun g => isLatin g = true) t.toList

instance : DecidablePred IsPairedText := fun t =>
  List.decidableBAll (fun g : Glyph => g.isHalf = false) t.toList

theorem firstUnfit?_eq_none_iff {fits : Glyph → Bool} {gs : List Glyph} :
    firstUnfit? fits gs = none ↔ ∀ g ∈ gs, fits g = true := by
  rw [← List.dropWhile_eq_nil_iff]
  unfold firstUnfit?
  cases gs.dropWhile fits <;> simp

theorem beyondLatin?_eq_none_iff {t : Text} : beyondLatin? t = none ↔ IsLatinText t :=
  firstUnfit?_eq_none_iff

theorem unpaired?_eq_none_iff {t : Text} : unpaired? t = none ↔ IsPairedText t := by
  unfold unpaired? IsPairedText
  rw [firstUnfit?_eq_none_iff]
  simp

/-- A string is a text without halves of pairs, and every such text is a string. -/
theorem isPairedText_ofString (s : String) : IsPairedText s := by
  unfold IsPairedText
  rw [toList_ofString, List.forall_mem_map]
  exact fun c _ => rfl

@[inherit_doc isPairedText_ofString]
theorem ofString_string {t : Text} (ht : IsPairedText t) : (t.string : Text) = t := by
  obtain ⟨gs⟩ := t
  have hsame : ∀ g ∈ gs, Glyph.char g.character = g := by
    intro g hg
    have hhalf := ht g hg
    cases g with
    | char c => rfl
    | half k => cases hhalf
  rw [string, ofString, String.toList_ofList, List.map_map]
  exact congrArg ofList ((List.map_congr_left hsame).trans (List.map_id gs))

theorem isLatinText_ofString_iff {s : String} :
    IsLatinText s ↔ ∀ c ∈ s.toList, isLatin (.char c) = true := by
  rw [IsLatinText, toList_ofString, List.forall_mem_map]

/-- Halves of pairs are no Latin-1. -/
theorem IsLatinText.isPairedText {t : Text} (ht : IsLatinText t) : IsPairedText t := by
  intro g hg
  have hlatin : g.toNat < 256 := of_decide_eq_true (ht g hg)
  cases g with
  | char c => rfl
  | half k =>
      rw [Glyph.toNat_half] at hlatin
      omega

theorem isLatinText_append {s t : Text} (hs : IsLatinText s) (ht : IsLatinText t) :
    IsLatinText (s ++ t) :=
  List.forall_mem_append.mpr ⟨hs, ht⟩

/-! ## Lower-casing -/

/-- Where a run of the case table starts within Latin-1, it leads to Latin-1 only. -/
theorem smallRange_of_mem : ∀ r ∈ caseRuns, r.first < 256 → r.smallRange.2 < 256 := by
  decide +kernel

/-- The small letter of a Latin-1 letter is Latin-1. -/
theorem isLatin_smallLetter {c : Char} (h : c.toNat < 256) :
    isLatin (.char (smallLetter c)) = true := by
  rw [isLatin, Glyph.toNat, decide_eq_true_iff]
  rcases smallLetter_cases c with ⟨-, hsame⟩ | ⟨r, hr, ⟨hfirst, hlast, -⟩, hsmall⟩
  · rwa [hsame]
  · have hrange := smallRange_of_mem r hr (by omega)
    simp only [CaseRun.smallRange] at hrange
    omega

theorem isLatin_of_mem_lowerAfter {before cs : List Char}
    (hcs : ∀ c ∈ cs, isLatin (.char c) = true) :
    ∀ d ∈ lowerAfter before cs, isLatin (.char d) = true := by
  intro d hd
  obtain ⟨before', c, cs', hmem, hone⟩ := exists_of_mem_lowerAfter hd
  have hc : c.toNat < 256 := of_decide_eq_true (hcs c hmem)
  have hsigma : c ≠ 'Σ' := fun heq => by subst heq; revert hc; decide
  have hdotted : c ≠ 'İ' := fun heq => by subst heq; revert hc; decide
  rw [lowerOne, if_neg hsigma, if_neg hdotted, List.mem_singleton] at hone
  rw [hone]
  exact isLatin_smallLetter hc

theorem isLatinText_lowered {s : String} (hs : IsLatinText s) : IsLatinText (lowered s) := by
  rw [isLatinText_ofString_iff] at hs ⊢
  intro c hc
  rw [lowered, String.toList_ofList] at hc
  exact isLatin_of_mem_lowerAfter hs c hc

end Text

open Text

/-! ## Headers -/

namespace Http

theorem headerText_of_isLatinText {t : Text} (ht : IsLatinText t) :
    headerText t = .ok t.string := by
  unfold headerText
  rw [beyondLatin?_eq_none_iff.mpr ht]

/-- A header whose name and value are Latin-1. -/
def IsLatinHeader (header : String × Text) : Prop :=
  IsLatinText header.1 ∧ IsLatinText header.2

instance : DecidablePred IsLatinHeader := fun header =>
  inferInstanceAs (Decidable (IsLatinText header.1 ∧ IsLatinText header.2))

/-- A header as it is kept: its name in small letters. -/
def keptHeader (header : String × Text) : String × String := (lowered header.1, header.2.string)

theorem Headers.append_of_isLatinHeader {header : String × Text} (hl : IsLatinHeader header)
    (h : Headers) : h.append header.1 header.2 = .ok (h ++ [keptHeader header]) := by
  have hname := headerText_of_isLatinText (isLatinText_lowered hl.1)
  have hvalue := headerText_of_isLatinText hl.2
  unfold Headers.append Headers.checked
  simp only [hname, hvalue, string_ofString]
  rfl

theorem Headers.appendAll_of_isLatinHeader :
    ∀ {added : List (String × Text)}, (∀ header ∈ added, IsLatinHeader header) →
      ∀ (h : Headers), h.appendAll added = .ok (h ++ added.map keptHeader)
  | [], _, h => by rw [Headers.appendAll, List.map_nil, List.append_nil]
  | (name, value) :: rest, hl, h => by
      have hhead := Headers.append_of_isLatinHeader (hl (name, value) (List.mem_cons_self ..)) h
      have hrest := Headers.appendAll_of_isLatinHeader
        (fun header hmem => hl header (List.mem_cons_of_mem _ hmem))
        (h ++ [keptHeader (name, value)])
      rw [Headers.appendAll, hhead]
      simpa using hrest

/-! ## Responses -/

namespace Response

theorem isLatinText_contentType {mediaType : String} (hm : IsLatinText mediaType) :
    IsLatinText (contentType mediaType) := by
  unfold contentType
  split
  · rw [ofString_append]
    exact isLatinText_append hm (by decide)
  · exact hm

/-- The header that says how long a body is, where a body may be. -/
def lengthHeader (status : Int) (body : String) : Headers :=
  if isBodiless status then []
  else [("content-length", Number.decimalText (body.utf8ByteSize : Nat))]

/-- The header that says what a body is. -/
def typeHeader : Option String → Headers
  | none => []
  | some mediaType => [("content-type", contentType mediaType)]

/-- A string can be sent as it is. -/
@[simp] theorem checkBody_ofString (body : String) : checkBody body = .ok body := by
  rw [checkBody, unpaired?_eq_none_iff.mpr (isPairedText_ofString body)]
  dsimp only
  rw [string_ofString]

/-- A response with a Latin-1 media type, if any, has the headers that describe the body
and no others. -/
theorem make_of_latin (status : Int) (body : String) {mediaType : Option String}
    (hm : ∀ m ∈ mediaType, IsLatinText m) :
    make status body mediaType =
      .ok ⟨status, lengthHeader status body ++ typeHeader mediaType, body⟩ := by
  unfold make framing lengthHeader typeHeader
  rw [checkBody_ofString]
  cases mediaType with
  | none => simp
  | some m =>
      have htype := headerText_of_isLatinText (isLatinText_contentType (hm m rfl))
      simp [htype]

/-- The headers that describe a body are of two names only. -/
theorem values_framing (status : Int) (body : String) (mediaType : Option String)
    {name : String} (hlength : name ≠ "content-length") (htype : name ≠ "content-type") :
    Headers.values (lengthHeader status body ++ typeHeader mediaType) name = [] := by
  unfold lengthHeader
  cases mediaType <;> split <;> simp [Headers.values, typeHeader, hlength.symm, htype.symm]

end Response

end Http

/-! ## Drafts -/

namespace Draft

/-- Every header of a draft is Latin-1. -/
def HasLatinHeaders (d : Draft) : Prop := ∀ header ∈ d.headers, IsLatinHeader header

/-- A draft that nothing keeps from being rendered. -/
structure IsSendable (d : Draft) : Prop where
  headers : d.HasLatinHeaders
  mediaType : ∀ c ∈ d.content, IsLatinText c.mediaType

/-- The response that a draft stands for. -/
def response (d : Draft) : Response where
  status := d.status
  headers := Response.lengthHeader d.status d.body
    ++ Response.typeHeader (d.content.map (·.mediaType)) ++ d.headers.map keptHeader
  body := d.body

theorem render_of_isSendable {d : Draft} (hd : d.IsSendable) : d.render = .ok d.response := by
  obtain ⟨status, headers, content⟩ := d
  have htype : ∀ m : String, m ∈ content.map (·.mediaType) → IsLatinText m := by
    intro m hm
    obtain ⟨c, hc, rfl⟩ := Option.map_eq_some_iff.mp hm
    exact hd.mediaType c hc
  unfold render
  simp only [Response.make_of_latin status _ htype]
  rw [Headers.appendAll_of_isLatinHeader hd.headers]
  rfl

/-- A draft with a body of a Latin-1 media type can be rendered. -/
theorem render_of_written {d : Draft} {body mediaType : String} (hd : d.HasLatinHeaders)
    (hcontent : d.content = some ⟨body, mediaType⟩) (htype : IsLatinText mediaType) :
    ∃ response, d.render = .ok response ∧ response.status = d.status
      ∧ response.body = body := by
  have hsendable : d.IsSendable := by
    refine ⟨hd, fun c hc => ?_⟩
    obtain rfl := Option.some.inj (hcontent.symm.trans hc)
    exact htype
  refine ⟨d.response, render_of_isSendable hsendable, rfl, ?_⟩
  show d.body = body
  unfold Draft.body
  rw [hcontent]
  rfl

end Draft

end Triage
