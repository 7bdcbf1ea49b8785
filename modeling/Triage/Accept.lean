import Triage.Text.Blank
import Triage.Text.Lowercase
import Triage.Text.Cut

/-!
# What a caller accepts

A caller lists the media ranges it accepts. A problem can be written when one of
them covers JSON or problem JSON, or when the caller states no preference at
all. Parameters of a range play no part, and pieces that are no media range are
passed over.
-/

namespace Triage

open Text

/-! ## Media types -/

/-- A media type, or a range of them: `*` stands for anything, and a subtype
`*+suffix` for every subtype that ends in `+suffix`. -/
structure MediaType where
  type : List Char
  subtype : List Char
  deriving DecidableEq, Repr

namespace MediaType

/-- The part of a media range before its parameters. -/
def essence (cs : List Char) : List Char := lower (trim (cs.takeWhile (· != ';')))

def ofChars? (cs : List Char) : Option MediaType :=
  match cutOnce? '/' (essence cs) with
  | none => none
  | some (type, subtype) =>
    let type := trim type
    let subtype := trim subtype
    if type.isEmpty || subtype.isEmpty then none else some ⟨type, subtype⟩

def ofString? (s : String) : Option MediaType := ofChars? s.toList

/-- Whether everything in `m` is also in `range`. -/
def isSubsetOf (m range : MediaType) : Bool :=
  (range.type == ['*'] || range.type == m.type) &&
    (range.subtype == ['*'] || range.subtype == m.subtype ||
      match range.subtype with
      | '*' :: '+' :: suffix => ('+' :: suffix).isSuffixOf m.subtype
      | _ => false)

def json : MediaType := ⟨"application".toList, "json".toList⟩

def problemJson : MediaType := ⟨"application".toList, "problem+json".toList⟩

/-- The media types that a problem can be written as. -/
def writable : List MediaType := [json, problemJson]

end MediaType

/-! ## Preferences -/

/-- The pieces of an accept header that are not blank, trimmed. -/
def acceptPieces (header : List Char) : List (List Char) :=
  ((cutAt ',' header).map trim).filter (!·.isEmpty)

/-- The preferences in an accept header, if there is one. -/
def parseAccept (header : Option String) : List String :=
  match header with
  | none => []
  | some s => (acceptPieces s.toList).map String.ofList

/-- Whether a preference takes a problem. -/
def takesProblem (preference : String) : Bool :=
  match MediaType.ofString? preference with
  | some range => MediaType.writable.any (·.isSubsetOf range)
  | none => false

/-- Whether a problem can be written for a caller with these preferences. -/
def canWriteProblem (preferences : List String) : Bool :=
  let stated := preferences.filter (!isBlankText ·)
  stated.isEmpty || stated.any takesProblem

end Triage
