/-!
# Accept headers as they are written

An accept header lists media ranges with commas between them, and a range may be followed
by parameters, each after a semicolon. A parameter is a name with a value, and the value
is a word or a quoted text. In quotes any character may stand, a quotation mark and a
backslash behind a backslash only; the other parts are words. Around commas and semicolons
there may be gaps.
-/

namespace Triage.Accept

/-- The characters of words besides letters and digits. -/
def wordMarks : List Char := "!#$%&'*+-.^_`|~".toList

def isWordChar (c : Char) : Bool := c.isAlphanum || wordMarks.contains c

/-- The text of a name, or of a value that needs no quotes. -/
structure Word where
  chars : List Char
  ne_nil : chars ≠ [] := by decide
  all_isWordChar : chars.all isWordChar = true := by decide

def isGapChar (c : Char) : Bool := c == ' ' || c == '\t'

/-- What may be left blank between two parts. -/
structure Gap where
  chars : List Char := []
  all_isGapChar : chars.all isGapChar = true := by decide

/-- A character between quotation marks, as it is or behind a backslash. -/
inductive QuotedChar where
  | bare (c : Char) (isBare : c ≠ '"' ∧ c ≠ '\\')
  | escaped (c : Char)

namespace QuotedChar

/-- Puts a backslash only where there has to be one. -/
def ofChar (c : Char) : QuotedChar :=
  if h : c ≠ '"' ∧ c ≠ '\\' then .bare c h else .escaped c

def chars : QuotedChar → List Char
  | .bare c _ => [c]
  | .escaped c => ['\\', c]

end QuotedChar

inductive ParameterValue where
  | word (w : Word)
  | quoted (content : List QuotedChar)

namespace ParameterValue

/-- A text in quotes. -/
def ofText (text : List Char) : ParameterValue := .quoted (text.map .ofChar)

/-- What stands between the quotation marks, if there are any. -/
def quotedText? : ParameterValue → Option (List Char)
  | .word _ => none
  | .quoted content => some (content.flatMap QuotedChar.chars)

def chars : ParameterValue → List Char
  | .word w => w.chars
  | .quoted content => '"' :: (content.flatMap QuotedChar.chars ++ ['"'])

end ParameterValue

/-- A semicolon with the gaps around it and the parameter it announces, if one follows. -/
structure Parameter where
  before : Gap := {}
  after : Gap := {}
  setting : Option (Word × ParameterValue)

namespace Parameter

def quotedText? (p : Parameter) : Option (List Char) := p.setting.bind (·.2.quotedText?)

def settingChars : Option (Word × ParameterValue) → List Char
  | none => []
  | some (name, value) => name.chars ++ '=' :: value.chars

def chars (p : Parameter) : List Char :=
  p.before.chars ++ ';' :: (p.after.chars ++ settingChars p.setting)

end Parameter

/-- A media range of a header with its parameters and the gaps around it. -/
structure ListedRange where
  before : Gap := {}
  type : Word
  subtype : Word
  parameters : List Parameter := []
  after : Gap := {}

namespace ListedRange

/-- The range up to its parameters. -/
def lead (r : ListedRange) : List Char :=
  r.before.chars ++ (r.type.chars ++ '/' :: r.subtype.chars)

def chars (r : ListedRange) : List Char :=
  r.lead ++ (r.parameters.flatMap Parameter.chars ++ r.after.chars)

/-- The range with its parameters removed. -/
def bare (r : ListedRange) : ListedRange := { r with parameters := [] }

/-- What stands between quotation marks in the parameters. -/
def quotedTexts (r : ListedRange) : List (List Char) := r.parameters.filterMap (·.quotedText?)

end ListedRange

/-- The header that lists the ranges. -/
def header (ranges : List ListedRange) : String :=
  String.ofList ([','].intercalate (ranges.map ListedRange.chars))

end Triage.Accept
