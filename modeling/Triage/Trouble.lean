import Triage.Issue
import Triage.Json.Reader
import Triage.Text.Unfit
import Triage.Error.Class

/-!
# What can go wrong in the library itself

Every cause for which an operation here gives no result, with the wording of
each in one place.
-/

namespace Triage

open Number Text

/-- Why an operation gave no result. -/
inductive Trouble where
  /-- A value that has no order was compared with a number. -/
  | unordered (type : String)
  /-- A value without members was to be gone through. -/
  | notIterable (type : String)
  /-- A validation entry is no object. -/
  | notAnEntry (type : String)
  /-- A record could not be built. -/
  | invalid (record : String) (issues : List Issue)
  /-- A value could not be put into words. -/
  | obstacle (o : Obstacle)
  /-- A header text goes beyond Latin-1. -/
  | notLatin (run : Unfit)
  /-- A text that is to be sent holds unpaired surrogates. -/
  | unpaired (run : Unfit)
  | tooManyArguments (owner : String) (most given : Nat)
  | noCache
  | notPositive (name : String)
  | durationNotANumber
  | durationInfinite
  | durationTooLong (days : Int)
  /-- A duration has more days than can be counted. -/
  | durationUncountable
  | momentOutOfRange
  | unknownLevel (name : String)
  /-- A setting is not written as its type demands. -/
  | unreadableSetting (field : String)
  /-- A setting is nested too deep. -/
  | settingTooDeep (complaint : Json.Complaint)
  | noTitle
  | yearOutOfRange (year : Int)
  /-- A moment is too far away for the clock. -/
  | timestampOutOfRange
  /-- A moment is too far away for the calendar. -/
  | timestampTooLarge
  | timestampNotANumber
  | directiveWantsReal (directive : Glyph) (type : String)
  | directiveWantsWhole (directive : Glyph) (type : String)
  | directiveWantsCharacter
  | directiveWantsCodePoint
  | unknownDirective (directive : Glyph) (position : Nat)
  | incompleteDirective
  | incompleteKey
  | tooFewForTemplate
  | tooManyForTemplate
  | wantsMapping
  | missingKey (key : Text)
  /-- A width or precision is given by something else than a whole number. -/
  | starWantsWhole
  | widthTooBig
  | widthArgumentTooBig
  | precisionTooBig
  | precisionTooLarge
  /-- A text would be too long to be held. -/
  | noMemory
  /-- A whole number is too great for a floating-point one. -/
  | realTooLarge
  /-- A directive wants a number of any kind. -/
  | notReal (type : String)
  /-- Arguments are asked for by name where they have none. -/
  | notByName (type : String)
  | wantsWhole (type : String)
  /-- A whole number is too great to count anything. -/
  | beyondCounting
  /-- A value that has no parts is asked for one of them. -/
  | notDivisible (type : String)
  /-- An object is asked for a part by its position. -/
  | missingPart (position : Int)
  /-- A row, or a text, is too short to have a part. -/
  | partBeyond (what : String)
  | tooFewParts (wanted given : Nat)
  | tooManyParts (wanted : Nat)
  | lacksAttribute (type name : String)
  deriving Repr, Inhabited

namespace Trouble

/-- How a run that a coding cannot hold is reported. -/
def unfitMessage (coding reason : String) (run : Unfit) : Text :=
  let what :=
    if run.more = 0 then
      "character '" ++ String.ofList (numberedPoint run.first.toNat) ++ "' in position " ++
        decimalText run.start
    else
      "characters in position " ++ decimalText run.start ++ "-" ++
        decimalText (run.start + run.more : Nat)
  quoted coding ++ " codec can't encode " ++ what ++ ": " ++ reason

/-- The class of the error that an obstacle is. -/
def obstacleClass : Obstacle → CommonClass
  | .tooManyDigits | .notFinite => .valueError
  | .tooDeepToShow | .tooDeepToWrite => .recursionError
  | .unknownToJson _ => .typeError

/-- The class of the error that a trouble is, unless it is an invalid record
or an unreadable setting. -/
def class? : Trouble → Option CommonClass
  | .unordered _ | .notIterable _ | .tooManyArguments .. => some .typeError
  | .notAnEntry _ => some .attributeError
  | .invalid .. | .unreadableSetting _ => none
  | .obstacle o => some (obstacleClass o)
  | .notPositive _ | .durationNotANumber | .unknownLevel _ => some .valueError
  | .notLatin _ | .unpaired _ => some .unicodeEncodeError
  | .settingTooDeep _ => some .recursionError
  | .noTitle => some .assertionError
  | .noCache => some .runtimeError
  | .durationInfinite | .durationTooLong _ | .durationUncountable | .momentOutOfRange =>
    some .overflowError
  | .yearOutOfRange _ | .timestampNotANumber => some .valueError
  | .timestampOutOfRange => some .overflowError
  | .timestampTooLarge => some .osError
  | .directiveWantsReal .. | .directiveWantsWhole .. | .directiveWantsCharacter
  | .tooFewForTemplate | .tooManyForTemplate | .wantsMapping | .starWantsWhole =>
    some .typeError
  | .directiveWantsCodePoint | .realTooLarge | .widthArgumentTooBig | .precisionTooLarge =>
    some .overflowError
  | .noMemory => some .memoryError
  | .unknownDirective .. | .incompleteDirective | .incompleteKey | .widthTooBig
  | .precisionTooBig | .beyondCounting => some .valueError
  | .missingKey _ => some .keyError
  | .notReal _ | .notByName _ | .wantsWhole _ | .notDivisible _ => some .typeError
  | .missingPart _ => some .keyError
  | .partBeyond _ => some .indexError
  | .tooFewParts .. | .tooManyParts _ => some .valueError
  | .lacksAttribute .. => some .attributeError

def className (t : Trouble) : String :=
  match t.class? with
  | some c => c.name
  | none =>
    match t with
    | .unreadableSetting _ => "SettingsError"
    | _ => "ValidationError"

/-- A trouble in words; issues are listed in short. -/
def message : Trouble → Text
  | .unordered type => "'<' not supported between instances of '" ++ type ++ "' and 'int'"
  | .notIterable type => "'" ++ type ++ "' object is not iterable"
  | .notAnEntry type => "'" ++ type ++ "' object has no attribute 'get'"
  | .invalid _ issues => joined ";" (issues.map Issue.summary)
  | .obstacle o => o.message
  | .notLatin run => unfitMessage "latin-1" "ordinal not in range(256)" run
  | .unpaired run => unfitMessage "utf-8" "surrogates not allowed" run
  | .tooManyArguments owner most given =>
    owner ++ ".__init__() takes from 1 to " ++ decimalText most ++
      " positional arguments but " ++ decimalText given ++ " were given"
  | .noCache => "No cache store configured for this application"
  | .notPositive name => name ++ " must be positive"
  | .durationNotANumber => "cannot convert float NaN to integer"
  | .durationInfinite => "cannot convert float infinity to integer"
  | .durationTooLong days =>
    "days=" ++ decimalText days ++ "; must have magnitude <= 999999999"
  | .durationUncountable => "Python int too large to convert to C int"
  | .momentOutOfRange => "date value out of range"
  | .unknownLevel name => "Unknown level: " ++ quoted name
  | .unreadableSetting field =>
    "error parsing value for field \"" ++ field ++ "\" from source \"EnvSettingsSource\""
  | .settingTooDeep complaint => complaint.message
  | .noTitle => "A title must be provided for OpenAPI, e.g.: 'My API'"
  | .yearOutOfRange year => "year " ++ decimalText year ++ " is out of range"
  | .timestampOutOfRange => "timestamp out of range for platform time_t"
  | .timestampTooLarge => "[Errno 75] Value too large for defined data type"
  | .timestampNotANumber => "Invalid value NaN (not a number)"
  | .directiveWantsReal directive type =>
    "%" ++ singleton directive ++ " format: a real number is required, not " ++ type
  | .directiveWantsWhole directive type =>
    "%" ++ singleton directive ++ " format: an integer is required, not " ++ type
  | .directiveWantsCharacter => "%c requires int or char"
  | .directiveWantsCodePoint => "%c arg not in range(0x110000)"
  | .unknownDirective directive position =>
    "unsupported format character '" ++
      (if 30 < directive.toNat ∧ directive.toNat < 127 then singleton directive else "?") ++
      "' (0x" ++ String.ofList (Nat.toDigits 16 directive.toNat) ++ ") at index " ++
      decimalText position
  | .incompleteDirective => "incomplete format"
  | .incompleteKey => "incomplete format key"
  | .tooFewForTemplate => "not enough arguments for format string"
  | .tooManyForTemplate => "not all arguments converted during string formatting"
  | .wantsMapping => "format requires a mapping"
  | .missingKey key => quoted key
  | .starWantsWhole => "* wants int"
  | .widthTooBig => "width too big"
  | .widthArgumentTooBig => "Python int too large to convert to C ssize_t"
  | .precisionTooBig => "precision too big"
  | .precisionTooLarge => "precision too large"
  | .noMemory => ""
  | .realTooLarge => "int too large to convert to float"
  | .notReal type => "must be real number, not " ++ type
  | .notByName type => type ++ " indices must be integers or slices, not str"
  | .wantsWhole type => "'" ++ type ++ "' object cannot be interpreted as an integer"
  | .beyondCounting => "cannot fit 'int' into an index-sized integer"
  | .notDivisible type => "'" ++ type ++ "' object is not subscriptable"
  | .missingPart position => decimalText position
  | .partBeyond what => what ++ " index out of range"
  | .tooFewParts wanted given =>
    "not enough values to unpack (expected " ++ decimalText wanted ++ ", got " ++
      decimalText given ++ ")"
  | .tooManyParts wanted => "too many values to unpack (expected " ++ decimalText wanted ++ ")"
  | .lacksAttribute type name => "'" ++ type ++ "' object has no attribute '" ++ name ++ "'"

end Trouble

/-- A text, where an obstacle to it is a trouble. -/
def Trouble.ofWords {α : Type} (words : Except Obstacle α) : Except Trouble α :=
  words.mapError .obstacle

end Triage
