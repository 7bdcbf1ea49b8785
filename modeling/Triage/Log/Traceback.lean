import Triage.Error.Make
import Triage.Text.Cut

/-!
# Tracebacks

An error is reported after the error that it follows from: its stated cause, or
else the one that was being handled, unless that one is hidden. After the error
itself come the notes that were attached to it, line by line.
-/

namespace Triage.Log

/-- What stands between a cause and the error raised from it. -/
def causeBridge : String :=
  "\nThe above exception was the direct cause of the following exception:\n\n"

/-- What stands between an error and the one raised while it was handled. -/
def contextBridge : String :=
  "\nDuring handling of the above exception, another exception occurred:\n\n"

/-- The text of what a report names, or what stands for it where there is an obstacle. -/
def reportText (words : Except Obstacle Text) (what : String) : Text :=
  match words with
  | .ok s => s
  | .error _ => "<" ++ what ++ " failed>"

/-- The line for an error itself: the class, and the text if there is any. -/
def finalLine (e : Error) : Text :=
  let text := reportText e.text "exception str()"
  (if text.isEmpty then e.fullName else e.fullName ++ ": " ++ text) ++ "\n"

/-! ## Notes -/

/-- The attribute that holds the notes on an error. -/
def notesAttribute : String := "__notes__"

def noteLines (note : Text) : Text :=
  .join ((Text.cutAt (Glyph.char '\n') note.toList).map fun line => .ofList line ++ "\n")

/-- The notes on an error: each on lines of its own; what is no row of notes is
displayed as it is. -/
def notes (e : Error) : Text :=
  match Error.attribute? notesAttribute e.attributes with
  | none => ""
  | some a =>
    match a.memberTexts? with
    | some texts => Text.join (texts.map fun text => noteLines (reportText text "note str()"))
    | none => if a.isNull then "" else reportText a.shown (notesAttribute ++ " repr()")

/-! ## What an error follows from -/

/-- The attribute that stands for the context where there is none. -/
def contextAttribute : String := "__context__"

/-- The attribute that says whether the context is hidden. -/
def hidingAttribute : String := "__suppress_context__"

/-- Whether an error's context is not shown. -/
def hidesContext (e : Error) : Bool :=
  match Error.attribute? hidingAttribute e.attributes with
  | some a => a.isPresent
  | none => e.hidesContext

/-- Only an error can be reported: nothing else may stand for one. -/
def checkStandIn (name : String) (e : Error) : Except Trouble Unit :=
  match Error.attribute? name e.attributes with
  | none => .ok ()
  | some a => if a.isNull then .ok () else .error (.lacksAttribute a.typeName "__traceback__")

def ownLines (e : Error) : Text := finalLine e ++ notes e

mutual

/-- The report on an error. The context is looked at only where it is shown. -/
def report : Error → Except Trouble Text
  | ⟨form, ownName, attributes, cause, context, hides⟩ =>
    let e : Error := ⟨form, ownName, attributes, cause, context, hides⟩
    match earlier e Error.causeAttribute cause with
    | .error t => .error t
    | .ok (some before) => .ok (before ++ causeBridge ++ ownLines e)
    | .ok none =>
      if hidesContext e then .ok (ownLines e)
      else
        match earlier e contextAttribute context with
        | .error t => .error t
        | .ok (some before) => .ok (before ++ contextBridge ++ ownLines e)
        | .ok none => .ok (ownLines e)

/-- The report on an error that `e` follows from, if there is one; an attribute may
not stand for it. -/
def earlier (e : Error) (name : String) : Option Error → Except Trouble (Option Text)
  | none => (checkStandIn name e).map fun _ => none
  | some other =>
    match report other with
    | .ok s => .ok (some s)
    | .error t => .error t

end

/-- The report on an error without the end of its last line. -/
def traceback (e : Error) : Except Trouble Text :=
  match report e with
  | .error t => .error t
  | .ok s =>
    .ok (match s.toList.reverse with
      | .char '\n' :: rest => .ofList rest.reverse
      | _ => s)

def thingOf (e : Error) : Value :=
  .thing {
    type := e.typeName, text := e.text, shown := e.shown
    report := match traceback e with
      | .ok report => report
      | .error _ => reportText e.text "exception str()" }

end Triage.Log
