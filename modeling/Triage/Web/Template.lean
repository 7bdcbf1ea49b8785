/-!
# Path templates

A template is a path in which a name in braces stands for one or more characters
other than a slash; a brace around anything else is a character like any other.
The first parameters take as much as they can. One line end after the last piece
does not count.
-/

namespace Triage.Web

inductive Piece where
  | char (c : Char)
  | parameter (name : String)
  deriving DecidableEq, Repr

structure Template where
  text : String
  pieces : List Piece
  deriving Repr

/-- Whether a character can stand in the name of a parameter. -/
def isNameChar (c : Char) : Bool := c.isAlphanum || c == '_'

/-- The name that a brace opens, and what follows the brace that closes it. -/
def openedName? (cs : List Char) : Option (String × List Char) :=
  let name := cs.takeWhile isNameChar
  match name, cs.dropWhile isNameChar with
  | first :: _, '}' :: rest => if first.isDigit then none else some (String.ofList name, rest)
  | _, _ => none

/-- Reads the pieces of a template; `fuel` bounds the steps. -/
def readPieces : Nat → List Char → List Piece
  | 0, _ => []
  | fuel + 1, cs =>
    match cs with
    | [] => []
    | c :: rest =>
      match if c = '{' then openedName? rest else none with
      | some (name, rest) => .parameter name :: readPieces fuel rest
      | none => .char c :: readPieces fuel rest

def Template.ofString (s : String) : Template :=
  ⟨s, readPieces (s.length + 1) s.toList⟩

/-- Values of parameters, as texts. -/
abbrev Captures := List (String × String)

mutual

def matchPieces : List Piece → List Char → Option Captures
  | [], cs => if cs.isEmpty ∨ cs = ['\n'] then some [] else none
  | .char c :: rest, cs =>
    match cs with
    | d :: more => if c = d then matchPieces rest more else none
    | [] => none
  | .parameter name :: rest, cs => matchParameter name rest [] cs
termination_by pieces cs => (pieces.length, cs.length + 1)

/-- Matches a parameter that has taken `taken` so far, the last character first:
with one character more if that works out, and otherwise as it is. -/
def matchParameter (name : String) (rest : List Piece) (taken : List Char) :
    List Char → Option Captures
  | [] =>
    if taken.isEmpty then none
    else (matchPieces rest []).map ((name, String.ofList taken.reverse) :: ·)
  | c :: cs =>
    let longer := if c = '/' then none else matchParameter name rest (c :: taken) cs
    match longer with
    | some captures => some captures
    | none =>
      if taken.isEmpty then none
      else (matchPieces rest (c :: cs)).map ((name, String.ofList taken.reverse) :: ·)
termination_by cs => (rest.length + 1, cs.length)

end

def Template.match? (t : Template) (path : String) : Option Captures :=
  matchPieces t.pieces path.toList

end Triage.Web
