import Triage.Web.Endpoint

/-!
# Plain answers to errors

What is answered where nothing better is set up, or where a problem was
declined: the detail of an HTTP error, the entries of a request that does not
fit, and a bare line of text for everything else.
-/

namespace Triage.Web.Fallback

open Http

/-- The name of the only field of a plain answer. -/
def detailName : String := "detail"

def httpResponse (status : Int) (detail : Value) (headers : List (String × Text)) :
    Except Trouble Response :=
  if allowsBody status then Response.json status headers (.object [(detailName, detail)])
  else Response.makeWith status headers "" none

def entriesResponse (entries : List Value) : Except Trouble Response :=
  Response.json 422 [] (.object [(detailName, (Value.list entries).published)])

/-- The answer to an error, if it is of a sort that has one. -/
def response? (e : Error) : Option (Except Trouble Response) :=
  match e.form with
  | .http _ status detail headers => some (httpResponse status detail (headers.getD []))
  | .requestValidation entries _ => some (entriesResponse entries)
  | _ => none

/-- The text of the answer to any other error. -/
def bareText : String := "Internal Server Error"

/-- Sends the bare answer for an error that escapes before a response was
started. The error escapes all the same. -/
def send (run : Run) : Run :=
  match run.raised with
  | some raised =>
    if raised.error.isOrdinary && !run.isStarted then
      match Response.make 500 bareText (some "text/plain") with
      | .ok r => { run with messages := run.messages ++ r.messages }
      | .error _ => run
    else run
  | none => run

end Triage.Web.Fallback
