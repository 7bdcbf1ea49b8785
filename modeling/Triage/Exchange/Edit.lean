import Triage.Exchange

/-!
# Edits of a draft

The four ways of changing a response in the making, as data, so that a whole
sequence of them can be spoken of. An edit that fails leaves the draft as it was.
-/

namespace Triage

open Http

inductive Edit where
  | setStatus (status : Int)
  | appendHeader (name : String) (value : Text)
  | write (format : BodyFormat) (value : Value) (mediaType : String)
  | clear
  deriving Repr

namespace Draft

def edit (d : Draft) : Edit → Except Trouble Draft
  | .setStatus status => .ok (d.setStatus status)
  | .appendHeader name value => .ok (d.appendHeader name value)
  | .write format value mediaType => d.write format value mediaType
  | .clear => .ok d.clear

/-- Makes one change, or none if it fails. -/
def attempt (d : Draft) (e : Edit) : Draft :=
  match d.edit e with
  | .ok d => d
  | .error _ => d

def edits (d : Draft) (es : List Edit) : Draft := es.foldl attempt d

@[simp] theorem edits_nil (d : Draft) : d.edits [] = d := rfl

@[simp] theorem edits_cons (d : Draft) (e : Edit) (es : List Edit) :
    d.edits (e :: es) = (d.attempt e).edits es := rfl

theorem edits_append (d : Draft) (es fs : List Edit) :
    d.edits (es ++ fs) = (d.edits es).edits fs := List.foldl_append

end Draft

end Triage
