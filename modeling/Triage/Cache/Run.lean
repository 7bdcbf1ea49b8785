import Triage.Cache.Service

/-!
# Runs of a cache

Everything that is done with a cache, as data: reads with what their factory
would produce, removals, evictions, and the passing of time.
-/

namespace Triage

inductive CacheUse where
  | read (q : Query) (factory : Except Raised Produced)
  | remove (key : Text)
  | removeByTags (tags : List Text)
  | advance (duration : Int)

namespace Store

/-- Makes one use of a cache. -/
def use (s : Store) (requestId : Option Text) : CacheUse → Served (Option Produced)
  | .read q factory => (s.serve q factory requestId).map some
  | .remove key => (s.serveRemove key).map fun _ => none
  | .removeByTags tags => (s.serveRemoveByTags tags).map fun _ => none
  | .advance duration =>
    match s.advance duration with
    | .ok s => { answer := .ok none, store := s }
    | .error t => { answer := .error (.trouble t), store := s }

/-- What each of several uses comes to, made one after the other. -/
def run (s : Store) (requestId : Option Text) : List CacheUse → List (Served (Option Produced))
  | [] => []
  | u :: us =>
    let served := s.use requestId u
    served :: served.store.run requestId us

def after (s : Store) (requestId : Option Text) (us : List CacheUse) : Store :=
  us.foldl (fun s u => (s.use requestId u).store) s

theorem run_append (s : Store) (requestId : Option Text) (us vs : List CacheUse) :
    s.run requestId (us ++ vs) =
      s.run requestId us ++ (s.after requestId us).run requestId vs := by
  induction us generalizing s with
  | nil => rfl
  | cons u us ih => exact congrArg _ (ih _)

theorem after_append (s : Store) (requestId : Option Text) (us vs : List CacheUse) :
    s.after requestId (us ++ vs) = (s.after requestId us).after requestId vs := List.foldl_append

/-- What a use at a place of a run comes to: it is made after the uses before it. -/
theorem getElem?_run (s : Store) (requestId : Option Text) (us : List CacheUse) (n : Nat) :
    (s.run requestId us)[n]? = us[n]?.map ((s.after requestId (us.take n)).use requestId) := by
  induction us generalizing s n with
  | nil => rfl
  | cons u us ih =>
      cases n with
      | zero => rfl
      | succ n => exact ih _ n

theorem getLast?_run (s : Store) (requestId : Option Text) (us : List CacheUse) (u : CacheUse) :
    (s.run requestId (us ++ [u])).getLast? = some ((s.after requestId us).use requestId u) := by
  rw [run_append]
  exact List.getLast?_concat

end Store

end Triage
