import Triage.Cache.Store
import Triage.Event

/-!
# A cache that forgets failures sooner

The service reads a value or lets it be produced. A failure is put back with the
time that the settings give to failures, on every read and not only when it was
produced, with the tags of the read.
-/

namespace Triage

open Number

/-- A call that the service makes on the store. -/
inductive StoreCall where
  | getOrCreate (key : Text) (options : CacheOptions) (tags : Option (List Text))
  | set (key : Text) (options : CacheOptions) (tags : Option (List Text))
  | remove (key : Text)
  | removeByTag (tag : Text)
  deriving DecidableEq, Repr

/-- What comes of a service operation: an answer, the store afterwards, whether a
value had to be produced, the calls made on the store, and what has happened. -/
structure Served (α : Type) where
  answer : Except Raised α
  store : Store
  produced : Bool := false
  calls : List StoreCall := []
  events : List Event := []

/-- The same with another answer where there is one. -/
def Served.map {α β : Type} (f : α → β) (served : Served α) : Served β :=
  { served with answer := served.answer.map f }

/-- What a caller of the service wants. -/
structure Query where
  key : Text
  settings : CacheSettings
  tags : Option (List Text) := none

namespace Query

/-- The tags of a query; none are as good as an empty list. -/
def tagList (q : Query) : List Text := q.tags.getD []

/-- The time for which a value is put back after it was read, if it is. -/
def restampTime? (q : Query) (value : Produced) : Option Int :=
  if value.isFailure then q.settings.failureExpiration else none

end Query

def restampEvents (key : Text) (time : Int) (requestId : Option Text) : List Event := [
  .counted .cacheRestamp,
  .logged {
    level := .debug, logger := "faultline.cache", message := "cache_failure_restamped", requestId
    extra := [("cache_key", .text key), ("ttl_seconds", .float (Duration.inSeconds time))] }]

namespace Store

/-- Reads the value of a query, or lets `factory` produce it. -/
def serve (s : Store) (q : Query) (factory : Except Raised Produced)
    (requestId : Option Text) : Served Produced :=
  let looked := s.getOrCreate q.key factory q.settings.options q.tagList
  let call := StoreCall.getOrCreate q.key q.settings.options q.tags
  match looked.answer with
  | .error e => ⟨.error e, looked.store, looked.produced, [call], []⟩
  | .ok value =>
    match q.restampTime? value with
    | none => ⟨.ok value, looked.store, looked.produced, [call], []⟩
    | some time =>
      let calls := [call, StoreCall.set q.key q.settings.failureOptions q.tags]
      match looked.store.set q.key value q.settings.failureOptions q.tagList with
      | .ok s => ⟨.ok value, s, looked.produced, calls, restampEvents q.key time requestId⟩
      | .error t => ⟨.error (.trouble t), looked.store, looked.produced, calls, []⟩

/-! ## The two calls of a read -/

/-- The first call of a read: the value is looked up or else produced. -/
def lookup (s : Store) (q : Query) (factory : Except Raised Produced) : Lookup :=
  s.getOrCreate q.key factory q.settings.options q.tagList

/-- The second call of a read: a failure is put back with the time for failures, and
any other value is left alone. -/
def stamp (s : Store) (q : Query) (value : Produced) : Except Trouble Store :=
  match q.restampTime? value with
  | none => .ok s
  | some _ => s.set q.key value q.settings.failureOptions q.tagList

/-! ## Removing -/

def serveRemove (s : Store) (key : Text) : Served Unit :=
  { answer := .ok (), store := s.remove key, calls := [.remove key] }

/-- Evicts the entries of several tags, one tag after the other. -/
def serveRemoveByTags (s : Store) (tags : List Text) : Served Unit :=
  { answer := .ok (), store := tags.foldl removeByTag s, calls := tags.map .removeByTag }

end Store

end Triage
