import Triage.Cache.Settings
import Triage.Result

/-!
# The cache store

A store keeps values under keys until a moment comes or a tag is evicted. Every
operation here is one step: nothing happens to the store in between.
-/

namespace Triage

/-- What application code produces: a result, or any other value. -/
inductive Produced where
  | result (r : Result)
  | plain (v : Value)
  deriving Repr

def Produced.isFailure : Produced → Bool
  | .result r => r.isFailure
  | .plain _ => false

/-- How something came to fail: an error was raised, or the library had a trouble. -/
inductive Raised where
  | incident (i : Incident)
  | trouble (t : Trouble)
  deriving Repr

/-- A value with the moment from which it counts no more, and its tags. -/
structure CacheEntry where
  value : Produced
  expires : Int
  tags : List Text
  deriving Repr

/-- The entries of a cache, and the current moment. -/
structure Store where
  entries : List (Text × CacheEntry) := []
  now : Int := 0
  deriving Repr

namespace Store

/-- The entry of a key, whether it still counts or not. -/
def entry? (s : Store) (key : Text) : Option CacheEntry :=
  (s.entries.find? fun e => e.1 == key).map (·.2)

def isLive (s : Store) (e : CacheEntry) : Bool := s.now < e.expires

/-- The value under a key, if it still counts. -/
def live? (s : Store) (key : Text) : Option Produced :=
  match s.entry? key with
  | some e => if s.isLive e then some e.value else none
  | none => none

def remove (s : Store) (key : Text) : Store :=
  { s with entries := s.entries.filter (·.1 != key) }

def removeByTag (s : Store) (tag : Text) : Store :=
  { s with entries := s.entries.filter fun e => !e.2.tags.contains tag }

def advance (s : Store) (duration : Int) : Except Trouble Store :=
  match Moment.after s.now duration with
  | .ok now => .ok { s with now }
  | .error t => .error t

/-- Puts a value under a key, in place of what was there. -/
def set (s : Store) (key : Text) (value : Produced) (options : CacheOptions)
    (tags : List Text) : Except Trouble Store :=
  match Moment.after s.now options.lifetime with
  | .ok expires => .ok { s with entries := (key, ⟨value, expires, tags⟩) :: (s.remove key).entries }
  | .error t => .error t

/-- What comes of looking up a key or else producing its value. -/
structure Lookup where
  answer : Except Raised Produced
  store : Store
  produced : Bool

/-- The value under a key if it still counts; otherwise the value that `factory`
produces, which is put there. An entry that counts no more is dropped. -/
def getOrCreate (s : Store) (key : Text) (factory : Except Raised Produced)
    (options : CacheOptions) (tags : List Text) : Lookup :=
  match s.live? key with
  | some value => ⟨.ok value, s, false⟩
  | none =>
    let s := s.remove key
    match factory with
    | .error raised => ⟨.error raised, s, true⟩
    | .ok value =>
      match s.set key value options tags with
      | .ok s => ⟨.ok value, s, true⟩
      | .error t => ⟨.error (.trouble t), s, true⟩

end Store

end Triage
