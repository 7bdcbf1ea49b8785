import Triage.Cache.Run

/-!
# Several clients of a cache

Every call on the store is one step, but an operation of the service may make
several of them: a read that gives a failure puts it back in a call of its own, and
an eviction makes one call for each tag. Between two calls of one client, any
calls of others may come. A client that is done with its last call is idle; it
starts its next operation with that operation's first call.

Time is moved on by a client like any other. A client that is left alone with its
operation does what `Store.use` does.
-/

namespace Triage

/-- The calls on the store that a client has still to make. -/
inductive Pending where
  | stamp (q : Query) (value : Produced)
  | evict (tag : Text) (tags : List Text)

/-- The store that clients share, and what each of them has still to do. -/
structure Clients where
  store : Store := {}
  pending : Nat → Option Pending := fun _ => none

/-- A client starts an operation, or goes on with the one that it is in. -/
inductive Turn where
  | start (client : Nat) (u : CacheUse)
  | resume (client : Nat)

/-- What comes of a turn: the clients afterwards, an answer if the operation is
over, and whether a value had to be produced. -/
structure Turned where
  clients : Clients
  answer? : Option (Except Raised (Option Produced)) := none
  produced : Bool := false

namespace Clients

def leave (s : Clients) (client : Nat) (store : Store) (pending : Option Pending) : Clients where
  store := store
  pending other := if other = client then pending else s.pending other

def finish (s : Clients) (client : Nat) (store : Store) (answer : Except Raised (Option Produced))
    (produced : Bool) : Turned where
  clients := s.leave client store none
  answer? := some answer
  produced := produced

/-- Evicts the first of several tags. -/
def evict (s : Clients) (client : Nat) (tag : Text) : List Text → Turned
  | [] => s.finish client (s.store.removeByTag tag) (.ok none) false
  | next :: tags =>
    { clients := s.leave client (s.store.removeByTag tag) (some (.evict next tags)) }

/-- Looks up the value of a query or lets it be produced. The read is over unless the
value is one to be put back. -/
def look (s : Clients) (client : Nat) (q : Query) (factory : Except Raised Produced) : Turned :=
  let looked := s.store.lookup q factory
  match looked.answer with
  | .error raised => s.finish client looked.store (.error raised) looked.produced
  | .ok value =>
    match q.restampTime? value with
    | none => s.finish client looked.store (.ok (some value)) looked.produced
    | some _ =>
      { clients := s.leave client looked.store (some (.stamp q value))
        produced := looked.produced }

def commence (s : Clients) (client : Nat) : CacheUse → Turned
  | .read q factory => s.look client q factory
  | .remove key => s.finish client (s.store.remove key) (.ok none) false
  | .removeByTags [] => s.finish client s.store (.ok none) false
  | .removeByTags (tag :: tags) => s.evict client tag tags
  | .advance duration =>
    match s.store.advance duration with
    | .ok store => s.finish client store (.ok none) false
    | .error t => s.finish client s.store (.error (.trouble t)) false

def proceed (s : Clients) (client : Nat) : Pending → Turned
  | .stamp q value =>
    match s.store.stamp q value with
    | .ok store => s.finish client store (.ok (some value)) false
    | .error t => s.finish client s.store (.error (.trouble t)) false
  | .evict tag tags => s.evict client tag tags

/-- Makes one turn. A busy client starts nothing, and an idle one has nothing to go on
with. -/
def turn (s : Clients) : Turn → Turned
  | .start client u =>
    match s.pending client with
    | none => s.commence client u
    | some _ => { clients := s }
  | .resume client =>
    match s.pending client with
    | some p => s.proceed client p
    | none => { clients := s }

/-- What each of several turns comes to, made one after the other. -/
def run (s : Clients) : List Turn → List Turned
  | [] => []
  | t :: ts =>
    let turned := s.turn t
    turned :: turned.clients.run ts

def after (s : Clients) (ts : List Turn) : Clients := ts.foldl (fun s t => (s.turn t).clients) s

variable {s : Clients} {client : Nat}

theorem turn_start (h : s.pending client = none) (u : CacheUse) :
    s.turn (.start client u) = s.commence client u := by
  simp only [turn, h]

theorem turn_resume {p : Pending} (h : s.pending client = some p) :
    s.turn (.resume client) = s.proceed client p := by
  simp only [turn, h]

theorem pending_leave_self (s : Clients) (client : Nat) (store : Store) (p : Option Pending) :
    (s.leave client store p).pending client = p := if_pos rfl

theorem pending_leave_of_ne {other : Nat} (h : other ≠ client) (s : Clients) (store : Store)
    (p : Option Pending) : (s.leave client store p).pending other = s.pending other := if_neg h

theorem leave_leave (s : Clients) (client : Nat) (store store' : Store) (p p' : Option Pending) :
    (s.leave client store p).leave client store' p' = s.leave client store' p' := by
  unfold leave
  congr 1
  funext other
  by_cases h : other = client
  · rw [if_pos h, if_pos h]
  · rw [if_neg h, if_neg h]
    exact if_neg h

end Clients

end Triage
