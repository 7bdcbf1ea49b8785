import Triage.Handler
import Triage.Web.Message

/-!
# Guarding an application

A guard stands before an application and lets its messages through. While it does,
it keeps in mind whether one of them has started a response. An error that escapes
before that is handled: the response so drafted is sent in place of the error. An
error that is not handled escapes unchanged.
-/

namespace Triage

/-- What a guard knows while the application runs: the messages that it has let
through, and whether one of them has started a response. -/
structure Relay where
  messages : List Message := []
  isStarted : Bool := false
  deriving DecidableEq, Repr

namespace Relay

def pass (r : Relay) (m : Message) : Relay where
  messages := r.messages ++ [m]
  isStarted := r.isStarted || m.isStart

def passAll (r : Relay) (ms : List Message) : Relay := ms.foldl pass r

end Relay

structure Guarded where
  run : Run
  exchange : Exchange
  events : List Event := []

namespace Guard

/-- Nothing more to do: what was raised, if anything was, escapes. -/
def letGo (relay : Relay) (raised : Option Raised) (x : Exchange) : Guarded :=
  ⟨⟨relay.messages, raised⟩, x, []⟩

/-- Whether an error that escapes from a run is for the guard to handle. -/
def concerns (relay : Relay) (i : Incident) : Bool := i.error.isOrdinary && !relay.isStarted

/-- Sends what was drafted, after what was let through already. -/
def send (relay : Relay) (draft : Draft) : Run :=
  match draft.render with
  | .ok response => ⟨relay.messages ++ response.messages, none⟩
  | .error t => ⟨relay.messages, some (.trouble t)⟩

/-- Handles an error that has escaped from a run; one that is left alone escapes as
what was raised. -/
def handle (h : Handler) (relay : Relay) (raised : Raised) (i : Incident) (x : Exchange) :
    Guarded :=
  let handled := h.handle i x
  match handled.outcome with
  | .error t => ⟨⟨relay.messages, some (.trouble t)⟩, handled.exchange, handled.events⟩
  | .ok .bypass => ⟨⟨relay.messages, some raised⟩, handled.exchange, handled.events⟩
  | .ok _ => ⟨send relay handled.exchange.draft, handled.exchange, handled.events⟩

/-- Deals with what comes after the last message of a run. -/
def settle (handler : Option Handler) (number : Nat) (relay : Relay) (raised : Option Raised)
    (x : Exchange) : Guarded :=
  match raised, handler with
  | some raised, some h =>
    let i := raised.asIncident number
    if concerns relay i then handle h relay raised i x else letGo relay raised x
  | raised, _ => letGo relay raised x

/-- Guards a run. `handler` is missing where nothing is set up or the request is
no HTTP request; `number` is the number of an incident that a trouble becomes. -/
def guard (handler : Option Handler) (number : Nat) (run : Run) (x : Exchange) : Guarded :=
  settle handler number (({} : Relay).passAll run.messages) run.raised x

end Guard

end Triage
