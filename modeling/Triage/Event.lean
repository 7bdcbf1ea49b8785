import Triage.Kind
import Triage.Error.Text

/-!
# What operations leave behind

Besides their answer, operations count, log and trigger authentication. These
traces are events, in the order in which they happen.
-/

namespace Triage

open Number

/-- How grave a log record is. -/
inductive LogLevel where
  | debug
  | info
  | warning
  | error
  deriving DecidableEq, Repr

namespace LogLevel

def name : LogLevel → String
  | .debug => "DEBUG"
  | .info => "INFO"
  | .warning => "WARNING"
  | .error => "ERROR"

end LogLevel

/-- A record sent to a logger. -/
structure LogEntry where
  level : LogLevel
  logger : String
  message : String
  requestId : Option Text := none
  error : Option Error := none
  extra : List (Text × Value) := []
  deriving Repr

/-- What is done to a caller instead of showing a problem. -/
inductive Action where
  | challenge
  | forbid
  deriving DecidableEq, Repr

namespace Action

def label : Action → String
  | .challenge => "challenge"
  | .forbid => "forbid"

/-- The status that goes with an action. -/
def status : Action → Int
  | .challenge => 401
  | .forbid => 403

end Action

/-- Why an error is left alone. -/
inductive BypassReason where
  | cancelled
  | notAcceptable
  | formatMissing
  deriving DecidableEq, Repr

namespace BypassReason

def label : BypassReason → String
  | .cancelled => "cancelled"
  | .notAcceptable => "not_acceptable"
  | .formatMissing => "json_options_missing"

end BypassReason

/-- A counter, one for each choice of labels. -/
inductive Metric where
  | problem (kind : Kind) (status : Int)
  | resultFailure (kind : Kind) (status : Int)
  | handshake (action : Action)
  | bypass (reason : BypassReason)
  | cacheRestamp
  deriving DecidableEq, Repr

/-- The name of a counter with its labels. -/
def Metric.sample : Metric → String
  | .problem kind status => labelled "problem_responses_total" [("kind", kind.label),
      ("status", decimalText status)]
  | .resultFailure kind status => labelled "result_failures_total" [("kind", kind.label),
      ("status", decimalText status)]
  | .handshake action => labelled "auth_handshake_total" [("action", action.label)]
  | .bypass reason => labelled "failure_bypass_total" [("reason", reason.label)]
  | .cacheRestamp => labelled "cache_failure_restamp_total" []
where
  /-- A name with its labels in braces. -/
  labelled (name : String) (labels : List (String × String)) : String :=
    name ++ "\x7b" ++ ",".intercalate (labels.map fun l => l.1 ++ "=" ++ l.2) ++ "\x7d"

inductive Event where
  | logged (entry : LogEntry)
  | counted (metric : Metric)
  | triggered (action : Action) (scheme : Option Text)
  deriving Repr

namespace Event

def logs (events : List Event) : List LogEntry :=
  events.filterMap fun e => match e with | .logged entry => some entry | _ => none

def counts (events : List Event) : List Metric :=
  events.filterMap fun e => match e with | .counted metric => some metric | _ => none

def triggers (events : List Event) : List (Action × Option Text) :=
  events.filterMap fun e =>
    match e with
    | .triggered action scheme => some (action, scheme)
    | _ => none

end Event

end Triage
