import Triage.Cache.Duration

/-!
# Cache settings

How long values are kept: at large, near by, and, if they are failures, in both
places alike. No duration is zero or less.
-/

namespace Triage

/-- How long an entry is kept at large and near by. -/
structure CacheOptions where
  expiration : Int
  localExpiration : Int
  deriving DecidableEq, Repr

/-- How long an entry lives where both places are one: the shorter time. -/
def CacheOptions.lifetime (o : CacheOptions) : Int := min o.expiration o.localExpiration

structure CacheSettings where
  expiration : Int
  localExpiration : Int
  /-- How long failures are kept, if not like any other value. -/
  failureExpiration : Option Int := none
  expiration_pos : 0 < expiration := by omega
  localExpiration_pos : 0 < localExpiration := by omega
  failureExpiration_pos : ∀ f, failureExpiration = some f → 0 < f := by simp
  deriving DecidableEq

namespace CacheSettings

/-- Settings from durations, of which the first one that is not positive is named. -/
def ofDurations (expiration localExpiration : Int) (failureExpiration : Option Int) :
    Except Trouble CacheSettings :=
  if he : 0 < expiration then
    if hl : 0 < localExpiration then
      if hf : ∀ f, failureExpiration = some f → 0 < f then
        .ok ⟨expiration, localExpiration, failureExpiration, he, hl, hf⟩
      else .error (.notPositive "failure_expiration")
    else .error (.notPositive "local_expiration")
  else .error (.notPositive "expiration")

def optionalDuration : Option Seconds → Except Trouble (Option Int)
  | none => .ok none
  | some s =>
    match Duration.ofSeconds s with
    | .ok n => .ok (some n)
    | .error t => .error t

def ofSeconds (expiration localExpiration : Seconds) (failureExpiration : Option Seconds) :
    Except Trouble CacheSettings :=
  match Duration.ofSeconds expiration with
  | .error t => .error t
  | .ok expiration =>
    match Duration.ofSeconds localExpiration with
    | .error t => .error t
    | .ok localExpiration =>
      match optionalDuration failureExpiration with
      | .error t => .error t
      | .ok failureExpiration => ofDurations expiration localExpiration failureExpiration

/-- Settings from configured numbers of seconds, where zero seconds for failures
stand for none. -/
def ofConfigured (expiration localExpiration : Seconds) (failureExpiration : Option Seconds) :
    Except Trouble CacheSettings :=
  ofSeconds expiration localExpiration (failureExpiration.filter (!·.isZero))

def options (s : CacheSettings) : CacheOptions := ⟨s.expiration, s.localExpiration⟩

def failureOptions (s : CacheSettings) : CacheOptions :=
  match s.failureExpiration with
  | some f => ⟨f, f⟩
  | none => s.options

end CacheSettings

end Triage
