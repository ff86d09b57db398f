import UnitOfWork.Retry.Options
import UnitOfWork.Scope.Record

/-!
# Settings

Settings are what an operator writes down: how to retry and what a unit of work asks for. Every setting
has a default. Settings are free data; whether the retry part can be used is found out by building its
options, and every source of settings does that before it hands them on.
-/

set_option autoImplicit false

namespace UnitOfWork

/-- How to retry. The number of attempts is a 32-bit word. -/
structure RetrySettings where
  maxAttempts : UInt32 := UInt32.ofNat Retry.defaultAttempts
  baseDelay : Duration := Retry.defaultBaseDelay
  maxDelay : Duration := Retry.defaultMaxDelay
  /-- Stretch every delay by a random factor. -/
  jitter : Bool := true
deriving DecidableEq, Repr

namespace RetrySettings

/-- The draft of options, given the draws of a random jitter. -/
def draft (s : RetrySettings) (draw : Nat → Binary64) : Retry.Draft where
  maxAttempts := s.maxAttempts.toNat
  baseDelay := s.baseDelay
  maxDelay := s.maxDelay
  jitter := if s.jitter then .random draw else .none

/-- The options, or the first thing wrong with the settings. -/
def options (s : RetrySettings) (draw : Nat → Binary64) : Except Refusal Retry.Options :=
  (s.draft draw).build

/-- What is wrong with the settings, if anything. The draws of a jitter are never at fault. -/
def check (s : RetrySettings) : Except Refusal Unit :=
  (s.options fun _ => Binary64.zero).map fun _ => ()

end RetrySettings

/-- Everything an operator writes down. -/
structure Settings where
  retry : RetrySettings := {}
  scope : ScopeOptions := {}
deriving DecidableEq, Repr

namespace Settings

/-- Hand on settings whose retry part can be used. -/
def checked (s : Settings) : Except Refusal Settings := s.retry.check.map fun () => s

end Settings

end UnitOfWork
