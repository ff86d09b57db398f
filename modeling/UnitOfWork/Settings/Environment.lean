import UnitOfWork.Settings.Basic
import UnitOfWork.Text.Numeral

/-!
# Settings from the environment

The environment gives settings when it names the number of attempts; every other variable has a
default. A variable whose bytes are no text counts as unset. The first variable that cannot be read, in
the order of the settings, is the one reported; the bounds on the retry part are checked last. A
boolean is never at fault: what is not a word for true is false.
-/

set_option autoImplicit false

namespace UnitOfWork

/-- The variables of a process. -/
abbrev Environment := String → Option String

namespace Environment

def attemptsVariable : String := "POLYTX_RETRY_MAX_ATTEMPTS"

def baseDelayVariable : String := "POLYTX_RETRY_BASE_DELAY_MS"

def maxDelayVariable : String := "POLYTX_RETRY_MAX_DELAY_MS"

def jitterVariable : String := "POLYTX_RETRY_JITTER"

def isolationVariable : String := "POLYTX_ISOLATION_LEVEL"

def preferAmbientVariable : String := "POLYTX_PREFER_AMBIENT"

/-- The words for true, in small letters. -/
def trueWords : List String := ["1", "true", "yes", "on"]

/-- Whether a text is a word for true, blanks around it and ASCII case aside. -/
def isTrue (text : String) : Bool :=
  trueWords.contains (String.ofList (Text.lower (Text.trim text.toList)))

/-- A variable that must be set. -/
def required (env : Environment) (name : String) : Except Refusal String :=
  match env name with
  | some text => .ok text
  | none => .error (.config s!"Missing required environment variable: {name}" none)

/-- The number of attempts, without blanks around it. -/
def attempts (text : String) : Except Refusal UInt32 :=
  match Text.numeral Text.limit32 text.toList with
  | .ok n => .ok (UInt32.ofNat n)
  | .error fault => .error (.config s!"invalid value: {fault.message}" (some "max_attempts"))

/-- A span of time in milliseconds, blanks around it allowed. -/
def span (env : Environment) (name field : String) (default : Duration) :
    Except Refusal Duration :=
  match env name with
  | none => .ok default
  | some text =>
    match Text.numeral Text.limit64 (Text.trim text.toList) with
    | .ok n => .ok (Duration.ofMillis n)
    | .error fault => .error (.config s!"invalid milliseconds: {fault.message}" (some field))

def boolean (env : Environment) (name : String) (default : Bool) : Bool :=
  ((env name).map isTrue).getD default

def isolation (env : Environment) (default : IsolationLevel) : Except Refusal IsolationLevel :=
  match env isolationVariable with
  | none => .ok default
  | some text =>
    (IsolationLevel.parse text).mapError fun e => .config e.message (some "isolation")

/-- The settings that the environment gives. -/
def settings (env : Environment) : Except Refusal Settings := do
  let default : Settings := {}
  let maxAttempts ← attempts (← env.required attemptsVariable)
  let baseDelay ← env.span baseDelayVariable "base_delay" default.retry.baseDelay
  let maxDelay ← env.span maxDelayVariable "max_delay" default.retry.maxDelay
  let jitter := env.boolean jitterVariable default.retry.jitter
  let isolation ← env.isolation default.scope.isolation
  let preferAmbient := env.boolean preferAmbientVariable default.scope.preferAmbient
  Settings.checked
    { retry := { maxAttempts, baseDelay, maxDelay, jitter }, scope := { isolation, preferAmbient } }

end Environment

end UnitOfWork
