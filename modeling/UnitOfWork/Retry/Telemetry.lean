import UnitOfWork.Driver.Code
import UnitOfWork.Duration
import UnitOfWork.Log

/-!
# What a retry reports

An observer hears of every attempt that will be repeated, before the wait. The log hears of the same
and of the way a run ended. Terminal reports carry the delays of the whole run, summed up to the widest
span. A success at the first attempt is not worth a line.
-/

set_option autoImplicit false

namespace UnitOfWork.Retry

/-- A failed attempt that will be repeated after a delay. -/
structure Attempt (ε : Type) where
  number : Nat
  delay : Duration
  error : ε
  code : Option Driver.Code

/-- A line of the log of one run. -/
inductive Report (ε : Type) where
  | retrying (maxAttempts : Nat) (attempt : Attempt ε)
  | recovered (attempts : Nat) (totalDelay : Duration)
  | exhausted (maxAttempts : Nat) (totalDelay : Duration) (error : ε) (code : Option Driver.Code)
  | permanent (attempt : Nat) (error : ε) (code : Option Driver.Code)
  | cancelled (attempts : Nat) (totalDelay : Duration)

namespace Report

variable {ε : Type}

/-- The field of a native code. -/
def codeField (code : Option Driver.Code) : List (String × String) :=
  Log.optional "error_code" (code.map Driver.Code.text)

/-- The field of a total delay. -/
def totalField (total : Duration) : String × String :=
  ("total_delay_ms", toString total.loggedMillis)

/-- The log entry of a report, given the text of a failure. -/
def entry (text : ε → String) : Report ε → Log.Entry
  | .retrying maxAttempts attempt =>
    ⟨.debug, "Transient failure, retrying",
      [("attempt", toString attempt.number), ("max_attempts", toString maxAttempts),
        ("delay_ms", toString attempt.delay.loggedMillis)] ++ codeField attempt.code ++
        [("error", text attempt.error)]⟩
  | .recovered attempts total =>
    ⟨.info, "Operation recovered after retry",
      [("attempts", toString attempts), totalField total]⟩
  | .exhausted maxAttempts total error code =>
    ⟨.warn, "All retry attempts exhausted",
      [("max_attempts", toString maxAttempts), totalField total] ++ codeField code ++
        [("error", text error)]⟩
  | .permanent attempt error code =>
    ⟨.debug, "Permanent failure, not retrying",
      [("attempt", toString attempt)] ++ codeField code ++ [("error", text error)]⟩
  | .cancelled attempts total =>
    ⟨.warn, "Retry cancelled", [("attempts", toString attempts), totalField total]⟩

end Report

end UnitOfWork.Retry
