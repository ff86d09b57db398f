import UnitOfWork.Participant.Adapter
import UnitOfWork.Proofs.Scope.Uncancelled

/-!
# A scope watched from outside

The laws of a scope speak of the calls it makes on adapters and handles. Here the drivers and the token
only answer, and every call is written down in order with how it ended. `Watched` is the monad of such
computations; the hosts and adapters below run the scope in it unchanged.

A transaction goes by its number in the order of the begins that succeeded, which is also the handle
that its adapter hands out. Within one operation of a scope every participant is committed at most once
and rolled back at most once, so an answer for each number is every way the drivers can answer. A token
may depend on all calls made before it is looked at or before the call it interrupts.

The log is not watched.
-/

set_option autoImplicit false

namespace UnitOfWork.Scope

/-- A call of a scope, with how it ended. -/
inductive Call where
  | begin (name : String) (isolation : IsolationLevel) (outcome : Except ParticipantError Unit)
  | join (name ambient : String) (outcome : Except ParticipantError Unit)
  | commit (transaction : Nat) (ended : Race (Except ParticipantError Unit))
  | rollback (transaction : Nat) (ended : Race (Except ParticipantError Unit))
  | release (transaction : Nat)

namespace Call

/-- The place of a call in the life of a scope: taking part, committing, rolling back, releasing. -/
def rank : Call → Nat
  | .begin .. => 0
  | .join .. => 0
  | .commit .. => 1
  | .rollback .. => 2
  | .release _ => 3

/-- Whether a call began a transaction. -/
def isBegun : Call → Bool
  | .begin _ _ (.ok ()) => true
  | _ => false

/-- The transaction of a commit call, however it ended. -/
def committing? : Call → Option Nat
  | .commit i _ => some i
  | _ => none

/-- The transaction of a rollback call, however it ended. -/
def rollingBack? : Call → Option Nat
  | .rollback i _ => some i
  | _ => none

/-- The transaction of a release. -/
def releasing? : Call → Option Nat
  | .release i => some i
  | _ => none

end Call

/-- How many transactions were begun. -/
def begun (calls : List Call) : Nat := calls.countP Call.isBegun

/-- The transactions whose commits were called, in the order of the calls. -/
def commits (calls : List Call) : List Nat := calls.filterMap Call.committing?

/-- The transactions whose rollbacks were called, in the order of the calls. -/
def rollbacks (calls : List Call) : List Nat := calls.filterMap Call.rollingBack?

/-- The transactions released, in the order of the calls. -/
def releases (calls : List Call) : List Nat := calls.filterMap Call.releasing?

/-- Computations whose calls are written down. -/
abbrev Watched := StateM (List Call)

section Run

variable {α β : Type} (calls : List Call)

theorem run_pure (a : α) : (pure a : Watched α).run calls = (a, calls) := rfl

/-- What comes second is called after what comes first. -/
theorem run_bind (x : Watched α) (f : α → Watched β) :
    (x >>= f).run calls = (f (x.run calls).1).run (x.run calls).2 := rfl

end Run

/-- Write a call down, and answer it. -/
def answered {α : Type} (call : Call) (answer : α) : Watched α := do
  modify (· ++ [call])
  pure answer

theorem run_answered {α : Type} (call : Call) (answer : α) (calls : List Call) :
    (answered call answer).run calls = (answer, calls ++ [call]) := rfl

/-- What the drivers answer to the commits and rollbacks of one operation, by transaction. -/
structure Answers where
  commit : Nat → Except ParticipantError Unit := fun _ => .ok ()
  rollback : Nat → Except ParticipantError Unit := fun _ => .ok ()

/-- The commits of these transactions. -/
def commitsOf (answers : Answers) (transactions : List Nat) : List Call :=
  transactions.map fun i => .commit i (.finished (answers.commit i))

/-- The rollbacks of these transactions. -/
def rollbacksOf (answers : Answers) (transactions : List Nat) : List Call :=
  transactions.map fun i => .rollback i (.finished (answers.rollback i))

/-- A cancellation token, as an operation meets it. -/
structure Token where
  /-- Whether it has fired when it is looked at after these calls. -/
  seen : List Call → Bool
  /-- Whether it fires while the call after these waits. -/
  interrupts : List Call → Bool

/-- The token that never fires. -/
def Token.never : Token := ⟨fun _ => false, fun _ => false⟩

namespace Answers

/-- The host of a watched scope. -/
def host (answers : Answers) : Host Watched Nat where
  commit i := answered (.commit i (.finished (answers.commit i))) (answers.commit i)
  rollback i := answered (.rollback i (.finished (answers.rollback i))) (answers.rollback i)
  release i := answered (.release i) ()
  log _ := pure ()

/-- How a call ends that races a token, after these calls. -/
def race (token : Token) (calls : List Call) (outcome : Except ParticipantError Unit) :
    Race (Except ParticipantError Unit) :=
  if token.interrupts calls then .interrupted else .finished outcome

/-- The host of a watched scope under a token. -/
def under (answers : Answers) (token : Token) : RacingHost Watched Nat where
  toHost := answers.host
  isCancelled := fun calls => (token.seen calls, calls)
  commitRacing i := do
    let ended := race token (← get) (answers.commit i)
    answered (.commit i ended) ended
  rollbackRacing i := do
    let ended := race token (← get) (answers.rollback i)
    answered (.rollback i ended) ended

/-- The host of an operation that is given a token, or none. -/
def racing (answers : Answers) : Option Token → RacingHost Watched Nat
  | none => answers.host.uncancelled
  | some token => answers.under token

section Run

variable (answers : Answers) (token : Token) (calls : List Call)

/-- Lines of the log are not written down. -/
theorem run_note (s : Scope Nat) (notice : Notice) :
    (answers.host.note s notice).run calls = ((), calls) := rfl

/-- A rollback is answered, and written down with its answer. -/
theorem run_rollback (i : Nat) : (answers.host.rollback i).run calls =
    (answers.rollback i, calls ++ [.rollback i (.finished (answers.rollback i))]) := rfl

/-- A release is written down. -/
theorem run_release (i : Nat) :
    (answers.host.release i).run calls = ((), calls ++ [.release i]) := rfl

theorem toHost_under : (answers.under token).toHost = answers.host := rfl

/-- Looking at the token is no call. -/
theorem run_isCancelled :
    (answers.under token).isCancelled.run calls = (token.seen calls, calls) := rfl

/-- A commit under a token ends by its answer or by the token, and is written down as it ended. -/
theorem run_commitRacing (i : Nat) : ((answers.under token).commitRacing i).run calls =
    (race token calls (answers.commit i),
      calls ++ [.commit i (race token calls (answers.commit i))]) := rfl

/-- So does a rollback. -/
theorem run_rollbackRacing (i : Nat) : ((answers.under token).rollbackRacing i).run calls =
    (race token calls (answers.rollback i),
      calls ++ [.rollback i (race token calls (answers.rollback i))]) := rfl

end Run

end Answers

/-- A connection that asks to take part, and what its driver answers. -/
structure Applicant where
  name : String
  begin : Except ParticipantError Unit := .ok ()
  join : Except ParticipantError Unit := .ok ()

/-- The adapter of an applicant: its handle is the number of the transaction. -/
def Applicant.adapter (applicant : Applicant) : Adapter Watched Nat where
  name := applicant.name
  beginOwn isolation := do
    let number := begun (← get)
    answered (.begin applicant.name isolation applicant.begin)
      (applicant.begin.map fun () => number)
  joinAmbient found := answered (.join applicant.name found.id applicant.join) applicant.join

end UnitOfWork.Scope
