import UnitOfWork.Participant.Adapter
import UnitOfWork.Scope.Suspending

/-!
# Scripted connections

A stage holds connections that do what a script tells them and write what they did into one journal. A
scripted failure happens once, before the call leaves a trace. Suspending connections know two ways to
wait: a commit may take a number of ticks of a virtual clock, and a rollback always gives way once
before it acts.

A call that races a token is interrupted when it has to wait while the token has fired or is due
before the wait ends. A call that gets through without waiting counts as finished, even if the token
fired meanwhile. Hooks fire the token at chosen points of a call.
-/

set_option autoImplicit false

namespace UnitOfWork.Rehearsal

/-- A line of the journal. -/
inductive Event where
  | began (name : String) (isolation : IsolationLevel)
  | joined (name ambient : String)
  | committed (name : String)
  | rolledBack (name : String)
  | released (name : String)
deriving DecidableEq, Repr

/-- A call that can be scripted to fail. -/
inductive Call where
  | begin
  | join
  | commit
  | rollback
deriving DecidableEq, Repr

/-- What a hook does around one call under a token. -/
inductive Hook where
  /-- Fire the token and never return. -/
  | hang
  /-- Act, fire the token and never return. -/
  | actThenHang
  /-- Fire the token, then act. -/
  | fireThenAct
  /-- Act, fire the token and return. -/
  | actThenFire
deriving DecidableEq, Repr

/-- A connection and its script. -/
structure Connection where
  name : String
  failures : Call → Option ParticipantError := fun _ => none
  /-- Ticks a commit takes under the suspending discipline. -/
  commitTicks : Nat := 0
  commitHooks : List Hook := []
  rollbackHooks : List Hook := []

/-- The token of the step under way. -/
structure Token where
  fired : Bool := false
  /-- The tick of the clock at which it fires by itself. -/
  due : Option Nat := none
deriving DecidableEq, Repr

/-- The connections, the journal, the clock and the token of the step under way. -/
structure Stage where
  connections : List Connection
  journal : List Event := []
  clock : Nat := 0
  token : Token := {}

/-- Computations on a stage. -/
abbrev StageM := StateT Stage LogM

namespace Stage

/-- A stage for named connections without a script. -/
def ofNames (names : List String) : Stage := { connections := names.map fun name => { name } }

def name (stage : Stage) (c : Nat) : String :=
  ((stage.connections[c]?).map Connection.name).getD ""

/-- Change the script of a connection. -/
def script (stage : Stage) (c : Nat) (change : Connection → Connection) : Stage :=
  { stage with connections := stage.connections.modify c change }

/-- Let the next call of a kind fail. A later failure takes the place of an unused one. -/
def failNext (stage : Stage) (c : Nat) (call : Call) (error : Option ParticipantError) : Stage :=
  stage.script c fun conn =>
    { conn with failures := fun k => if k = call then error else conn.failures k }

def write (stage : Stage) (event : Event) : Stage :=
  { stage with journal := stage.journal ++ [event] }

/-- The scripted failure of a call, which is then used up. -/
def takeFailure (stage : Stage) (c : Nat) (call : Call) : Option ParticipantError × Stage :=
  match (stage.connections[c]?).bind fun conn => conn.failures call with
  | some error => (some error, stage.failNext c call none)
  | none => (none, stage)

/-- Fail as scripted, or act. -/
def perform (stage : Stage) (c : Nat) (call : Call) (event : String → Event) :
    Except ParticipantError Unit × Stage :=
  match stage.takeFailure c call with
  | (some error, stage) => (.error error, stage)
  | (none, stage) => (.ok (), stage.write (event (stage.name c)))

/-- Join an ambient transaction; a finished one cannot be joined. -/
def join (stage : Stage) (c : Nat) (found : Ambient) : Except ParticipantError Unit × Stage :=
  match stage.takeFailure c .join with
  | (some error, stage) => (.error error, stage)
  | (none, stage) =>
    if found.isActive then (.ok (), stage.write (.joined (stage.name c) found.id))
    else (.error (.noActiveTransaction .begin), stage)

def fireToken (stage : Stage) : Stage := { stage with token := { stage.token with fired := true } }

/-- Wait until a tick; whether the token interrupted the wait. -/
def waitUntil (stage : Stage) (tick : Nat) : Bool × Stage :=
  if stage.token.fired then (true, stage)
  else match stage.token.due with
    | some due =>
      if due ≤ stage.clock || due < tick then
        (true, { stage with clock := max stage.clock due }.fireToken)
      else (false, { stage with clock := tick })
    | none => (false, { stage with clock := tick })

/-- Wait for the time a commit takes, if it takes any. -/
def waitToCommit (stage : Stage) (c : Nat) : Bool × Stage :=
  match ((stage.connections[c]?).map Connection.commitTicks).getD 0 with
  | 0 => (false, stage)
  | ticks => stage.waitUntil (stage.clock + ticks)

/-- Give way once, without time passing. -/
def giveWay (stage : Stage) : Bool × Stage := stage.waitUntil stage.clock

/-- The next hook of a commit, which is then used up. -/
def takeCommitHook (stage : Stage) (c : Nat) : Option Hook × Stage :=
  (((stage.connections[c]?).bind fun conn => conn.commitHooks.head?),
    stage.script c fun conn => { conn with commitHooks := conn.commitHooks.tail })

/-- The next hook of a rollback, which is then used up. -/
def takeRollbackHook (stage : Stage) (c : Nat) : Option Hook × Stage :=
  (((stage.connections[c]?).bind fun conn => conn.rollbackHooks.head?),
    stage.script c fun conn => { conn with rollbackHooks := conn.rollbackHooks.tail })

/-- A call under the token: wait, act, with a hook around it. -/
def race (stage : Stage) (hook : Option Hook) (wait : Stage → Bool × Stage)
    (act : Stage → Except ParticipantError Unit × Stage) :
    Scope.Race (Except ParticipantError Unit) × Stage :=
  if hook = some .hang then (.interrupted, stage.fireToken)
  else
    let stage := if hook = some .fireThenAct then stage.fireToken else stage
    match wait stage with
    | (true, stage) => (.interrupted, stage)
    | (false, stage) =>
      let (outcome, stage) := act stage
      if hook = some .actThenHang then (.interrupted, stage.fireToken)
      else if hook = some .actThenFire then (.finished outcome, stage.fireToken)
      else (.finished outcome, stage)

def commit (stage : Stage) (c : Nat) : Except ParticipantError Unit × Stage :=
  stage.perform c .commit .committed

def rollback (stage : Stage) (c : Nat) : Except ParticipantError Unit × Stage :=
  stage.perform c .rollback .rolledBack

def release (stage : Stage) (c : Nat) : Stage := stage.write (.released (stage.name c))

/-- A commit without a token, with the time it takes. -/
def commitInTime (stage : Stage) (c : Nat) : Except ParticipantError Unit × Stage :=
  let ticks := ((stage.connections[c]?).map Connection.commitTicks).getD 0
  { stage with clock := stage.clock + ticks }.commit c

def commitRacing (stage : Stage) (c : Nat) :
    Scope.Race (Except ParticipantError Unit) × Stage :=
  let (hook, stage) := stage.takeCommitHook c
  stage.race hook (·.waitToCommit c) (·.commit c)

def rollbackRacing (stage : Stage) (c : Nat) :
    Scope.Race (Except ParticipantError Unit) × Stage :=
  let (hook, stage) := stage.takeRollbackHook c
  stage.race hook giveWay (·.rollback c)

/-- Begin a transaction of a connection's own; the connection is its own handle. -/
def begin (stage : Stage) (c : Nat) (isolation : IsolationLevel) :
    Except ParticipantError Nat × Stage :=
  match stage.perform c .begin (Event.began · isolation) with
  | (.ok (), stage) => (.ok c, stage)
  | (.error error, stage) => (.error error, stage)

/-- The adapter of a connection. -/
def adapter (stage : Stage) (c : Nat) : Adapter StageM Nat where
  name := stage.name c
  beginOwn isolation := modifyGet (·.begin c isolation)
  joinAmbient found := modifyGet (·.join c found)

/-- The host of a scope over blocking connections. -/
def blockingHost : Scope.Host StageM Nat where
  commit c := modifyGet (·.commit c)
  rollback c := modifyGet (·.rollback c)
  release c := modify (·.release c)
  log entry := Log.record entry

/-- The host of a scope over suspending connections, without a token. -/
def suspendingHost : Scope.Host StageM Nat where
  commit c := modifyGet (·.commitInTime c)
  rollback c := modifyGet (·.rollback c)
  release c := modify (·.release c)
  log entry := Log.record entry

/-- The host of a scope over suspending connections, under the token of the step. -/
def racingHost : Scope.RacingHost StageM Nat where
  toHost := suspendingHost
  isCancelled := return (← get).token.fired
  commitRacing c := modifyGet (·.commitRacing c)
  rollbackRacing c := modifyGet (·.rollbackRacing c)

end Stage

end UnitOfWork.Rehearsal
