import UnitOfWork.Rehearsal.Stage

/-!
# Sessions over scripted connections

A session is any number of scopes and ambient transactions over the connections of one stage, driven by
commands. Scopes, ambient transactions and handles are numbered in the order of their creation. Two
numbers may stand for the same ambient transaction: a copied holder names the transaction it was copied
from, and identities count holders. When a session ends, the scopes that are left are dropped in order.

A command that names something the session does not have is answered by nothing.
-/

set_option autoImplicit false

namespace UnitOfWork.Rehearsal

/-- How a completion or a disposal may be cancelled. -/
inductive Cancellation where
  /-- The token has fired already. -/
  | before
  /-- Only hooks fire the token. -/
  | byHooks
  /-- The token fires a number of ticks from now. -/
  | afterTicks (n : Nat)
deriving DecidableEq, Repr

/-- A call on a handle. -/
inductive HandleCall where
  | commit
  | rollback
  | release
deriving DecidableEq, Repr

/-- A command to a session. -/
inductive Command where
  | new (isolation : Option IsolationLevel) (preferAmbient : Option Bool)
  | beginAmbient (isolation : IsolationLevel)
  | copyAmbient (holder : Nat)
  | sameAmbient (holder other : Nat)
  | finishAmbient (holder : Nat) (ending : AmbientEnding)
  | failNext (connection : Nat) (call : Call) (error : ParticipantError)
  | slowCommits (connection ticks : Nat)
  | hookCommit (connection : Nat) (hook : Hook)
  | hookRollback (connection : Nat) (hook : Hook)
  | enlist (scope connection : Nat) (holder : Option Nat)
  | begin (connection : Nat) (isolation : IsolationLevel)
  | join (connection holder : Nat)
  | handle (handle : Nat) (call : HandleCall)
  | complete (scope : Nat) (cancellation : Option Cancellation)
  | dispose (scope : Nat) (cancellation : Option Cancellation)
  | drop (scope : Nat)
  | clearJournal
  | show (scope : Nat)

/-- The answer to a command. -/
inductive Answer where
  | done
  | options (options : ScopeOptions)
  | equal (same : Bool)
  | shown (text : String)
  /-- The number of the new handle, if there is one. -/
  | enlisted (outcome : Except TransactionError (Option Nat))
  | began (outcome : Except ParticipantError Nat)
  | participant (outcome : Except ParticipantError Unit)
  | transaction (outcome : Except TransactionError Unit)

/-- The state of a session. -/
structure Session where
  suspending : Bool
  stage : Stage
  /-- The scopes, a dropped one being gone. -/
  scopes : List (Option (Scope Nat)) := []
  ambients : Ambients := []
  /-- Which ambient transaction each holder names. -/
  holders : List AmbientRef := []
  /-- Which connection each handle belongs to. -/
  handles : List Nat := []

/-- Computations in a session. -/
abbrev SessionM := StateT Session LogM

namespace Session

def start (suspending : Bool) (names : List String) : Session :=
  { suspending, stage := Stage.ofNames names }

/-- A computation on the stage of a session. -/
def onStage {α : Type} (run : StageM α) : SessionM α := do
  let session ← get
  let (result, stage) ← (run.run session.stage : LogM _)
  set { session with stage }
  pure result

def scope? (session : Session) (number : Nat) : Option (Scope Nat) := (session.scopes[number]?).join

def ambient? (session : Session) (holder : Nat) : Option (AmbientRef × Ambient) := do
  let place ← session.holders[holder]?
  let found ← session.ambients[place]?
  pure (place, found)

/-- The first holder of an ambient transaction. -/
def holderOf (session : Session) (place : AmbientRef) : Option Nat := session.holders.idxOf? place

def setScope (session : Session) (number : Nat) (s : Option (Scope Nat)) : Session :=
  { session with scopes := session.scopes.set number s }

/-- The host of the session's discipline, without a token. -/
def host (session : Session) : Scope.Host StageM Nat :=
  if session.suspending then Stage.suspendingHost else Stage.blockingHost

/-- The token of a step. -/
def tokenFor (clock : Nat) : Cancellation → Token
  | .before => { fired := true }
  | .byHooks => {}
  | .afterTicks n => { due := some (clock + n) }

/-- Run a step of the suspending discipline, under a token if the step has one. -/
def racing {α : Type} (cancellation : Option Cancellation)
    (step : Scope.RacingHost StageM Nat → StageM α) : StageM α :=
  match cancellation with
  | none => step Stage.suspendingHost.uncancelled
  | some cancellation => do
    modify fun stage => { stage with token := tokenFor stage.clock cancellation }
    step Stage.racingHost

/-- Run a step of a scope and keep the scope afterwards. -/
def stepScope (number : Nat)
    (step : StageM (Except TransactionError Unit × Scope Nat)) : SessionM Answer := do
  let (outcome, s) ← onStage step
  modify (·.setScope number (some s))
  pure (.transaction outcome)

def complete (number : Nat) (cancellation : Option Cancellation) (s : Scope Nat) :
    SessionM Answer := do
  if (← get).suspending then
    stepScope number (racing cancellation fun host => Scope.Suspending.complete host s)
  else stepScope number (Scope.Blocking.complete Stage.blockingHost s)

def dispose (number : Nat) (cancellation : Option Cancellation) (s : Scope Nat) :
    SessionM Answer := do
  if (← get).suspending then
    stepScope number (racing cancellation fun host => Scope.Suspending.dispose host s)
  else stepScope number (Scope.Blocking.dispose Stage.blockingHost s)

/-- Drop a scope under the session's discipline. -/
def drop (number : Nat) (s : Scope Nat) : SessionM Unit := do
  if (← get).suspending then
    let _ ← onStage (Scope.Suspending.drop Stage.suspendingHost s)
  else
    let _ ← onStage (Scope.Blocking.drop Stage.blockingHost s)
  modify (·.setScope number none)

/-- Enlist a connection in a scope; a new transaction gets the next handle. -/
def enlist (number c : Nat) (offered : Option AmbientRef) (s : Scope Nat) : SessionM Answer := do
  let session ← get
  let enlisted ← onStage
    (Scope.enlist session.host (session.stage.adapter c) offered session.ambients s)
  modify fun session =>
    { session.setScope number (some enlisted.scope) with ambients := enlisted.ambients }
  match enlisted.outcome with
  | .error e => pure (.enlisted (.error e))
  | .ok none => pure (.enlisted (.ok none))
  | .ok (some handle) =>
    let number := (← get).handles.length
    modify fun session => { session with handles := session.handles ++ [handle] }
    pure (.enlisted (.ok (some number)))

/-- End the ambient transaction of a holder. -/
def finishAmbient (place : AmbientRef) (found : Ambient) (ending : AmbientEnding) :
    SessionM Answer := do
  match found.finish ending with
  | .error e => pure (.transaction (.error e))
  | .ok found =>
    modify fun session => { session with ambients := session.ambients.set place found }
    Log.record found.finishedEntry
    pure (.transaction (.ok ()))

/-- Change the script of a connection. -/
def rescript (change : Stage → Stage) : SessionM Answer := do
  modify fun session => { session with stage := change session.stage }
  pure .done

/-- The options of a new scope, from the defaults. -/
def optionsOf (isolation : Option IsolationLevel) (preferAmbient : Option Bool) : ScopeOptions :=
  let options : ScopeOptions := {}
  { isolation := isolation.getD options.isolation
    preferAmbient := preferAmbient.getD options.preferAmbient }

/-- A call on the handle of a connection. -/
def callHandle (c : Nat) : HandleCall → SessionM Answer
  | .commit => do pure (.participant (← onStage ((← get).host.commit c)))
  | .rollback => do pure (.participant (← onStage ((← get).host.rollback c)))
  | .release => do
    onStage ((← get).host.release c)
    pure .done

/-- Carry out a command. -/
def step : Command → SessionM (Option Answer)
  | .new isolation preferAmbient => do
    let options := optionsOf isolation preferAmbient
    modify fun session =>
      let id := s!"<scope:{session.scopes.length}>"
      { session with scopes := session.scopes ++ [some { id, options }] }
    pure (some (.options options))
  | .beginAmbient isolation => do
    let session ← get
    let found : Ambient := { id := s!"<ambient:{session.holders.length}>", isolation }
    Log.record found.startedEntry
    set { session with
      ambients := session.ambients ++ [found]
      holders := session.holders ++ [session.ambients.length] }
    pure (some .done)
  | .copyAmbient holder => do
    let session ← get
    match session.holders[holder]? with
    | none => pure none
    | some place =>
      set { session with holders := session.holders ++ [place] }
      pure (some .done)
  | .sameAmbient holder other => do
    let session ← get
    pure do
      let a ← session.holders[holder]?
      let b ← session.holders[other]?
      pure (.equal (a == b))
  | .finishAmbient holder ending => do
    match (← get).ambient? holder with
    | none => pure none
    | some (place, found) => some <$> finishAmbient place found ending
  | .failNext c call error => some <$> rescript (·.failNext c call (some error))
  | .slowCommits c ticks =>
    some <$> rescript (·.script c fun conn => { conn with commitTicks := ticks })
  | .hookCommit c hook =>
    some <$> rescript (·.script c fun conn =>
      { conn with commitHooks := conn.commitHooks ++ [hook] })
  | .hookRollback c hook =>
    some <$> rescript (·.script c fun conn =>
      { conn with rollbackHooks := conn.rollbackHooks ++ [hook] })
  | .enlist number c holder => do
    let session ← get
    match session.scope? number, session.stage.connections[c]? with
    | some s, some _ =>
      match holder with
      | none => some <$> enlist number c none s
      | some holder =>
        match session.holders[holder]? with
        | some place => some <$> enlist number c (some place) s
        | none => pure none
    | _, _ => pure none
  | .begin c isolation => do
    match ← onStage (modifyGet (·.begin c isolation)) with
    | .error e => pure (some (.began (.error e)))
    | .ok handle =>
      let number := (← get).handles.length
      modify fun session => { session with handles := session.handles ++ [handle] }
      pure (some (.began (.ok number)))
  | .join c holder => do
    match (← get).ambient? holder with
    | none => pure none
    | some (_, found) =>
      pure (some (.participant (← onStage (modifyGet (·.join c found)))))
  | .handle handle call => do
    match (← get).handles[handle]? with
    | none => pure none
    | some c => some <$> callHandle c call
  | .complete number cancellation => do
    match (← get).scope? number with
    | none => pure none
    | some s => some <$> complete number cancellation s
  | .dispose number cancellation => do
    match (← get).scope? number with
    | none => pure none
    | some s => some <$> dispose number cancellation s
  | .drop number => do
    match (← get).scope? number with
    | none => pure none
    | some s =>
      drop number s
      pure (some .done)
  | .clearJournal => some <$> rescript fun stage => { stage with journal := [] }
  | .show number => do
    let session ← get
    pure <| (session.scope? number).map fun s =>
      .shown (if session.suspending then Scope.Suspending.shown s else Scope.Blocking.shown s)

/-- Drop the scopes that are left, in order. -/
def finish : SessionM Unit := do
  let session ← get
  (List.range session.scopes.length).forM fun number => do
    match (← get).scope? number with
    | none => pure ()
    | some s => drop number s

end Session

end UnitOfWork.Rehearsal
