import UnitOfWork.Scope.Suspending

/-!
# One scope at a time

A desk holds the connections of one engine and at most one scope over them. A new scope takes the place
of the present one, which is dropped. The commands are the same for every engine; an engine says what a
statement is, how a completion may be cancelled, and under which discipline its scopes run.

A command that names something the desk does not have is answered by nothing.
-/

set_option autoImplicit false

namespace UnitOfWork

/-- The state of a driver's connections and the present scope; handles are numbers. -/
structure Desk (W : Type) where
  world : W
  scope : Option (Scope Nat) := none
deriving DecidableEq, Repr

/-- Computations at a desk. -/
abbrev DeskM (W : Type) := StateT (Desk W) LogM

namespace Desk

/-- A command at a desk, with statements of type `S` and cancellations of type `C`. -/
inductive Command (S C : Type) where
  | begin (connection : Nat) (isolation : IsolationLevel)
  | execute (connection : Nat) (statement : S)
  | executeOn (handle : Nat) (statement : S)
  | commit (handle : Nat)
  | rollback (handle : Nat)
  | release (handle : Nat)
  | join (connection : Nat)
  | showConnection (connection : Nat)
  | showHandle (handle : Nat)
  | newScope (options : ScopeOptions)
  /-- Enlist a connection, with a fresh ambient transaction on offer or without. -/
  | enlist (connection : Nat) (ambient : Bool)
  | complete (cancellation : Option C)
  | disposeScope (cancellation : Option C)
  | dropScope
deriving DecidableEq, Repr

/-- The answer to a command. -/
inductive Answer where
  | done
  | shown (text : String)
  | executed (outcome : Except Driver.Fault Unit)
  | began (outcome : Except ParticipantError Nat)
  | participant (outcome : Except ParticipantError Unit)
  | enlisted (outcome : Except TransactionError (Option Nat))
  | transaction (outcome : Except TransactionError Unit)

/-- What an engine brings to a desk. -/
structure Engine (W S C : Type) where
  host : Scope.Host (StateT W LogM) Nat
  adapter? : W → Nat → Option (Adapter (StateT W LogM) Nat)
  execute : Nat → S → StateT W LogM (Except Driver.Fault Unit)
  /-- The connection of a handle, if the handle was ever handed out. -/
  connection? : W → Nat → Option Nat
  shownConnection : String → String
  shownHandle : W → Nat → String
  /-- Which of the handles handed out are active. -/
  activity : W → List Bool
  complete : Option C → Scope Nat → StateT W LogM (Except TransactionError Unit × Scope Nat)
  dispose : Option C → Scope Nat → StateT W LogM (Except TransactionError Unit × Scope Nat)
  drop : Scope Nat → StateT W LogM (Scope Nat)

variable {W S C α : Type}

/-- A computation on the connections. -/
def onWorld (run : StateT W LogM α) : DeskM W α := do
  let desk ← get
  let (result, world) ← (run.run desk.world : LogM _)
  set { desk with world }
  pure result

/-- Run a step of the present scope, if there is one. -/
def stepScope (step : Scope Nat → StateT W LogM (Except TransactionError Unit × Scope Nat)) :
    DeskM W (Option Answer) := do
  match (← get).scope with
  | none => pure none
  | some s =>
    let (outcome, s) ← onWorld (step s)
    modify fun desk => { desk with scope := some s }
    pure (some (.transaction outcome))

/-- Put a scope in the place of the present one, which is dropped. -/
def replaceScope (drop : Scope Nat → StateT W LogM (Scope Nat)) (next : Option (Scope Nat)) :
    DeskM W (Option Answer) := do
  match (← get).scope with
  | none => pure ()
  | some s => let _ ← onWorld (drop s)
  modify fun desk => { desk with scope := next }
  pure (some .done)

/-- A scope with options, not yet entered by anyone. -/
def freshScope (options : ScopeOptions) : Scope Nat := { id := "<scope:0>", options }

/-- An ambient transaction that nobody has joined yet. -/
def freshAmbient : Ambient := { id := "<ambient>", isolation := .readCommitted }

/-- The ambient transaction on offer when a command asks for one. -/
def freshAmbients : Bool → Ambients × Option AmbientRef
  | false => ([], none)
  | true => ([freshAmbient], some 0)

/-- Enlist a connection in the present scope, with a fresh ambient transaction on offer or
without. -/
def enlist (host : Scope.Host (StateT W LogM) Nat)
    (adapter : Option (Adapter (StateT W LogM) Nat)) (ambient : Bool) :
    DeskM W (Option Answer) := do
  match (← get).scope, adapter with
  | some s, some adapter =>
    let (ambients, offered) := freshAmbients ambient
    let enlisted ← onWorld (Scope.enlist host adapter offered ambients s)
    modify fun desk => { desk with scope := some enlisted.scope }
    pure (some (.enlisted enlisted.outcome))
  | _, _ => pure none

/-- Run a statement on a connection. -/
def execute (engine : Engine W S C) (c : Nat) (statement : S) : DeskM W (Option Answer) := do
  pure (some (.executed (← onWorld (engine.execute c statement))))

/-- Carry out a command. -/
def step (engine : Engine W S C) : Command S C → DeskM W (Option Answer)
  | .begin c isolation => do
    match engine.adapter? (← get).world c with
    | none => pure none
    | some adapter => pure (some (.began (← onWorld (adapter.beginOwn isolation))))
  | .execute c statement => execute engine c statement
  | .executeOn h statement => do
    match engine.connection? (← get).world h with
    | none => pure none
    | some c => execute engine c statement
  | .commit h => do pure (some (.participant (← onWorld (engine.host.commit h))))
  | .rollback h => do pure (some (.participant (← onWorld (engine.host.rollback h))))
  | .release h => do
    onWorld (engine.host.release h)
    pure (some .done)
  | .join c => do
    match engine.adapter? (← get).world c with
    | none => pure none
    | some adapter => pure (some (.participant (← onWorld (adapter.joinAmbient freshAmbient))))
  | .showConnection c => do
    pure ((engine.adapter? (← get).world c).map fun adapter =>
      .shown (engine.shownConnection adapter.name))
  | .showHandle h => do pure (some (.shown (engine.shownHandle (← get).world h)))
  | .newScope options => replaceScope engine.drop (some (freshScope options))
  | .enlist c ambient => do enlist engine.host (engine.adapter? (← get).world c) ambient
  | .complete cancellation => stepScope (engine.complete cancellation)
  | .disposeScope cancellation => stepScope (engine.dispose cancellation)
  | .dropScope => replaceScope engine.drop none

end Desk

end UnitOfWork
