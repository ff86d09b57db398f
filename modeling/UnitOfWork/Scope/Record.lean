import UnitOfWork.Ambient

/-!
# The record of a unit of work

A scope records its participants in the order of their enlistment and three facts about its own life:
its state, whether completion was attempted, and whether disposal has begun. The first enlistment
fixes the mode for good. In ambient mode the scope keeps the one ambient transaction it joined and no
handles; otherwise every participant holds the handle of a transaction of its own until it is
released. The record decides what is allowed; it calls no driver.
-/

set_option autoImplicit false

namespace UnitOfWork

/-- What a scope asks for. -/
structure ScopeOptions where
  isolation : IsolationLevel := .readCommitted
  /-- Join an active ambient transaction rather than begin transactions of its own. -/
  preferAmbient : Bool := true
deriving DecidableEq, Repr

instance : Inhabited ScopeOptions := ⟨{}⟩

namespace Scope

/-- How the participants of a scope take part. The mode and the ambient transaction that was joined are
one value here. As two they would be written together by the first enlistment and by nothing after it, so
that neither an ambient mode without a transaction nor a transaction in another mode would come up. -/
inductive Mode where
  /-- All in the one ambient transaction that was joined first. -/
  | ambient (joined : AmbientRef)
  /-- Each in a transaction of its own. -/
  | own
deriving DecidableEq, Repr

/-- The words for a mode: as a value, and as a constructor is shown. -/
def Mode.text : Mode → String
  | .ambient _ => "ambient"
  | .own => "local"

def Mode.shown : Mode → String
  | .ambient _ => "Ambient"
  | .own => "Local"

inductive State where
  | opened
  | completed
  | disposed
deriving DecidableEq, Repr

def State.text : State → String
  | .opened => "open"
  | .completed => "completed"
  | .disposed => "disposed"

def State.shown : State → String
  | .opened => "Open"
  | .completed => "Completed"
  | .disposed => "Disposed"

/-- How far a participant has come. -/
inductive Standing where
  | enlisted
  | committed
  | rolledBack
deriving DecidableEq, Repr

def Standing.text : Standing → String
  | .enlisted => "enlisted"
  | .committed => "committed"
  | .rolledBack => "rolled_back"

/-- One participant. -/
structure Participant (H : Type) where
  /-- The place in the order of enlistment. -/
  index : Nat
  name : String
  isolation : IsolationLevel
  standing : Standing := .enlisted
  handle : Option H
deriving DecidableEq, Repr

namespace Participant

variable {H : Type}

/-- Still to be committed or rolled back, with a handle to do it by. -/
def isPending (p : Participant H) : Bool := p.standing == .enlisted && p.handle.isSome

def committed (p : Participant H) : Participant H := { p with standing := .committed }

/-- A participant whose rollback was called counts as rolled back, whatever the driver said. -/
def rolledBack (p : Participant H) : Participant H := { p with standing := .rolledBack }

/-- Without its handle. -/
def released (p : Participant H) : Participant H := { p with handle := none }

end Participant

end Scope

/-- The record of one unit of work; its identity is drawn outside the library. -/
structure Scope (H : Type) where
  id : String
  options : ScopeOptions := {}
  mode : Option Scope.Mode := none
  participants : List (Scope.Participant H) := []
  state : Scope.State := .opened
  completeAttempted : Bool := false
  disposing : Bool := false
deriving DecidableEq, Repr

namespace Scope

variable {H : Type}

/-- The ambient transaction that was joined first, if any. -/
def ambient (s : Scope H) : Option AmbientRef :=
  match s.mode with
  | some (.ambient joined) => some joined
  | _ => none

/-- How the next participant takes part. -/
inductive Plan where
  | ambient (place : AmbientRef) (found : Ambient)
  | own (isolation : IsolationLevel)
deriving DecidableEq, Repr

/-- Why a scope takes no more participants, if it does not. -/
def enlistObstacle (s : Scope H) : Option String :=
  match s.state with
  | .opened =>
    if s.disposing then some "scope is being disposed"
    else if s.completeAttempted then some "scope has already been completed"
    else none
  | state => some s!"scope is {state.text}"

/-- How a participant joins. The mode is decided here and recorded only after the adapter's call
succeeded. Once it is fixed, the ambient transaction on offer no longer matters. -/
def plan (s : Scope H) (ambients : Ambients) (participant : String)
    (offered : Option AmbientRef) : Except TransactionError Plan :=
  match s.enlistObstacle with
  | some reason => .error (.state "enlist" reason)
  | none =>
    match s.mode with
    | some .own => .ok (.own s.options.isolation)
    | some (.ambient joined) =>
      match (ambients[joined]?).filter Ambient.isActive with
      | some found => .ok (.ambient joined found)
      | none => .error (.noActiveTransaction participant .begin)
    | none =>
      match offered.bind fun place =>
          ((ambients[place]?).filter Ambient.isActive).map (place, ·) with
      | some (place, found) =>
        if s.options.preferAmbient then .ok (.ambient place found)
        else .ok (.own s.options.isolation)
      | none => .ok (.own s.options.isolation)

/-- The scope with one more participant in an ambient transaction. -/
def withAmbient (s : Scope H) (name : String) (place : AmbientRef) (found : Ambient) : Scope H :=
  { s with
    mode := some (s.mode.getD (.ambient place))
    participants := s.participants ++ [⟨s.participants.length, name, found.isolation, .enlisted, none⟩] }

/-- The scope with one more participant in a transaction of its own. -/
def withOwn (s : Scope H) (name : String) (isolation : IsolationLevel) (handle : H) : Scope H :=
  { s with
    mode := some (s.mode.getD .own)
    participants := s.participants ++ [⟨s.participants.length, name, isolation, .enlisted, some handle⟩] }

/-- Why a scope cannot be completed, if it cannot. -/
def completeObstacle (s : Scope H) : Option String :=
  if s.state ≠ .opened then some s!"scope is {s.state.text}"
  else if s.disposing then some "scope is being disposed"
  else if s.completeAttempted then some "complete may only be called once"
  else none

/-- Pass the gate of completion, which opens once. -/
def beginComplete (s : Scope H) : Except TransactionError (Scope H) :=
  match s.completeObstacle with
  | some reason => .error (.state "complete" reason)
  | none => .ok { s with completeAttempted := true }

def markCompleted (s : Scope H) : Scope H := { s with state := .completed }

/-- Close the scope to enlistment and completion while rollbacks are under way. -/
def beginDispose (s : Scope H) : Scope H := { s with disposing := true }

/-- Whether disposal has transactions to roll back. -/
def needsRollback (s : Scope H) : Bool := s.mode == some .own && s.state == .opened

/-- The participants still to be committed or rolled back. -/
def pending (ps : List (Participant H)) : Nat := ps.countP Participant.isPending

/-- The handles still held, in the order of enlistment. -/
def handles (ps : List (Participant H)) : List H := ps.filterMap Participant.handle

/-- The scope without handles. -/
def released (s : Scope H) : Scope H :=
  { s with participants := s.participants.map Participant.released }

def markDisposed (s : Scope H) : Scope H := { s with state := .disposed }

/-- How a scope is shown, under the name of its discipline. -/
def shown (s : Scope H) (discipline : String) : String :=
  let mode := match s.mode with
    | none => "None"
    | some mode => s!"Some({mode.shown})"
  discipline ++ " \x7b id: " ++ s.id ++ ", mode: " ++ mode ++ ", state: " ++ s.state.shown ++
    ", participants: " ++ toString s.participants.length ++ " \x7d"

end Scope

end UnitOfWork
