import UnitOfWork.Proofs.Scope.Moves
import UnitOfWork.Scope.Desk

/-!
# Desks whose engine moves a world

A desk touches its connections only through its engine. So if every request of the engine moves the world
along a relation that leads on, every command does (`Engine.Moves.step`), and so does a session, a list
of commands carried out one after the other (`Engine.Moves.session`). The statements of a caller are the
caller's choice: the law is told which statements are to be expected, and holds for the commands that
say no other.
-/

set_option autoImplicit false

namespace UnitOfWork.Desk

variable {W S C α : Type}

/-- A command says no statement but expected ones. -/
def Command.Says (expected : S → Prop) : Command S C → Prop
  | .execute _ statement => expected statement
  | .executeOn _ statement => expected statement
  | _ => True

/-- The desk and the log after a command. -/
def next (engine : Engine W S C) (now : Desk W × Log) (command : Command S C) : Desk W × Log :=
  let r := ((step engine command).run now.1).run now.2
  (r.1.2, r.2)

/-- The desk and the log after a list of commands. -/
def after (engine : Engine W S C) (now : Desk W × Log) (commands : List (Command S C)) :
    Desk W × Log :=
  commands.foldl (next engine) now

/-- Every request of an engine moves the world, statements being expected ones. -/
structure Engine.Moves (R : W → W → Prop) (expected : S → Prop) (engine : Engine W S C) : Prop
    extends Scope.Host.Moves .recording R engine.host where
  adapter : ∀ {w : W} {c : Nat} {found : Adapter (StateT W LogM) Nat},
    engine.adapter? w c = some found → Adapter.Moves .recording R found
  execute : ∀ (c : Nat) {statement : S}, expected statement →
    Logic.recording.Moves R (engine.execute c statement)
  complete : ∀ cancellation s, Logic.recording.Moves R (engine.complete cancellation s)
  dispose : ∀ cancellation s, Logic.recording.Moves R (engine.dispose cancellation s)
  drop : ∀ s, Logic.recording.Moves R (engine.drop s)

/-- The worlds of two desks are related. -/
def Along (R : W → W → Prop) (d d' : Desk W) : Prop := R d.world d'.world

section Moves

variable {R : W → W → Prop}

/-- What leads on for worlds leads on for desks. -/
theorem along_leading (h : Leading R) : Leading (Along R) where
  refl d := h.refl d.world
  trans := h.trans

/-- A call to the connections moves the desk as it moves their world. -/
theorem onWorld_moves {x : StateT W LogM α} (moves : Logic.recording.Moves R x) :
    Logic.recording.Moves (Along R) (onWorld x) := fun d => moves d.world

/-- What only reads the desk and changes the scope leaves the world alone. -/
theorem modify_moves (h : Leading R) {change : Desk W → Desk W}
    (same : ∀ d, (change d).world = d.world) :
    Logic.recording.Moves (Along R) (modify change : DeskM W PUnit) := by
  intro d log
  show R d.world (change d).world
  rw [same]
  exact h.refl d.world

theorem get_moves (h : Leading R) : Logic.recording.Moves (Along R) (get : DeskM W (Desk W)) :=
  fun d => returns_get (h.refl d.world)

end Moves

namespace Engine.Moves

variable {R : W → W → Prop} {expected : S → Prop} {engine : Engine W S C}
  (h : engine.Moves R expected)

include h

/-- A step of the scope at the desk moves it on, and so does its absence. -/
theorem stepScope {step : Scope Nat → StateT W LogM (Except TransactionError Unit × Scope Nat)}
    (moves : ∀ s, Logic.recording.Moves R (step s)) :
    Logic.recording.Moves (Along R) (Desk.stepScope step) := by
  have leading := along_leading h.toLeading
  refine leading.bind (get_moves h.toLeading) fun d => ?_
  cases d.scope with
  | none => exact leading.pure _
  | some s =>
    refine leading.bind (onWorld_moves (moves s)) fun r => ?_
    exact leading.bind (modify_moves h.toLeading fun _ => rfl) fun _ => leading.pure _

/-- Replacing the scope drops it, which is a request of the engine. -/
theorem replaceScope (next : Option (Scope Nat)) :
    Logic.recording.Moves (Along R) (Desk.replaceScope engine.drop next) := by
  have leading := along_leading h.toLeading
  refine leading.bind (get_moves h.toLeading) fun d => ?_
  cases d.scope with
  | none => exact leading.bind (modify_moves h.toLeading fun _ => rfl) fun _ => leading.pure _
  | some s =>
    refine leading.bind (onWorld_moves (h.drop s)) fun _ => ?_
    exact leading.bind (modify_moves h.toLeading fun _ => rfl) fun _ => leading.pure _

/-- An enlistment moves the desk on, whichever adapter is found. -/
theorem enlist {found : Option (Adapter (StateT W LogM) Nat)}
    (moves : ∀ adapter, found = some adapter → Adapter.Moves .recording R adapter)
    (ambient : Bool) : Logic.recording.Moves (Along R) (Desk.enlist engine.host found ambient) := by
  have leading := along_leading h.toLeading
  refine leading.bind (get_moves h.toLeading) fun d => ?_
  cases d.scope with
  | none => exact leading.pure _
  | some s =>
    cases found with
    | none => exact leading.pure _
    | some adapter =>
      refine leading.bind (onWorld_moves (h.toMoves.enlist (moves adapter rfl) _ _ s)) fun r => ?_
      exact leading.bind (modify_moves h.toLeading fun _ => rfl) fun _ => leading.pure _

/-- A computation on the connections and what is answered to it. -/
theorem answer {x : StateT W LogM α} (moves : Logic.recording.Moves R x)
    (answer : α → Option Answer) :
    Logic.recording.Moves (Along R) (do pure (answer (← onWorld x))) :=
  (along_leading h.toLeading).bind (onWorld_moves moves) fun _ => (along_leading h.toLeading).pure _

/-- Every command moves the world. -/
theorem step {command : Command S C} (spoken : command.Says expected) :
    Logic.recording.Moves (Along R) (Desk.step engine command) := by
  have leading := along_leading h.toLeading
  have look {β : Type} {run : Desk W → DeskM W β}
      (moves : ∀ d, Logic.recording.Moves (Along R) (run d)) :
      Logic.recording.Moves (Along R) (get >>= run) := leading.bind (get_moves h.toLeading) moves
  cases command with
  | begin c isolation =>
    refine look fun d => ?_
    cases hfound : engine.adapter? d.world c with
    | none => exact leading.pure _
    | some adapter => exact h.answer ((h.adapter hfound).beginOwn isolation) _
  | execute c statement => exact h.answer (h.execute c spoken) _
  | executeOn i statement =>
    refine look fun d => ?_
    cases engine.connection? d.world i with
    | none => exact leading.pure _
    | some c => exact h.answer (h.execute c spoken) _
  | commit i => exact h.answer (h.commit i) _
  | rollback i => exact h.answer (h.rollback i) _
  | release i => exact h.answer (h.release i) _
  | join c =>
    refine look fun d => ?_
    cases hfound : engine.adapter? d.world c with
    | none => exact leading.pure _
    | some adapter => exact h.answer ((h.adapter hfound).joinAmbient _) _
  | showConnection c => exact look fun d => leading.pure _
  | showHandle i => exact look fun d => leading.pure _
  | newScope options => exact h.replaceScope _
  | enlist c ambient => exact look fun d => h.enlist (fun _ hfound => h.adapter hfound) ambient
  | complete cancellation => exact h.stepScope (h.complete cancellation)
  | disposeScope cancellation => exact h.stepScope (h.dispose cancellation)
  | dropScope => exact h.replaceScope none

/-- So does a session, by induction on its commands. -/
theorem session (now : Desk W × Log) {commands : List (Command S C)}
    (spoken : ∀ command ∈ commands, command.Says expected) :
    R now.1.world (after engine now commands).1.world := by
  induction commands generalizing now with
  | nil => exact h.refl _
  | cons command rest ih =>
    obtain ⟨first, hrest⟩ := List.forall_mem_cons.mp spoken
    exact h.trans (h.step first now.1 now.2) (ih (next engine now command) hrest)

end Engine.Moves

end UnitOfWork.Desk
