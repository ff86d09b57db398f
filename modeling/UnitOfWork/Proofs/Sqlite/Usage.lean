import UnitOfWork.Proofs.Sqlite.Rounds

/-!
# A scope in use over connections

The holder of a scope enlists connections, runs statements on them, directly or through the handles it was
given, disposes of handles, and completes and disposes of the scope, in any order and as often as it
likes. An act that goes past the scope (`Act.isDirect`) runs at most one statement; `changes` collects
those that reach one connection, and `next_direct` says that nothing else of an act reaches it. All that
an enlistment can do is in `EnlistStep`.
-/

set_option autoImplicit false

namespace UnitOfWork.Sqlite

open Scope (Participant)

/-! ## Acts -/

/-- A scope over connections, with what was recorded. -/
structure Work (D : Type) where
  scope : Scope Nat
  world : World D
  log : Log

/-- One thing that the holder of a scope does. -/
inductive Act (S : Type) where
  /-- Enlist a connection, among these ambient transactions and with one of them on offer or none. -/
  | enlist (c : Nat) (offered : Option AmbientRef) (ambients : Ambients)
  | execute (c : Nat) (statement : S)
  | executeOn (h : Nat) (statement : S)
  /-- Dispose of a handle, which rolls back if the handle takes itself for active. -/
  | release (h : Nat)
  | complete
  | dispose

/-- How a scope comes to its end. -/
inductive Closing where
  | dispose
  | drop

variable {D C S : Type}

/-- Whether an act goes to a connection past the scope. -/
def Act.isDirect : Act S → Bool
  | .execute .. => true
  | .executeOn .. => true
  | .release _ => true
  | _ => false

/-- Whether an act calls the end of the scope. -/
def Act.closes : Act S → Bool
  | .complete => true
  | .dispose => true
  | _ => false

/-- The connections are left to the scope once its end was called. -/
def Timely (acts : List (Act S)) : Prop :=
  acts.Pairwise fun earlier later => earlier.closes = true → later.isDirect = false

variable [Transactional D S]

/-- The statement that an act runs, and the connection that it runs on. -/
def Act.statement? (w : World D) : Act S → Option (Nat × S)
  | .execute c statement => some (c, statement)
  | .executeOn h statement => (w.handles[h]?).map fun handle => (handle.connection, statement)
  | .release h =>
    ((w.handles[h]?).filter Handle.active).map fun handle =>
      (handle.connection, Transactional.rollback D)
  | _ => none

/-- An act that is left to the scope runs no statement of its own. -/
theorem Act.statement?_of_quiet {w : World D} {act : Act S} (quiet : act.isDirect = false) :
    act.statement? w = none := by
  cases act with
  | execute => cases quiet
  | executeOn => cases quiet
  | release => cases quiet
  | _ => rfl

namespace Work

/-- Carry out an operation of the scope. -/
def perform {α : Type} (now : Work D) (operation : WorldM D (α × Scope Nat)) : α × Work D :=
  let r := (operation.run now.world).run now.log
  (r.1.1.1, { scope := r.1.1.2, world := r.1.2, log := r.2 })

/-- Enlist a connection. -/
def enlist (now : Work D) (c : Nat) (offered : Option AmbientRef) (ambients : Ambients) :
    Except TransactionError (Option Nat) × Work D :=
  now.perform do
    let e ← Scope.enlist host (adapter (now.world.name c) c) offered ambients now.scope
    pure (e.outcome, e.scope)

/-- Run a statement, if there is one. -/
def say (now : Work D) : Option (Nat × S) → Work D
  | none => now
  | some (c, statement) => { now with world := (now.world.execute c statement).2 }

/-- The scope and the connections after an act. -/
def next (now : Work D) (act : Act S) : Work D :=
  match act with
  | .enlist c offered ambients => (now.enlist c offered ambients).2
  | .release h => (now.perform do
      host.release h
      pure ((), now.scope)).2
  | .complete => (now.perform (Scope.Blocking.complete host now.scope)).2
  | .dispose => (now.perform (Scope.Blocking.dispose host now.scope)).2
  | act => now.say (act.statement? now.world)

/-- The scope and the connections after a list of acts. -/
def after (now : Work D) (acts : List (Act S)) : Work D := acts.foldl next now

/-- The scope and the connections in the end. -/
def close (now : Work D) : Closing → Work D
  | .dispose => (now.perform (Scope.Blocking.dispose host now.scope)).2
  | .drop => (now.perform do
      let s ← Scope.Blocking.drop host now.scope
      pure ((), s)).2

/-- A fresh scope over connections. -/
def start (id : String) (options : ScopeOptions) (world : World D) (log : Log) : Work D :=
  { scope := { id, options }, world, log }

end Work

/-! ## Statements -/

/-- A statement, if it runs on this connection. -/
def ranOn (c : Nat) (said : Option (Nat × S)) : List S :=
  ((said.filter fun said => said.1 == c).map Prod.snd).toList

/-- The statements that a list of acts runs on a connection. -/
def changes (c : Nat) (now : Work D) : List (Act S) → List S
  | [] => []
  | act :: rest => ranOn c (act.statement? now.world) ++ changes c (now.next act) rest

/-- A database after these statements. -/
def replay (d : D) (statements : List S) : D :=
  statements.foldl (fun d statement => (Transactional.execute d statement).2) d

section Statements

variable {c c' h : Nat} {d : D} {now : Work D} {w : World D} {act : Act S} {acts rest : List (Act S)}
  {statement : S}

@[simp] theorem ranOn_none : ranOn c (none : Option (Nat × S)) = [] := rfl

@[simp] theorem ranOn_self : ranOn c (some (c, statement)) = [statement] := by
  simp only [ranOn, Option.filter_some, beq_self_eq_true, if_true, Option.map_some,
    Option.toList_some]

/-- A statement on another connection did not run on this one. -/
theorem ranOn_ne (hne : c' ≠ c) : ranOn c (some (c', statement)) = [] := by
  simp only [ranOn, Option.filter_some, beq_iff_eq, hne, if_false, Option.map_none,
    Option.toList_none]

theorem changes_single : changes c now [act] = ranOn c (act.statement? now.world) := List.append_nil _

/-- The statements of a run are those of its first act and those of the rest. -/
theorem changes_cons (c : Nat) (now : Work D) (act : Act S) (rest : List (Act S)) :
    changes c now (act :: rest) = changes c now [act] ++ changes c (now.next act) rest := by
  rw [changes_single]
  rfl

/-- Statements are replayed in order. -/
theorem replay_append (d : D) (earlier later : List S) :
    replay d (earlier ++ later) = replay (replay d earlier) later := List.foldl_append

/-- Acts that are left to the scope run no statements of their own. -/
theorem changes_of_quiet (quiet : ∀ act ∈ acts, act.isDirect = false) : changes c now acts = [] := by
  induction acts generalizing now with
  | nil => rfl
  | cons act rest ih =>
    obtain ⟨hact, hrest⟩ := List.forall_mem_cons.mp quiet
    rw [changes, Act.statement?_of_quiet hact, ih hrest]
    rfl

/-- The release of a handle rolls back, which is refused to one that is not active. -/
theorem Work.next_release (now : Work D) (h : Nat) :
    (now.next (.release h : Act S)).scope = now.scope ∧
      (now.next (.release h : Act S)).world = (now.world.rollback h).2 := by
  have released : Returns (do
      host.release h
      pure ((), now.scope)) now.world fun r w => r.2 = now.scope ∧ w = (now.world.rollback h).2 :=
    Returns.bind (returns_release (returns_pure ⟨rfl, rfl⟩))
  exact released now.log

/-- What an act past the scope leaves: the scope as it was, every database as the statements on it leave
it, and every handle on its connection, with the flag that it had or the flag that goes with the
database. -/
structure Direct (now next : Work D) (act : Act S) : Prop where
  scope : next.scope = now.scope
  database : ∀ c, next.world.database? c =
    (now.world.database? c).map fun d => replay d (changes c now [act])
  handles : ∀ {h : Nat} {handle : Handle}, now.world.handles[h]? = some handle →
    ∃ active, next.world.handles[h]? = some { handle with active } ∧
      (active = handle.active ∨ active = next.world.inTransaction handle.connection)

/-- A statement reaches the databases as `replay` says. -/
theorem database?_ran (c' : Nat) :
    (w.execute c statement).2.database? c' =
      (w.database? c').map fun d => replay d (ranOn c' (some (c, statement))) := by
  by_cases hc : c = c'
  · subst hc
    rw [World.database?_execute, ranOn_self]
    rfl
  · rw [World.database?_execute_ne w statement hc, ranOn_ne hc]
    exact Option.map_id'.symm

/-- A statement that an act runs, and nothing else of it, reaches the databases. -/
theorem say_direct (hnext : now.next act = now.say (act.statement? now.world)) :
    Direct now (now.next act) act := by
  rw [hnext]
  cases hsaid : act.statement? now.world with
  | none =>
    refine ⟨rfl, fun c => ?_, fun {h handle} held => ⟨handle.active, held, .inl rfl⟩⟩
    rw [changes_single, hsaid]
    exact Option.map_id'.symm
  | some said =>
    obtain ⟨c, statement⟩ := said
    refine ⟨rfl, fun c' => ?_, fun {h handle} held => ⟨handle.active, ?_, .inl rfl⟩⟩
    · rw [changes_single, hsaid]
      exact database?_ran c'
    · exact (congrArg (·[h]?) (World.handles_execute now.world c statement)).trans held

/-- The release of a handle runs a ROLLBACK if the handle is active, and nothing else. -/
theorem release_direct (now : Work D) (h : Nat) :
    Direct now (now.next (.release h : Act S)) (.release h : Act S) := by
  obtain ⟨hscope, hworld⟩ := now.next_release h
  cases hactive : now.world.isActive h with
  | false =>
    rw [World.rollback, World.finish_of_inactive hactive] at hworld
    have hsaid : (.release h : Act S).statement? now.world = none := by
      rw [Act.statement?, World.filter_of_inactive hactive, Option.map_none]
    refine ⟨hscope, fun c => ?_, fun {i handle} held => ⟨handle.active, ?_, .inl rfl⟩⟩
    · rw [hworld, changes_single, hsaid]
      exact Option.map_id'.symm
    · rw [hworld, held]
  | true =>
    obtain ⟨⟨c, active⟩, hheld, rfl⟩ := (Option.any_eq_true _ _).mp hactive
    have hsaid : (.release h : Act S).statement? now.world =
        some (c, Transactional.rollback D) := by
      rw [Act.statement?, World.filter_of_active hheld, Option.map_some]
    rw [World.rollback, World.finish_of_active hheld] at hworld
    refine ⟨hscope, fun c' => ?_, fun {i handle} held => ?_⟩
    · rw [hworld, changes_single, hsaid]
      exact database?_ran c'
    · rw [hworld]
      obtain ⟨hlt, -⟩ := List.getElem?_eq_some_iff.mp held
      by_cases hi : h = i
      · subst hi
        cases hheld.symm.trans held
        exact ⟨_, List.getElem?_set_self hlt, .inr rfl⟩
      · exact ⟨handle.active, (List.getElem?_set_ne hi).trans held, .inl rfl⟩

/-- Every act past the scope. -/
theorem next_direct (now : Work D) (direct : act.isDirect = true) : Direct now (now.next act) act := by
  cases act with
  | execute => exact say_direct rfl
  | executeOn => exact say_direct rfl
  | release h => exact release_direct now h
  | _ => cases direct

end Statements

/-! ## Enlisting -/

section Enlisting

variable {journal : Journal D C} {c c' h : Nat} {d : D} {w w' : World D} {s : Scope Nat}
  {level : IsolationLevel}

/-- Everything that an enlistment can do. No database joins an ambient transaction. -/
inductive EnlistStep (s : Scope Nat) (w : World D) (c : Nat) :
    Except TransactionError (Option Nat) → Scope Nat → World D → Prop where
  | refused (e : TransactionError) : EnlistStep s w c (.error e) s w
  | notBegun {level : IsolationLevel} {source : ParticipantError} {w' : World D}
      (obstacle : s.enlistObstacle = none) (failed : w.begin c level = (.error source, w'))
      (e : TransactionError) : EnlistStep s w c (.error e) s w'
  | begun {level : IsolationLevel} {h : Nat} {w' : World D} (name : String)
      (obstacle : s.enlistObstacle = none) (mode : s.mode = none ∨ s.mode = some .own)
      (succeeded : w.begin c level = (.ok h, w')) :
      EnlistStep s w c (.ok (some h)) (s.withOwn name level h) w'

/-- A scope that takes participants after an enlistment took them before. -/
theorem EnlistStep.obstacle {outcome : Except TransactionError (Option Nat)} {s' : Scope Nat}
    (step : EnlistStep s w c outcome s' w') (obstacle : s'.enlistObstacle = none) :
    s.enlistObstacle = none := by
  cases step with
  | refused => exact obstacle
  | notBegun before => exact before
  | begun _ before => exact before

/-- A scope that took a participant takes participants. -/
theorem EnlistStep.accepted {handle : Option Nat} {s' : Scope Nat}
    (step : EnlistStep s w c (.ok handle) s' w') : s.enlistObstacle = none := by
  cases step with
  | begun _ obstacle => exact obstacle

/-- What is told of an enlistment changes nothing. -/
theorem returns_noteEnlisted {resolved : Scope.Notice} {name : String} {Q : Unit → World D → Prop}
    (hQ : Q () w) : Returns (Scope.noteEnlisted host s resolved name level) w Q := by
  unfold Scope.noteEnlisted
  cases s.mode.isNone with
  | true => exact Returns.bind (returns_note (returns_note hQ))
  | false => exact Returns.bind (returns_pure (returns_note hQ))

/-- An enlistment is a step of the scope and of the connection enlisted. -/
theorem returns_enlist (name : String) (c : Nat) (offered : Option AmbientRef) (ambients : Ambients) :
    Returns (Scope.enlist host (adapter name c) offered ambients s) w fun e w' =>
      EnlistStep s w c e.outcome e.scope w' := by
  have hplan := Scope.planned s ambients name offered
  unfold Scope.enlist Scope.carryOut
  change Scope.Planned s ambients name offered
    (s.plan ambients (adapter (D := D) name c).name offered) at hplan
  cases hplanned : s.plan ambients (adapter (D := D) name c).name offered with
  | error e => exact returns_pure (.refused e)
  | ok plan =>
    rw [hplanned] at hplan
    cases plan with
    | ambient place found => exact Returns.bind (returns_pure (returns_pure (.refused _)))
    | own level =>
      cases hplan with
      | own obstacle mode =>
        refine Returns.bind (returns_beginOwn name c _ ?_)
        rcases hbegun : w.begin c s.options.isolation with ⟨outcome, w'⟩
        cases outcome with
        | error source => exact Returns.bind (returns_note (returns_pure (.notBegun obstacle hbegun _)))
        | ok h =>
          refine Returns.bind (returns_noteEnlisted (returns_pure (.begun name obstacle ?_ hbegun)))
          exact mode.symm.imp And.left id

/-- A BEGIN elsewhere spares a connection, and moves no handle. -/
theorem spares_begin (hne : c' ≠ c) : Spares c w (w.begin c' level).2 := by
  have sent : Spares c w (w.execute c' (Transactional.begin D (isImmediate level))).2 :=
    spares_execute hne
  cases houtcome : (w.execute c' (Transactional.begin D (isImmediate level))).1 with
  | error fault =>
    rw [World.begin_error houtcome]
    exact sent
  | ok =>
    rw [World.begin_ok houtcome]
    refine ⟨sent.database, fun {h handle} held => ⟨handle.active, ?_, fun _ => rfl⟩⟩
    obtain ⟨hlt, -⟩ := List.getElem?_eq_some_iff.mp held
    rw [List.getElem?_append_left hlt, held]

/-- A BEGIN puts no handle of another connection on this one. -/
theorem keepsAway_begin : KeepsAway c w (w.begin c' level).2 :=
  (spares_begin (Nat.succ_ne_self c').symm).keepsAway

/-- A transaction that is open stays open and as it is, whatever is begun. -/
theorem begin_within_spares [Flat D] (within : w.inTransaction c = true) (c' : Nat)
    (level : IsolationLevel) : Spares c w (w.begin c' level).2 := by
  by_cases hc : c' = c
  · subst hc
    obtain ⟨fault, hsent⟩ := World.execute_begin_within within (isImmediate level)
    have failed : (w.execute c' (Transactional.begin D (isImmediate level))).1 = .error fault := by
      rw [hsent]
    rw [World.begin_error failed, hsent]
    exact .refl c' w
  · exact spares_begin hc

/-- A BEGIN that succeeds finds its connection outside a transaction, and hands out the next handle
with a transaction on the content there. -/
theorem begin_ok_running [Flat D] (laws : journal.Lawful)
    (succeeded : w.begin c level = (.ok h, w')) :
    w.inTransaction c = false ∧ w'.handles[h]? = some { connection := c } ∧
      ∃ idle d, w.database? c = some idle ∧ w'.database? c = some d ∧
        journal.content d = journal.content idle ∧
        journal.saved d = some (journal.content idle) := by
  cases houtcome : (w.execute c (Transactional.begin D (isImmediate level))).1 with
  | error fault =>
    rw [World.begin_error houtcome] at succeeded
    cases succeeded
  | ok =>
    rw [World.begin_ok houtcome] at succeeded
    cases succeeded
    refine ⟨?_, List.getElem?_concat_length, ?_⟩
    · rw [Bool.eq_false_iff]
      intro within
      obtain ⟨fault, hsent⟩ := World.execute_begin_within within (isImmediate level)
      rw [hsent] at houtcome
      cases houtcome
    · cases hd : w.database? c with
      | none =>
        rw [World.execute_unconnected hd] at houtcome
        cases houtcome
      | some idle =>
        rw [World.execute_fst hd] at houtcome
        obtain ⟨hcontent, hsaved⟩ := laws.begin_ok (Prod.ext houtcome rfl)
        refine ⟨idle, _, rfl, ?_, hcontent, hsaved⟩
        show (w.execute c (Transactional.begin D (isImmediate level))).2.database? c = _
        rw [World.database?_execute, hd]
        rfl

end Enlisting

/-! ## The calls of the scope in a run -/

section Calls

namespace Work

/-- What a completion leaves, it leaves in a run. -/
theorem next_complete (now : Work D) (Q : Scope Nat → World D → Prop)
    (h : Returns (Scope.Blocking.complete host now.scope) now.world fun r w => Q r.2 w) :
    Q (now.next (.complete : Act S)).scope (now.next (.complete : Act S)).world := h now.log

/-- What a disposal leaves, it leaves in a run. -/
theorem next_dispose (now : Work D) (Q : Scope Nat → World D → Prop)
    (h : Returns (Scope.Blocking.dispose host now.scope) now.world fun r w => Q r.2 w) :
    Q (now.next (.dispose : Act S)).scope (now.next (.dispose : Act S)).world := h now.log

/-- A drop leaves what a disposal leaves. -/
theorem close_returns (now : Work D) (Q : Scope Nat → World D → Prop) (closing : Closing)
    (h : Returns (Scope.Blocking.dispose host now.scope) now.world fun r w => Q r.2 w) :
    Q (now.close closing).scope (now.close closing).world := by
  cases closing with
  | dispose => exact h now.log
  | drop =>
    have hdrop : Returns (Scope.Blocking.drop host now.scope) now.world fun s w => Q s w := by
      refine Returns.bind (h.mono ?_)
      rintro ⟨outcome, s⟩ w hr
      cases outcome with
      | ok => exact returns_pure hr
      | error e => exact Returns.bind (returns_note (returns_pure hr))
    exact hdrop now.log

theorem enlistStep (now : Work D) (c : Nat) (offered : Option AmbientRef) (ambients : Ambients) :
    EnlistStep now.scope now.world c (now.enlist c offered ambients).1
      (now.enlist c offered ambients).2.scope (now.enlist c offered ambients).2.world := by
  have returns := returns_enlist (s := now.scope) (w := now.world) (now.world.name c) c offered ambients
  exact returns now.log

end Work

/-- A completion is refused and changes nothing, or closes the scope. -/
theorem returns_complete_closes {s : Scope Nat} {w : World D} :
    Returns (Scope.Blocking.complete host s) w fun r w' => r.2 = s ∧ w' = w ∨ Closed r.2 := by
  cases obstacle : s.completeObstacle with
  | some reason => exact (returns_complete_refused obstacle).mono fun r w' same => .inl same
  | none =>
    simp only [Scope.Blocking.complete, Scope.beginComplete, obstacle]
    split
    · refine Returns.bind (returns_any fun r w' => ?_)
      cases r.1 with
      | some e => exact returns_pure (.inr (.inr rfl))
      | none => exact Returns.bind (returns_note (returns_pure (.inr (.inr rfl))))
    · exact Returns.bind (returns_note (returns_pure (.inr (.inr rfl))))

/-- A disposal closes the scope. -/
theorem returns_dispose_closes {s : Scope Nat} {w : World D} :
    Returns (Scope.Blocking.dispose host s) w fun r _ => Closed r.2 := by
  unfold Scope.Blocking.dispose
  split
  · next disposed => exact returns_pure (.inl disposed)
  · have close {s : Scope Nat} {w : World D} {failures : List RollbackFailure} :
        Returns (do
          let s ← Scope.releaseAll host s
          host.note s .disposed
          pure (Scope.disposal failures, s.markDisposed)) w fun r _ => Closed r.2 :=
      Returns.bind (returns_any fun s' w' => Returns.bind (returns_note (returns_pure (.inl rfl))))
    split
    · exact Returns.bind (returns_any fun r w' => close)
    · exact Returns.bind (returns_pure close)

end Calls

end UnitOfWork.Sqlite
