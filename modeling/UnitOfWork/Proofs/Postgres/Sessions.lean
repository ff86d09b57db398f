import UnitOfWork.Proofs.Postgres.Holdings

/-!
# Sessions at a desk of PostgreSQL connections

A session is a list of commands, carried out one after the other at a desk that starts with connections
only. `DeskStep` is everything that one command can do; from it follows what every session keeps
(`held_after`, `ready_after`), and that a scope whose disposal has begun stays as it is until it is
disposed of again or replaced (`disposing_after`).
-/

set_option autoImplicit false

namespace UnitOfWork.Postgres

namespace Command

/-- The handles that a caller ends by a command of its own. -/
def ended : Command → List Nat
  | .desk (.commit h) => [h]
  | .desk (.rollback h) => [h]
  | _ => []

/-- Whether a command leaves the scope in its place without disposing of it. -/
def keepsScope : Command → Bool
  | .desk (.newScope _) => false
  | .desk (.disposeScope _) => false
  | .desk .dropScope => false
  | _ => true

/-- Whether a command is none of the scope's. -/
def isAside : Command → Bool
  | .desk (.enlist ..) => false
  | .desk (.complete _) => false
  | command => command.keepsScope

end Command

namespace Session

/-- The answer to a command, with the desk and the log after it. -/
def next (command : Command) (now : Desk World × Log) :
    Option Desk.Answer × (Desk World × Log) :=
  let r := ((step command).run now.1).run now.2
  (r.1.1, (r.1.2, r.2))

/-- The desk and the log after a list of commands. -/
def after (commands : List Command) (now : Desk World × Log) : Desk World × Log :=
  commands.foldl (fun now command => (next command now).2) now

end Session

/-! ## One command -/

/-- Everything that a command can do at a desk, with the handles that it ends by itself. -/
inductive DeskStep (d : Desk World) : List Nat → Desk World → Prop where
  /-- The scope takes no part. -/
  | aside {ended : List Nat} {d' : Desk World} (scope : d'.scope = d.scope)
      (later : World.Later ended d.world d'.world) : DeskStep d ended d'
  | replaced {d' : Desk World} (fresh : ∀ s, d'.scope = some s → s.participants = []) :
      DeskStep d [] d'
  /-- The scope is called, perhaps under a token that was set before. -/
  | called {s s' : Scope Nat} {w : World} {d' : Desk World} (before : d.scope = some s)
      (token : World.Later [] d.world w) (step : ScopeStep s w s' d'.world)
      (after : d'.scope = some s') : DeskStep d [] d'

section Step

variable {d : Desk World} {s : Scope Nat} {α : Type}

/-- What a call does to the connections it does to the desk, and the scope stays. -/
theorem returns_onWorld {x : WorldM α} {Q : α → Desk World → Prop}
    (h : Returns x d.world fun a w => Q a { d with world := w }) : Returns (Desk.onWorld x) d Q := h

/-- Without a scope there is nothing to step, and the desk answers nothing. -/
theorem returns_stepScope_none (hs : d.scope = none)
    {step : Scope Nat → WorldM (Except TransactionError Unit × Scope Nat)}
    {Q : Option Desk.Answer → Desk World → Prop} (h : Q none d) :
    Returns (Desk.stepScope step) d Q := by
  unfold Desk.stepScope
  refine Returns.bind (returns_get ?_)
  rw [hs]
  exact returns_pure h

/-- A step of the scope at the desk is a step of that scope. -/
theorem returns_stepScope (hs : d.scope = some s)
    {step : Scope Nat → WorldM (Except TransactionError Unit × Scope Nat)}
    {Q : Option Desk.Answer → Desk World → Prop}
    (h : Returns (step s) d.world fun r w =>
      Q (some (.transaction r.1)) { world := w, scope := some r.2 }) :
    Returns (Desk.stepScope step) d Q := by
  unfold Desk.stepScope
  refine Returns.bind (returns_get ?_)
  rw [hs]
  refine Returns.bind (returns_onWorld (h.mono fun r w hr => ?_))
  exact Returns.bind (returns_modify (returns_pure hr))

/-- The computations that involve no scope, each with the handles that it may end. -/
theorem returns_outside {x : WorldM α} {answer : α → Option Desk.Answer} {ended : List Nat}
    (h : Returns x d.world fun _ w => World.Later ended d.world w) :
    Returns (do pure (answer (← Desk.onWorld x))) d fun _ d' =>
      d'.scope = d.scope ∧ World.Later ended d.world d'.world :=
  Returns.bind (returns_onWorld (h.mono fun _ _ later => returns_pure ⟨rfl, later⟩))

/-- An adapter found for a connection is the one of that connection. -/
theorem adapter_eq {w : World} {c : Nat} {found : Adapter WorldM Nat}
    (h : w.adapter? c = some found) : ∃ name, found = adapter name c := by
  obtain ⟨connection, -, rfl⟩ := Option.map_eq_some_iff.mp h
  exact ⟨connection.name, rfl⟩

/-- A command that is none of the scope's leaves it alone. -/
theorem returns_aside (command : Command) (haside : command.isAside = true) :
    Returns (Session.step command) d fun _ d' =>
      d'.scope = d.scope ∧ World.Later command.ended d.world d'.world := by
  have hnone : d.scope = d.scope ∧ World.Later [] d.world d.world := ⟨rfl, .refl _ _⟩
  cases command with
  | script c replies => exact returns_outside (returns_modify (World.later_queue c replies))
  | desk command =>
    cases command with
    | begin c isolation =>
      refine Returns.bind (returns_get ?_)
      split
      · exact returns_pure hnone
      · next found hfound =>
        obtain ⟨name, rfl⟩ := adapter_eq hfound
        exact returns_outside ((returns_beginOwn name c isolation).mono fun _ _ h => h.1)
    | execute c statement => exact returns_outside (returns_modifyGet World.later_execute)
    | executeOn h statement =>
      refine Returns.bind (returns_get ?_)
      split
      · exact returns_pure hnone
      · exact returns_outside (returns_modifyGet World.later_execute)
    | commit h => exact returns_outside (returns_commit World.later_commit)
    | rollback h => exact returns_outside (returns_rollback World.later_rollback)
    | release h => exact returns_outside (returns_release (.refl _ _))
    | join c =>
      refine Returns.bind (returns_get ?_)
      split
      · exact returns_pure hnone
      · next found hfound =>
        obtain ⟨name, rfl⟩ := adapter_eq hfound
        exact returns_outside (returns_pure (.refl _ _))
    | showConnection c => exact Returns.bind (returns_get (returns_pure hnone))
    | showHandle h => exact Returns.bind (returns_get (returns_pure hnone))
    | newScope | enlist | complete | disposeScope | dropScope => cases haside

/-- A scope that is replaced is dropped, and the next one stands in its place. -/
theorem returns_replaceScope {drop : Scope Nat → WorldM (Scope Nat)} {next : Option (Scope Nat)} :
    Returns (Desk.replaceScope drop next) d fun _ d' => d'.scope = next := by
  unfold Desk.replaceScope
  refine Returns.bind (returns_get ?_)
  cases d.scope with
  | none => exact Returns.bind (returns_modify (returns_pure rfl))
  | some s =>
    refine Returns.bind (returns_any fun _ _ => ?_)
    exact Returns.bind (returns_modify (returns_pure rfl))

theorem returns_enlisting_none (hs : d.scope = none) {found : Option (Adapter WorldM Nat)}
    {ambient : Bool} {Q : Option Desk.Answer → Desk World → Prop} (h : Q none d) :
    Returns (Desk.enlist host found ambient) d Q := by
  unfold Desk.enlist
  refine Returns.bind (returns_get ?_)
  rw [hs]
  exact returns_pure h

/-- An enlistment at the desk is one of its scope, for whatever adapter is found. -/
theorem returns_enlisting {c : Nat} {ambient : Bool} {Q : Scope Nat → World → Prop}
    (hs : d.scope = some s)
    (h : ∀ name offered ambients, Returns (Scope.enlist host (adapter name c) offered ambients s)
      d.world fun e w => Q e.scope w)
    (hnone : Q s d.world) :
    Returns (Desk.enlist host (d.world.adapter? c) ambient) d fun _ d' =>
      ∃ s', d'.scope = some s' ∧ Q s' d'.world := by
  unfold Desk.enlist
  refine Returns.bind (returns_get ?_)
  rw [hs]
  cases hfound : d.world.adapter? c with
  | none => exact returns_pure ⟨s, hs, hnone⟩
  | some found =>
    obtain ⟨name, rfl⟩ := adapter_eq hfound
    refine Returns.bind (returns_onWorld ((h name _ _).mono fun e w he => ?_))
    exact Returns.bind (returns_modify (returns_pure ⟨e.scope, rfl, he⟩))

/-- An operation of the scope, which runs without a token or under one. -/
theorem returns_called (hs : d.scope = some s) {cancellation : Option Cancellation}
    {operation : Scope.RacingHost WorldM Nat → Scope Nat →
      WorldM (Except TransactionError Unit × Scope Nat)}
    {Q : Option Desk.Answer → Desk World → Prop}
    (h : ∀ racing w, Faithful racing → World.Later [] d.world w →
      Returns (operation racing s) w fun r w' =>
        Q (some (.transaction r.1)) { world := w', scope := some r.2 }) :
    Returns (Desk.stepScope fun s => Session.racing cancellation fun racing => operation racing s) d
      Q := by
  refine returns_stepScope hs ?_
  cases cancellation with
  | none => exact h _ _ faithful_uncancelled (.refl _ _)
  | some cancellation =>
    exact Returns.bind (returns_modify (h _ _ faithful_racingHost (World.later_of_token rfl rfl)))

/-- Everything that a command can do. -/
theorem returns_step (command : Command) :
    Returns (Session.step command) d fun _ d' => DeskStep d command.ended d' := by
  have hidle : DeskStep d [] d := .aside rfl (.refl _ _)
  cases haside : command.isAside with
  | true => exact (returns_aside command haside).mono fun _ _ h => .aside h.1 h.2
  | false =>
    cases command with
    | script => cases haside
    | desk command =>
      cases command with
      | newScope options =>
        exact returns_replaceScope.mono fun _ _ hscope =>
          .replaced fun s hs => by
            cases hscope.symm.trans hs
            rfl
      | dropScope =>
        exact returns_replaceScope.mono fun _ _ hscope =>
          .replaced fun s hs => by cases hscope.symm.trans hs
      | enlist c ambient =>
        refine Returns.bind (returns_get ?_)
        cases hs : d.scope with
        | none => exact returns_enlisting_none hs hidle
        | some s =>
          refine (returns_enlisting hs (returns_enlist · c · ·) (.idle rfl id (.refl _ _))).mono ?_
          rintro _ d' ⟨s', hs', step⟩
          exact .called hs (.refl _ _) step hs'
      | complete cancellation =>
        cases hs : d.scope with
        | none => exact returns_stepScope_none hs hidle
        | some s =>
          exact returns_called hs fun racing w faithful token =>
            (returns_complete faithful).mono fun _ _ step => .called hs token step rfl
      | disposeScope cancellation =>
        cases hs : d.scope with
        | none => exact returns_stepScope_none hs hidle
        | some s =>
          exact returns_called hs fun racing w faithful token =>
            (returns_dispose faithful).mono fun _ _ step => .called hs token step.scopeStep rfl
      | _ => cases haside

/-- A scope whose disposal has begun is left alone until it is disposed of again or replaced. -/
theorem returns_step_disposing (hs : d.scope = some s) (hdisposing : s.disposing = true)
    (command : Command) (hkeeps : command.keepsScope = true) :
    Returns (Session.step command) d fun _ d' =>
      d'.scope = some s ∧ World.Later command.ended d.world d'.world := by
  have hopen : s.disposing ≠ false := by rw [hdisposing]; decide
  cases haside : command.isAside with
  | true => exact (returns_aside command haside).mono fun _ _ h => ⟨h.1.trans hs, h.2⟩
  | false =>
    cases command with
    | script => cases haside
    | desk command =>
      cases command with
      | newScope | dropScope | disposeScope => cases hkeeps
      | enlist c ambient =>
        have hobstacle : s.enlistObstacle ≠ none := fun h =>
          hopen ((Scope.enlistObstacle_eq_none_iff s).mp h).2.1
        obtain ⟨reason, hreason⟩ := Option.ne_none_iff_exists'.mp hobstacle
        refine Returns.bind (returns_get ?_)
        refine (returns_enlisting (Q := fun s' w' => s' = s ∧ w' = d.world) hs
          (fun _ => returns_enlist_refused hreason _) ⟨rfl, rfl⟩).mono ?_
        rintro _ d' ⟨s', hs', rfl, hworld⟩
        rw [hworld]
        exact ⟨hs', .refl _ _⟩
      | complete cancellation =>
        have hobstacle : s.completeObstacle ≠ none := fun h =>
          hopen ((Scope.completeObstacle_eq_none_iff s).mp h).2.1
        obtain ⟨reason, hreason⟩ := Option.ne_none_iff_exists'.mp hobstacle
        exact returns_called hs fun racing w _ token => (returns_complete_refused hreason).mono
          fun r w' h => ⟨congrArg some h.1, h.2 ▸ token⟩
      | _ => cases haside

end Step

/-! ## Whole sessions -/

namespace Session

variable {d : Desk World}

/-- Connections under the given names, and an empty log. -/
def opening (names : List String) : Desk World × Log := (start names, {})

/-- What each of these commands keeps, their list keeps. -/
theorem after_induction {P : Desk World → Prop} {commands : List Command}
    {now : Desk World × Log}
    (hstep : ∀ d, ∀ command ∈ commands, P d → Returns (step command) d fun _ d' => P d')
    (hnow : P now.1) : P (after commands now).1 := by
  induction commands generalizing now with
  | nil => exact hnow
  | cons command commands ih =>
    have hfirst : P (next command now).2.1 := hstep now.1 command List.mem_cons_self hnow now.2
    exact ih (fun d other hother => hstep d other (List.mem_cons_of_mem command hother)) hfirst

/-- What holds of the scope at a desk, if there is one, and of the connections. -/
def OfScope (P : Scope Nat → World → Prop) (d : Desk World) : Prop :=
  ∀ s, d.scope = some s → P s d.world

/-- A command of the desk keeps how its scope holds its handles. -/
theorem held_step {ended : List Nat} {d' : Desk World} (step : DeskStep d ended d')
    (held : OfScope Held d) : OfScope Held d' := by
  intro s hs
  cases step with
  | aside scope later => exact (held s (scope ▸ hs)).later later
  | replaced fresh => exact held_of_nil (fresh s hs)
  | called before token step after =>
    cases after.symm.trans hs
    exact ((held _ before).later token).step step

/-- A command that ends no handle keeps everyone ready. -/
theorem ready_step {d' : Desk World} (step : DeskStep d [] d') (held : OfScope Held d)
    (ready : OfScope Ready d) : OfScope Ready d' := by
  intro s hs
  cases step with
  | aside scope later => exact (ready s (scope ▸ hs)).later later
  | replaced fresh => exact ready_of_nil (fresh s hs)
  | called before token step after =>
    cases after.symm.trans hs
    exact ((ready _ before).later token).step ((held _ before).later token) step

/-- After any session the scope holds its handles. -/
theorem held_after (names : List String) (commands : List Command) :
    OfScope Held (after commands (opening names)).1 := by
  refine after_induction (P := OfScope Held) ?_ ?_
  · intro d command _ held
    exact (returns_step command).mono fun _ d' step => held_step step held
  · intro s hs
    cases hs

/-- After a session whose caller left the handles alone, only the first pending participant can have
lost its transaction. -/
theorem ready_after (names : List String) {commands : List Command}
    (hspare : ∀ command ∈ commands, command.ended = []) :
    OfScope Ready (after commands (opening names)).1 := by
  refine (after_induction (P := fun d => OfScope Held d ∧ OfScope Ready d) ?_ ?_).2
  · rintro d command hmem ⟨held, ready⟩
    refine (returns_step command).mono fun _ d' step => ⟨held_step step held, ?_⟩
    rw [hspare command hmem] at step
    exact ready_step step held ready
  · constructor <;>
    · intro s hs
      cases hs

/-- A scope whose disposal has begun, after commands that neither dispose of it nor replace it. -/
theorem disposing_after {s : Scope Nat} {between : List Command} {now : Desk World × Log}
    (hs : now.1.scope = some s) (hdisposing : s.disposing = true)
    (hkeeps : ∀ command ∈ between, command.keepsScope = true) :
    (after between now).1.scope = some s ∧
      World.Later (between.flatMap Command.ended) now.1.world (after between now).1.world := by
  refine after_induction (P := fun d => d.scope = some s ∧
    World.Later (between.flatMap Command.ended) now.1.world d.world) ?_ ⟨hs, .refl _ _⟩
  rintro d command hmem ⟨hscope, later⟩
  refine (returns_step_disposing hscope hdisposing command (hkeeps command hmem)).mono ?_
  rintro _ d' ⟨hscope', later'⟩
  have hmore : ∀ h ∈ command.ended, h ∈ between.flatMap Command.ended := fun h hh =>
    List.mem_flatMap.mpr ⟨command, hmem, hh⟩
  exact ⟨hscope', later.trans (later'.mono hmore)⟩

end Session

end UnitOfWork.Postgres
