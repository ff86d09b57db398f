import UnitOfWork.Proofs.Rehearsal.Stages
import UnitOfWork.Proofs.Scope.Usage
import UnitOfWork.Rehearsal.Session

/-!
# What a session keeps

Numbers are the only names in a session, so they must not change hands: a holder names the same ambient
transaction and a handle belongs to the same connection for as long as the session lasts, and a dropped
scope stays dropped. `Session.Later` says so, together with what holds of the stage and the ambient
transactions below. One command keeps it (`later_step`), so every session does (`later_after`), its end
included, and no answer of a session depends on what was recorded in the log.

The journal grows, except for the command that clears it.
-/

set_option autoImplicit false

namespace UnitOfWork.Rehearsal

/-- Whether a command keeps the journal. -/
def Command.keepsJournal : Command → Bool
  | .clearJournal => false
  | _ => true

namespace Session

/-- A session at a later time; its journal may have been cleared if it need not be kept. -/
structure Later (keeps : Bool) (session later : Session) : Prop where
  suspending : later.suspending = session.suspending
  names : later.stage.connections.map Connection.name =
    session.stage.connections.map Connection.name
  clock : session.stage.clock ≤ later.stage.clock
  journal : keeps = true → session.stage.journal <+: later.stage.journal
  ambients : session.ambients.Later later.ambients
  holders : session.holders <+: later.holders
  handles : session.handles <+: later.handles
  scopes : session.scopes.length ≤ later.scopes.length
  dropped : ∀ number : Nat, session.scopes[number]? = some none → later.scopes[number]? = some none

variable {keeps : Bool} {session : Session} {α : Type}

theorem later_refl (keeps : Bool) (session : Session) : session.Later keeps session :=
  ⟨rfl, rfl, Nat.le_refl _, fun _ => List.prefix_rfl, .refl _, List.prefix_rfl, List.prefix_rfl,
    Nat.le_refl _, fun _ h => h⟩

/-- What is kept over one stretch of a session and the next is kept over both. -/
theorem later_leading : Leading (Later keeps) where
  refl := later_refl keeps
  trans h h' :=
    { suspending := h'.suspending.trans h.suspending
      names := h'.names.trans h.names
      clock := Nat.le_trans h.clock h'.clock
      journal := fun hkeeps => (h.journal hkeeps).trans (h'.journal hkeeps)
      ambients := h.ambients.trans h'.ambients
      holders := h.holders.trans h'.holders
      handles := h.handles.trans h'.handles
      scopes := Nat.le_trans h.scopes h'.scopes
      dropped := fun number hnone => h'.dropped number (h.dropped number hnone) }

/-! ## What a command changes -/

/-- A session is later when its stage is. -/
theorem later_stage {stage : Stage} (h : session.stage.Later stage) :
    session.Later keeps { session with stage } :=
  { later_refl keeps session with
    names := h.names
    clock := h.clock
    journal := fun _ => h.journal }

/-- A session is later when its ambient transactions are. -/
theorem later_ambients {ambients : Ambients} (h : session.ambients.Later ambients) :
    session.Later keeps { session with ambients } :=
  { later_refl keeps session with ambients := h }

theorem later_holders (place : AmbientRef) :
    session.Later keeps { session with holders := session.holders ++ [place] } :=
  { later_refl keeps session with holders := List.prefix_append _ _ }

theorem later_handles (c : Nat) :
    session.Later keeps { session with handles := session.handles ++ [c] } :=
  { later_refl keeps session with handles := List.prefix_append _ _ }

/-- A new scope gets a number that no scope had before. -/
theorem later_newScope (s : Scope Nat) :
    session.Later keeps { session with scopes := session.scopes ++ [some s] } :=
  { later_refl keeps session with
    scopes := by simp
    dropped := fun number hnone => by
      obtain ⟨hlt, -⟩ := List.getElem?_eq_some_iff.mp hnone
      rw [List.getElem?_append_left hlt, hnone] }

/-- A scope that is there may be replaced. -/
theorem later_setScope {number : Nat} {s : Scope Nat} (present : session.scope? number = some s)
    (next : Option (Scope Nat)) : session.Later keeps (session.setScope number next) :=
  { later_refl keeps session with
    scopes := by simp [setScope]
    dropped := fun other hnone => by
      have hne : number ≠ other := by
        rintro rfl
        rw [scope?, hnone] at present
        cases present
      rw [setScope, List.getElem?_set_ne hne, hnone] }

/-! ## Steps of scopes -/

/-- A computation on the stage leaves the rest of the session alone. -/
theorem onStage_gives {x : StageM α} {P : α → Prop} (gives : Logic.definite.Gives Stage.Later P x)
    {Q : α → Session → Prop}
    (hQ : ∀ a stage, session.stage.Later stage → P a → Q a { session with stage }) :
    Logic.definite.Ensures (onStage x) session Q := by
  obtain ⟨a, stage, hreturns, hlater, hP⟩ := gives session.stage
  refine ⟨a, { session with stage }, fun log => ?_, hQ a stage hlater hP⟩
  obtain ⟨hresult, hstage⟩ := hreturns log
  exact ⟨hresult, congrArg (fun stage => { session with stage }) hstage⟩

/-- A computation on the stage is one of the session, whatever it returns. -/
theorem onStage_moves {x : StageM α} (moves : Logic.definite.Moves Stage.Later x)
    {Q : α → Session → Prop}
    (hQ : ∀ a stage, session.stage.Later stage → Q a { session with stage }) :
    Logic.definite.Ensures (onStage x) session Q :=
  onStage_gives (P := fun _ => True) (fun stage => Logic.definite.mono (moves stage) fun _ _ h =>
    ⟨h, trivial⟩) fun a stage hlater _ => hQ a stage hlater

/-- A step under the token of a command, or without one. -/
theorem racing_moves {cancellation : Option Cancellation}
    {step : Scope.RacingHost StageM Nat → StageM α}
    (moves : ∀ {host}, Scope.RacingHost.Moves .definite Stage.Later host →
      Logic.definite.Moves Stage.Later (step host)) :
    Logic.definite.Moves Stage.Later (racing cancellation step) := by
  cases cancellation with
  | none => exact moves Stage.suspendingHost_moves.uncancelled
  | some cancellation =>
    refine Stage.later_leading.bind (fun stage => Logic.definite_modify ?_) fun _ =>
      moves Stage.racingHost_moves
    exact ⟨rfl, List.prefix_rfl, Nat.le_refl _⟩

/-- The host of either discipline moves its stage on. -/
theorem host_moves (session : Session) : session.host.Moves .definite Stage.Later := by
  unfold host
  split
  · exact Stage.suspendingHost_moves
  · exact Stage.blockingHost_moves

section Steps

variable {number : Nat} {s : Scope Nat} (present : session.scope? number = some s)

include present

/-- The scope of a step is replaced once the step has been taken. -/
theorem later_stage_setScope {stage : Stage} (hstage : session.stage.Later stage)
    (next : Option (Scope Nat)) :
    session.Later keeps ({ session with stage }.setScope number next) :=
  have still : { session with stage }.scope? number = some s := present
  later_leading.trans (later_stage hstage) (later_setScope still next)

/-- A step of a scope is kept under the number of that scope. -/
theorem later_stepScope {step : StageM (Except TransactionError Unit × Scope Nat)}
    (moves : Logic.definite.Moves Stage.Later step) :
    Logic.definite.Ensures (stepScope number step) session fun _ later =>
      session.Later keeps later := by
  refine Logic.definite.bind (onStage_moves moves fun r stage hstage => ?_)
  refine Logic.definite.bind (Logic.definite_modify (Logic.definite.pure ?_))
  exact later_stage_setScope present hstage _

/-- A completion only moves the session on. -/
theorem later_complete (cancellation : Option Cancellation) :
    Logic.definite.Ensures (complete number cancellation s) session fun _ later =>
      session.Later keeps later := by
  refine Logic.definite_look ?_
  split
  · exact later_stepScope present (racing_moves fun h => h.complete s)
  · exact later_stepScope present (Stage.blockingHost_moves.complete s)

/-- So does a disposal, with a token or without. -/
theorem later_dispose (cancellation : Option Cancellation) :
    Logic.definite.Ensures (dispose number cancellation s) session fun _ later =>
      session.Later keeps later := by
  refine Logic.definite_look ?_
  split
  · exact later_stepScope present (racing_moves fun h => h.dispose s)
  · exact later_stepScope present (Stage.blockingHost_moves.dispose s)

/-- A dropped scope is gone. -/
theorem later_drop : Logic.definite.Ensures (drop number s) session fun _ later =>
    session.Later keeps later ∧ later.scopes[number]? = some none := by
  have hlt : number < session.scopes.length :=
    (List.getElem?_eq_some_iff.mp (Option.join_eq_some_iff.mp present)).1
  have gone (stage : Stage) (hstage : session.stage.Later stage) :
      Logic.definite.Ensures (modify (·.setScope number none)) { session with stage }
        fun (_ : PUnit) later => session.Later keeps later ∧ later.scopes[number]? = some none :=
    Logic.definite_modify ⟨later_stage_setScope present hstage none, List.getElem?_set_self hlt⟩
  refine Logic.definite_look ?_
  split
  · refine Logic.definite.bind (onStage_moves (Stage.suspendingHost_moves.suspendingDrop s) ?_)
    exact fun _ stage hstage => gone stage hstage
  · refine Logic.definite.bind (onStage_moves (Stage.blockingHost_moves.drop s) ?_)
    exact fun _ stage hstage => gone stage hstage

/-- An enlistment adds to the handles and to the ambient transactions, and takes nothing away. -/
theorem later_enlist (c : Nat) (offered : Option AmbientRef) :
    Logic.definite.Ensures (enlist number c offered s) session fun _ later =>
      session.Later keeps later := by
  have moves := host_moves session
  refine Logic.definite_look (Logic.definite.bind (onStage_gives
    (moves.enlisted (session.stage.adapter_moves c) offered session.ambients s) ?_))
  rintro ⟨outcome, s', ambients⟩ stage hstage counted
  have counted : ambients = session.ambients ∨
      ∃ place, ambients = session.ambients.after (.join place) := counted
  have later : session.ambients.Later ambients := by
    obtain rfl | ⟨place, rfl⟩ := counted
    · exact .refl _
    · exact Ambients.later_after _ _
  have enlisted : session.Later keeps
      { { session with stage }.setScope number (some s') with ambients } :=
    later_leading.trans (later_stage_setScope present hstage _) (later_ambients later)
  refine Logic.definite.bind (Logic.definite_modify ?_)
  match outcome with
  | .error e => exact Logic.definite.pure enlisted
  | .ok none => exact Logic.definite.pure enlisted
  | .ok (some handle) =>
    refine Logic.definite_look (Logic.definite.bind (Logic.definite_modify (Logic.definite.pure ?_)))
    exact later_leading.trans enlisted (later_handles handle)

end Steps

/-- A holder names an ambient transaction that is there. -/
theorem ambient?_stored {holder : Nat} {place : AmbientRef} {found : Ambient}
    (named : session.ambient? holder = some (place, found)) :
    session.ambients[place]? = some found := by
  obtain ⟨place, -, named⟩ := Option.bind_eq_some_iff.mp named
  obtain ⟨found, stored, named⟩ := Option.bind_eq_some_iff.mp named
  cases named
  exact stored

/-- An ending is that of the ambient transaction that a holder names. -/
theorem later_finishAmbient {place : AmbientRef} {found : Ambient} (ending : AmbientEnding)
    (stored : session.ambients[place]? = some found) :
    Logic.definite.Ensures (finishAmbient place found ending) session fun _ later =>
      session.Later keeps later := by
  unfold finishAmbient
  cases hfinish : found.finish ending with
  | error e => exact Logic.definite.pure (later_refl keeps session)
  | ok ended =>
    refine Logic.definite.bind (Logic.definite_modify (Logic.definite.bind
      (Logic.definite_record (Logic.definite.pure (later_ambients ?_)))))
    have hset : session.ambients.set place ended =
        session.ambients.after (.finish place ending) := by
      apply List.ext_getElem?
      intro other
      obtain ⟨hlt, hget⟩ := List.getElem?_eq_some_iff.mp stored
      rw [Ambients.after, List.getElem?_modify, List.getElem?_set]
      by_cases hplace : place = other
      · subst hplace
        simp [hlt, hget, hfinish, Except.toOption]
      · simp [hplace]
    rw [hset]
    exact Ambients.later_after _ _

/-- A change of script is no step in time. -/
theorem later_rescript {change : Stage → Stage} (h : session.stage.Later (change session.stage)) :
    Logic.definite.Ensures (rescript change) session fun _ later => session.Later keeps later :=
  Logic.definite.bind (Logic.definite_modify (Logic.definite.pure (later_stage h)))

/-! ## The main statements -/

/-- A call on a handle is a step of the stage. -/
theorem later_callHandle (c : Nat) (call : HandleCall) :
    Logic.definite.Ensures (callHandle c call) session fun _ later => session.Later keeps later := by
  have moves := host_moves session
  cases call with
  | commit =>
    exact Logic.definite_look (Logic.definite.bind (onStage_moves (moves.commit c)
      fun _ _ hstage => Logic.definite.pure (later_stage hstage)))
  | rollback =>
    exact Logic.definite_look (Logic.definite.bind (onStage_moves (moves.rollback c)
      fun _ _ hstage => Logic.definite.pure (later_stage hstage)))
  | release =>
    exact Logic.definite_look (Logic.definite.bind (onStage_moves (moves.release c)
      fun _ _ hstage => Logic.definite.pure (later_stage hstage)))

/-- A command that does nothing leads nowhere. -/
theorem later_idle {answer : Option Answer} :
    Logic.definite.Ensures (pure answer : SessionM (Option Answer)) session
      fun _ later => session.Later keeps later :=
  Logic.definite.pure (later_refl keeps session)

/-- An enlistment leads on. It does nothing where the scope, the connection or the holder is missing. -/
theorem later_enlisting (number c : Nat) (holder : Option Nat) :
    Logic.definite.Ensures (step (.enlist number c holder)) session
      fun _ later => session.Later keeps later := by
  refine Logic.definite_look ?_
  split
  · next s conn present known =>
    cases holder with
    | none => exact Logic.map (later_enlist present c none)
    | some holder =>
      dsimp only
      cases session.holders[holder]? with
      | none => exact later_idle
      | some place => exact Logic.map (later_enlist present c (some place))
  · exact later_idle

/-- Beginning a transaction past every scope leads on, and so does its handle. -/
theorem later_beginning (c : Nat) (isolation : IsolationLevel) :
    Logic.definite.Ensures (step (.begin c isolation)) session
      fun _ later => session.Later keeps later := by
  have moves : Logic.definite.Moves Stage.Later
      (modifyGet (·.begin c isolation) : StageM (Except ParticipantError Nat)) :=
    fun _ => Logic.definite_modifyGet Stage.later_begin
  refine Logic.definite.bind (onStage_moves moves fun outcome stage hstage => ?_)
  cases outcome with
  | error e => exact Logic.definite.pure (later_stage hstage)
  | ok handle =>
    refine Logic.definite_look (Logic.definite.bind (Logic.definite_modify
      (Logic.definite.pure ?_)))
    exact later_leading.trans (later_stage hstage) (later_handles handle)

/-- Joining an ambient transaction past every scope leads on. -/
theorem later_joining (c holder : Nat) :
    Logic.definite.Ensures (step (.join c holder)) session
      fun _ later => session.Later keeps later := by
  refine Logic.definite_look ?_
  cases session.ambient? holder with
  | none => exact later_idle
  | some pair =>
    have moves : Logic.definite.Moves Stage.Later
        (modifyGet (·.join c pair.2) : StageM (Except ParticipantError Unit)) :=
      fun _ => Logic.definite_modifyGet Stage.later_join
    exact Logic.definite.bind (onStage_moves moves fun _ _ hstage =>
      Logic.definite.pure (later_stage hstage))

/-- A command leads on, and neither its answer nor the session after it depends on the log. -/
theorem later_step (command : Command) (session : Session) :
    Logic.definite.Ensures (step command) session fun _ later =>
      session.Later command.keepsJournal later := by
  cases command with
  | new isolation preferAmbient =>
    exact Logic.definite.bind (Logic.definite_modify (Logic.definite.pure (later_newScope _)))
  | beginAmbient isolation =>
    refine Logic.definite_look (Logic.definite.bind (Logic.definite_record ?_))
    refine Logic.definite.bind (Logic.definite_modify (Logic.definite.pure ?_))
    exact later_leading.trans
      (later_ambients (Ambients.later_after session.ambients (.begin _ isolation)))
      (later_holders _)
  | copyAmbient holder =>
    refine Logic.definite_look ?_
    cases session.holders[holder]? with
    | none => exact later_idle
    | some place =>
      exact Logic.definite.bind (Logic.definite_modify (Logic.definite.pure (later_holders place)))
  | sameAmbient holder other => exact Logic.definite_look later_idle
  | finishAmbient holder ending =>
    refine Logic.definite_look ?_
    cases named : session.ambient? holder with
    | none => exact later_idle
    | some pair => exact Logic.map (later_finishAmbient ending (ambient?_stored named))
  | failNext c call error => exact Logic.map (later_rescript Stage.later_failNext)
  | slowCommits c ticks => exact Logic.map (later_rescript (Stage.later_script fun _ => rfl))
  | hookCommit c hook => exact Logic.map (later_rescript (Stage.later_script fun _ => rfl))
  | hookRollback c hook => exact Logic.map (later_rescript (Stage.later_script fun _ => rfl))
  | enlist number c holder => exact later_enlisting number c holder
  | begin c isolation => exact later_beginning c isolation
  | join c holder => exact later_joining c holder
  | handle i call =>
    refine Logic.definite_look ?_
    cases session.handles[i]? with
    | none => exact later_idle
    | some c => exact Logic.map (later_callHandle c call)
  | complete number cancellation =>
    refine Logic.definite_look ?_
    cases present : session.scope? number with
    | none => exact later_idle
    | some s => exact Logic.map (later_complete present cancellation)
  | dispose number cancellation =>
    refine Logic.definite_look ?_
    cases present : session.scope? number with
    | none => exact later_idle
    | some s => exact Logic.map (later_dispose present cancellation)
  | drop number =>
    refine Logic.definite_look ?_
    cases present : session.scope? number with
    | none => exact later_idle
    | some s =>
      exact Logic.definite.bind (Logic.definite.mono (later_drop present) fun _ _ h =>
        Logic.definite.pure h.1)
  | clearJournal =>
    refine Logic.map (Logic.definite.bind (Logic.definite_modify (Logic.definite.pure ?_)))
    exact { later_refl false session with journal := nofun }
  | «show» number => exact Logic.definite_look later_idle

/-- The answer to a command, with the session and the log after it. -/
def next (now : Session × Log) (command : Command) : Option Answer × (Session × Log) :=
  let r := ((step command).run now.1).run now.2
  (r.1.1, (r.1.2, r.2))

/-- The session and the log after a list of commands. -/
def after (now : Session × Log) (commands : List Command) : Session × Log :=
  commands.foldl (fun now command => (next now command).2) now

/-- A list of commands leads on, by induction on it, and clears the journal only if one of them does. -/
theorem later_after (now : Session × Log) {commands : List Command}
    (hkeeps : keeps = true → ∀ command ∈ commands, command.keepsJournal = true) :
    now.1.Later keeps (after now commands).1 := by
  induction commands generalizing now with
  | nil => exact later_refl keeps now.1
  | cons command rest ih =>
    obtain ⟨answer, later, hreturns, hlater⟩ := later_step command now.1
    have hnext : (next now command).2.1 = later := (hreturns now.2).2
    have first : now.1.Later keeps (next now command).2.1 := by
      rw [hnext]
      exact { hlater with
        journal := fun kept => hlater.journal (hkeeps kept command List.mem_cons_self) }
    exact later_leading.trans first (ih _ fun kept other hother =>
      hkeeps kept other (List.mem_cons_of_mem command hother))

/-- What is answered does not depend on what was recorded before, nor does the session afterwards. -/
theorem next_of_log (session : Session) (command : Command) (log log' : Log) :
    (next (session, log) command).1 = (next (session, log') command).1 ∧
      (next (session, log) command).2.1 = (next (session, log') command).2.1 := by
  obtain ⟨answer, later, hreturns, -⟩ := later_step command session
  obtain ⟨hanswer, hlater⟩ := hreturns log
  obtain ⟨hanswer', hlater'⟩ := hreturns log'
  exact ⟨hanswer.trans hanswer'.symm, hlater.trans hlater'.symm⟩

/-- Dropping what is left of a scope. -/
theorem later_finished (keeps : Bool) (number : Nat) (session : Session) :
    Logic.definite.Ensures (do
      match (← get).scope? number with
      | none => pure ()
      | some s => drop number s : SessionM Unit) session fun _ later =>
        session.Later keeps later ∧
          (number < session.scopes.length → later.scopes[number]? = some none) := by
  refine Logic.definite_look ?_
  cases present : session.scope? number with
  | some s =>
    exact Logic.definite.mono (later_drop present) fun _ _ h => ⟨h.1, fun _ => h.2⟩
  | none =>
    refine Logic.definite.pure ⟨later_refl keeps session, fun hlt => ?_⟩
    have hjoin : session.scopes[number] = none := by
      rw [scope?, List.getElem?_eq_getElem hlt] at present
      exact present
    rw [List.getElem?_eq_getElem hlt, hjoin]

/-- In the end every scope that was there is dropped, and no other scope comes up. -/
theorem later_finishEach (keeps : Bool) (numbers : List Nat) (session : Session) :
    Logic.definite.Ensures (numbers.forM fun number => do
      match (← get).scope? number with
      | none => pure ()
      | some s => drop number s : SessionM Unit) session fun _ later =>
        session.Later keeps later ∧ ∀ number ∈ numbers,
          number < session.scopes.length → later.scopes[number]? = some none := by
  induction numbers generalizing session with
  | nil => exact Logic.definite.pure ⟨later_refl keeps session, nofun⟩
  | cons number rest ih =>
    refine Logic.definite.bind (Logic.definite.mono (later_finished keeps number session) ?_)
    rintro _ next ⟨first, gone⟩
    refine Logic.definite.mono (ih next) ?_
    rintro _ later ⟨second, hrest⟩
    refine ⟨later_leading.trans first second, List.forall_mem_cons.mpr ⟨fun hlt => ?_, ?_⟩⟩
    · exact second.dropped number (gone hlt)
    · exact fun other hother hlt => hrest other hother (Nat.lt_of_lt_of_le hlt first.scopes)

/-- The end of a session leads on as well, and leaves no scope. -/
theorem later_finish (session : Session) :
    Logic.definite.Ensures finish session fun _ later => session.Later keeps later ∧
      ∀ number, number < session.scopes.length → later.scopes[number]? = some none := by
  refine Logic.definite_look (Logic.definite.mono (later_finishEach keeps _ session) ?_)
  rintro _ later ⟨hlater, gone⟩
  exact ⟨hlater, fun number hlt => gone number (List.mem_range.mpr hlt) hlt⟩

end Session

end UnitOfWork.Rehearsal
