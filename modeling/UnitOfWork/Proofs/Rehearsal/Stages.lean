import UnitOfWork.Proofs.Scope.Moves
import UnitOfWork.Rehearsal.Stage

/-!
# What connections on a stage do

Scripted connections keep three promises, whatever their script. A scripted failure happens once: the
call that takes it leaves nothing in the journal, and the next of its kind goes through
(`perform_after_failure`). A token that never fires changes nothing: a commit or a rollback that races it
ends as the one that does not (`commitRacing_quiet`, `rollbackRacing_quiet`). And time only goes on: names
stay, the journal grows and the clock does not turn back, in every call and so in every operation of a
scope over the stage (`Stage.Later`).

Nothing of it depends on what was recorded in the log.
-/

set_option autoImplicit false

namespace UnitOfWork.Rehearsal

namespace Stage

variable {stage : Stage} {c c' : Nat} {call call' : Call} {error : Option ParticipantError}

/-! ## Scripted failures -/

/-- The failure that the next call of a kind takes. -/
def failure? (stage : Stage) (c : Nat) (call : Call) : Option ParticipantError :=
  (stage.connections[c]?).bind fun conn => conn.failures call

/-- To arm a call is to say what the next call of its kind on its connection takes, and no other. -/
theorem failure?_failNext (known : c < stage.connections.length) :
    (stage.failNext c call error).failure? c' call' =
      if c = c' ∧ call' = call then error else stage.failure? c' call' := by
  unfold failure? failNext script
  rw [List.getElem?_modify]
  by_cases hc : c = c'
  · subst hc
    rw [List.getElem?_eq_getElem known]
    simp
  · simp [hc]

/-- To take a failure is to disarm the call. -/
theorem takeFailure_eq (stage : Stage) (c : Nat) (call : Call) :
    stage.takeFailure c call = match stage.failure? c call with
      | some e => (some e, stage.failNext c call none)
      | none => (none, stage) := rfl

/-- A call does as its script says: it fails and leaves no trace, or acts and is written down. -/
theorem perform_eq (stage : Stage) (c : Nat) (call : Call) (event : String → Event) :
    stage.perform c call event = match stage.failure? c call with
      | some e => (.error e, stage.failNext c call none)
      | none => (.ok (), stage.write (event (stage.name c))) := by
  unfold perform
  rw [takeFailure_eq]
  cases stage.failure? c call <;> rfl

/-- A scripted failure happens once. -/
theorem perform_after_failure {event : String → Event} {e : ParticipantError}
    (failed : (stage.perform c call event).1 = .error e) (later : String → Event) :
    (stage.perform c call event).2.journal = stage.journal ∧
      ((stage.perform c call event).2.perform c call later).1 = .ok () := by
  rw [perform_eq] at failed ⊢
  cases armed : stage.failure? c call with
  | none =>
    rw [armed] at failed
    cases failed
  | some e =>
    refine ⟨rfl, ?_⟩
    have known : c < stage.connections.length := by
      obtain ⟨conn, hconn, -⟩ := Option.bind_eq_some_iff.mp armed
      exact (List.getElem?_eq_some_iff.mp hconn).1
    rw [perform_eq, failure?_failNext known, if_pos ⟨rfl, rfl⟩]

/-! ## Tokens that never fire -/

/-- A token that has not fired and is not due. -/
def Quiet (stage : Stage) : Prop := stage.token = {}

/-- A wait under a token that never fires is over at its end. -/
theorem Quiet.waitUntil (quiet : stage.Quiet) (tick : Nat) :
    stage.waitUntil tick = (false, { stage with clock := tick }) := by
  unfold Stage.waitUntil
  rw [quiet]
  rfl

/-- A script that is left as it is leaves the stage as it is. -/
theorem script_same {change : Connection → Connection}
    (same : ∀ conn, stage.connections[c]? = some conn → change conn = conn) :
    stage.script c change = stage := by
  have hsame : stage.connections.modify c change = stage.connections := by
    apply List.ext_getElem?
    intro i
    rw [List.getElem?_modify]
    by_cases hi : c = i
    · subst hi
      cases hconn : stage.connections[c]? with
      | none => rfl
      | some conn => simp [same conn hconn]
    · simp [hi]
  unfold script
  rw [hsame]

/-- Without a hook, under a token that never fires, a call that races waits and acts. -/
theorem race_quiet {wait : Stage → Bool × Stage} {later : Stage}
    {act : Stage → Except ParticipantError Unit × Stage} (waited : wait stage = (false, later)) :
    stage.race none wait act = (.finished (act later).1, (act later).2) := by
  unfold race
  simp [waited]

/-- A commit that races a token that never fires is a commit. -/
theorem commitRacing_quiet (quiet : stage.Quiet)
    (unhooked : ∀ conn, stage.connections[c]? = some conn → conn.commitHooks = []) :
    stage.commitRacing c = (.finished (stage.commitInTime c).1, (stage.commitInTime c).2) := by
  have hook : ((stage.connections[c]?).bind fun conn => conn.commitHooks.head?) = none := by
    rw [Option.bind_eq_none_iff]
    intro conn hconn
    rw [unhooked conn hconn, List.head?_nil]
  have taken : stage.takeCommitHook c = (none, stage) := by
    unfold takeCommitHook
    rw [hook, script_same fun conn hconn => by
      rw [unhooked conn hconn, List.tail_nil, ← unhooked conn hconn]]
  have waited : stage.waitToCommit c = (false, { stage with
      clock := stage.clock + ((stage.connections[c]?).map Connection.commitTicks).getD 0 }) := by
    unfold waitToCommit
    split
    · next hticks => rw [hticks, Nat.add_zero]
    · next ticks hticks => rw [quiet.waitUntil]
  unfold commitRacing
  rw [taken]
  exact race_quiet waited

/-- A rollback that races it is a rollback. -/
theorem rollbackRacing_quiet (quiet : stage.Quiet)
    (unhooked : ∀ conn, stage.connections[c]? = some conn → conn.rollbackHooks = []) :
    stage.rollbackRacing c = (.finished (stage.rollback c).1, (stage.rollback c).2) := by
  have hook : ((stage.connections[c]?).bind fun conn => conn.rollbackHooks.head?) = none := by
    rw [Option.bind_eq_none_iff]
    intro conn hconn
    rw [unhooked conn hconn, List.head?_nil]
  have taken : stage.takeRollbackHook c = (none, stage) := by
    unfold takeRollbackHook
    rw [hook, script_same fun conn hconn => by
      rw [unhooked conn hconn, List.tail_nil, ← unhooked conn hconn]]
  unfold rollbackRacing
  rw [taken]
  exact race_quiet (quiet.waitUntil stage.clock)

/-! ## Time -/

/-- A stage at a later time. -/
structure Later (stage later : Stage) : Prop where
  names : later.connections.map Connection.name = stage.connections.map Connection.name
  journal : stage.journal <+: later.journal
  clock : stage.clock ≤ later.clock

/-- What is kept over one stretch on a stage and the next is kept over both. -/
theorem later_leading : Leading Later where
  refl _ := ⟨rfl, List.prefix_rfl, Nat.le_refl _⟩
  trans h h' := ⟨h'.names.trans h.names, h.journal.trans h'.journal, Nat.le_trans h.clock h'.clock⟩

/-- A change of script keeps the names. -/
theorem later_script {change : Connection → Connection}
    (same : ∀ conn, (change conn).name = conn.name) : stage.Later (stage.script c change) where
  names := by
    apply List.ext_getElem?
    intro i
    rw [List.getElem?_map, List.getElem?_map, script, List.getElem?_modify]
    cases stage.connections[i]? with
    | none => rfl
    | some conn => split <;> simp [same]
  journal := List.prefix_rfl
  clock := Nat.le_refl _

/-- Arming a call is a matter of the script alone. -/
theorem later_failNext : stage.Later (stage.failNext c call error) := later_script fun _ => rfl

/-- The journal grows by an entry. -/
theorem later_write (event : Event) : stage.Later (stage.write event) :=
  ⟨rfl, List.prefix_append _ _, Nat.le_refl _⟩

theorem later_fireToken : stage.Later stage.fireToken := ⟨rfl, List.prefix_rfl, Nat.le_refl _⟩

/-- The clock does not turn back. -/
theorem later_clock {tick : Nat} (h : stage.clock ≤ tick) : stage.Later { stage with clock := tick } :=
  ⟨rfl, List.prefix_rfl, h⟩

/-- A call fails by its script or is written down. -/
theorem later_perform {event : String → Event} : stage.Later (stage.perform c call event).2 := by
  rw [perform_eq]
  split
  · exact later_failNext
  · exact later_write _

/-- An ambient transaction is joined, or the call fails. -/
theorem later_join {found : Ambient} : stage.Later (stage.join c found).2 := by
  unfold join
  rw [takeFailure_eq]
  cases stage.failure? c .join with
  | some e => exact later_failNext
  | none =>
    show stage.Later (ite _ _ _ : Except ParticipantError Unit × Stage).2
    split
    · exact later_write _
    · exact later_leading.refl stage

/-- A begin is a call of its kind, and hands out a number besides. -/
theorem later_begin {isolation : IsolationLevel} : stage.Later (stage.begin c isolation).2 := by
  have performed : stage.Later (stage.perform c .begin (Event.began · isolation)).2 := later_perform
  unfold Stage.begin
  generalize stage.perform c .begin (Event.began · isolation) = r at performed ⊢
  obtain ⟨outcome, later⟩ := r
  cases outcome <;> exact performed

theorem later_commitInTime : stage.Later (stage.commitInTime c).2 :=
  later_leading.trans (later_clock (Nat.le_add_right _ _)) later_perform

/-- A wait turns the clock on, up to its end or to the moment of the token. -/
theorem later_waitUntil {tick : Nat} (h : stage.clock ≤ tick) :
    stage.Later (stage.waitUntil tick).2 := by
  unfold Stage.waitUntil
  split
  · exact later_leading.refl stage
  · split
    · split
      · exact later_leading.trans (later_clock (Nat.le_max_left _ _)) later_fireToken
      · exact later_clock h
    · exact later_clock h

/-- A slow commit waits for as long as its connection takes. -/
theorem later_waitToCommit : stage.Later (stage.waitToCommit c).2 := by
  unfold waitToCommit
  split
  · exact later_leading.refl stage
  · exact later_waitUntil (Nat.le_add_right _ _)

/-- A call that races waits at most once and acts at most once. -/
theorem later_race {hook : Option Hook} {wait : Stage → Bool × Stage}
    {act : Stage → Except ParticipantError Unit × Stage}
    (waits : ∀ stage : Stage, stage.Later (wait stage).2)
    (acts : ∀ stage : Stage, stage.Later (act stage).2) : stage.Later (stage.race hook wait act).2 := by
  have ready : stage.Later (if hook = some .fireThenAct then stage.fireToken else stage) := by
    split
    · exact later_fireToken
    · exact later_leading.refl stage
  unfold race
  split
  · exact later_fireToken
  · generalize (if hook = some .fireThenAct then stage.fireToken else stage) = begun at ready ⊢
    have waited := later_leading.trans ready (waits begun)
    have acted := later_leading.trans waited (acts _)
    dsimp only
    rcases hwait : wait begun with ⟨interrupted, later⟩
    rw [hwait] at waited acted
    cases interrupted with
    | true => exact waited
    | false =>
      dsimp only at acted ⊢
      split
      · exact later_leading.trans acted later_fireToken
      · split
        · exact later_leading.trans acted later_fireToken
        · exact acted

/-- A commit that races the token takes its hook, and then waits and acts once at most. -/
theorem later_commitRacing : stage.Later (stage.commitRacing c).2 := by
  have taken : stage.Later (stage.takeCommitHook c).2 := later_script fun _ => rfl
  exact later_leading.trans taken (later_race (fun _ => later_waitToCommit) fun _ => later_perform)

/-- A rollback that races the token does so without waiting. -/
theorem later_rollbackRacing : stage.Later (stage.rollbackRacing c).2 := by
  have taken : stage.Later (stage.takeRollbackHook c).2 := later_script fun _ => rfl
  exact later_leading.trans taken
    (later_race (fun _ => later_waitUntil (Nat.le_refl _)) fun _ => later_perform)

/-! ## Scopes over a stage -/

theorem adapter_moves (stage : Stage) (c : Nat) : (stage.adapter c).Moves .definite Later where
  beginOwn _ _ := Logic.definite_modifyGet later_begin
  joinAmbient _ _ := Logic.definite_modifyGet later_join

/-- Every call of a blocking scope only moves the stage on. -/
theorem blockingHost_moves : blockingHost.Moves .definite Later where
  toLeading := later_leading
  commit _ _ := Logic.definite_modifyGet later_perform
  rollback _ _ := Logic.definite_modifyGet later_perform
  release _ _ := Logic.definite_modifyGet (later_write _)
  log _ _ := Logic.definite_record (later_leading.refl _)

/-- So does every call of a suspending one. -/
theorem suspendingHost_moves : suspendingHost.Moves .definite Later where
  toLeading := later_leading
  commit _ _ := Logic.definite_modifyGet later_commitInTime
  rollback _ _ := Logic.definite_modifyGet later_perform
  release _ _ := Logic.definite_modifyGet (later_write _)
  log _ _ := Logic.definite_record (later_leading.refl _)

/-- So does every call under a token. -/
theorem racingHost_moves : racingHost.Moves .definite Later where
  toMoves := suspendingHost_moves
  isCancelled stage := Logic.definite_look (Logic.definite.pure (later_leading.refl stage))
  commitRacing _ _ := Logic.definite_modifyGet later_commitRacing
  rollbackRacing _ _ := Logic.definite_modifyGet later_rollbackRacing

end Stage

end UnitOfWork.Rehearsal
