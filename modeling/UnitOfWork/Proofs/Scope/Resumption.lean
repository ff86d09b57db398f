import UnitOfWork.Proofs.Scope.Completion
import UnitOfWork.Proofs.Scope.Reports

/-!
# Disposals that resume

A disposal that its token stops leaves the scope open with every handle, closed to all but another
disposal. Nothing else is kept of how far it came than the standing of the participants: the next
disposal begins at the first that is neither committed nor rolled back, and calls its rollback again if
the token had interrupted it.

The main statement is `dispose_resumes`, over any number of stopped disposals and one that gets through.
Together they roll back exactly the participants that stood enlisted at the start, each to the end once
and in order. Whether those rollbacks succeeded is not asked here.
-/

set_option autoImplicit false

namespace UnitOfWork.Scope

open Participant (rollbackCall)

/-! ## The statement -/

/-- The numbers of the participants that are neither committed nor rolled back, in order. -/
def awaiting (ps : List (Participant Nat)) : List Nat :=
  (ps.filter fun p => p.standing == .enlisted).map Participant.index

/-- The transaction of a rollback that ran to its end. -/
def Call.rolledBack? : Call → Option Nat
  | .rollback i (.finished _) => some i
  | _ => none

/-- The transactions whose rollbacks ran to their ends, in the order of the calls. -/
def finishedRollbacks (calls : List Call) : List Nat := calls.filterMap Call.rolledBack?

/-- What a disposal leaves that its token stopped at a participant. -/
structure StoppedAt (d : Disposal) (w : Usage) (k : Nat) (outcomeUnknown : Bool) : Prop where
  first : (awaiting w.scope.participants).head? = some k
  outcome : ∃ p : Participant Nat, w.scope.participants[k]? = some p ∧
    d.outcome = .error (.cancelled p.name k .rollback outcomeUnknown)
  flight : outcomeUnknown = true ↔ .rollback k .interrupted ∈ d.calls
  state : w.scope.state = .opened
  held : w.scope.participants.map Participant.handle =
    (List.range w.scope.participants.length).map some
  enlist : ∀ applicant offered, ∃ reason,
    w.enlist applicant offered = (.error (.state "enlist" reason), w)
  complete : ∀ answers token, ∃ reason,
    w.complete .suspending answers token = (.error (.state "complete" reason), w)
  /-- The next disposal begins there, unless its token stops it before it calls anything. -/
  next : ∀ answers token, (rollbacks (w.disposal answers token).calls).head? = some k ∨
    (w.disposal answers token).calls = [] ∧ (w.disposal answers token).Stopped

/-- What a sequence of disposals comes to whose last gets through. -/
structure RolledBackOnce (u : Usage) (ds : List Disposal) (last : Usage) : Prop where
  held : u.scope.participants.map Participant.handle =
    (List.range u.scope.participants.length).map some
  finished : finishedRollbacks (ds.flatMap Disposal.calls) = awaiting u.scope.participants
  others : ∀ i ∈ rollbacks (ds.flatMap Disposal.calls), i ∈ awaiting u.scope.participants
  state : last.scope.state = .disposed
  standing : ∀ i ∈ awaiting u.scope.participants, ∃ p : Participant Nat,
    last.scope.participants[i]? = some p ∧ p.standing = .rolledBack
  released : releases (ds.flatMap Disposal.calls) = List.range u.scope.participants.length
  given : ∀ p ∈ last.scope.participants, p.handle = none

/-! ## The rollbacks of a round, by number -/

section Awaiting

theorem awaiting_append (ps qs : List (Participant Nat)) :
    awaiting (ps ++ qs) = awaiting ps ++ awaiting qs := by
  simp only [awaiting, List.filter_append, List.map_append]

/-- A participant is awaited as long as it is enlisted. -/
theorem awaiting_cons (p : Participant Nat) (ps : List (Participant Nat)) :
    awaiting (p :: ps) = (if p.standing = .enlisted then [p.index] else []) ++ awaiting ps := by
  unfold awaiting
  by_cases h : p.standing = .enlisted
  · rw [if_pos h, List.filter_cons_of_pos (by simpa using h)]
    rfl
  · rw [if_neg h, List.filter_cons_of_neg (by simpa using h), List.nil_append]

/-- Who holds a handle is pending exactly while enlisted. -/
theorem Participant.isPending_of_held {p : Participant Nat} {i : Nat} (h : p.handle = some i) :
    p.isPending = true ↔ p.standing = .enlisted := by
  rw [Participant.isPending_iff, h]
  simp only [Option.isSome_some, and_true]

/-- Nobody who holds a handle is awaited after a round of rollbacks. -/
theorem awaiting_settled {ps : List (Participant Nat)} (h : ∀ p ∈ ps, p.handle = some p.index) :
    awaiting (ps.map Participant.settled) = [] := by
  unfold awaiting
  rw [List.map_eq_nil_iff, List.filter_eq_nil_iff]
  refine List.forall_mem_map.mpr fun p hp => ?_
  have hheld : p.handle.isSome = true := by rw [h p hp]; rfl
  simpa using Participant.settled_ne_enlisted hheld

/-- A round of rollbacks calls those that are awaited. -/
theorem rollbackCalls_awaiting (answers : Answers) {ps : List (Participant Nat)}
    (h : ∀ p ∈ ps, p.handle = some p.index) :
    ps.flatMap (rollbackCall answers) = rollbacksOf answers (awaiting ps) := by
  induction ps with
  | nil => rfl
  | cons p rest ih =>
    obtain ⟨hp, hrest⟩ := List.forall_mem_cons.mp h
    rw [List.flatMap_cons, awaiting_cons, ih hrest]
    by_cases hstanding : p.standing = .enlisted
    · rw [if_pos hstanding,
        rollbackCall_of_pending answers ((Participant.isPending_of_held hp).mpr hstanding) hp]
      rfl
    · have hpending : p.isPending = false := by
        rw [← Bool.not_eq_true, Participant.isPending_of_held hp]
        exact hstanding
      rw [if_neg hstanding, rollbackCall_of_not_pending answers hpending]
      rfl

end Awaiting

section Calls

variable {calls more : List Call} (answers : Answers) (transactions : List Nat) (i : Nat)
  (outcomeUnknown : Bool)

theorem finishedRollbacks_append :
    finishedRollbacks (calls ++ more) = finishedRollbacks calls ++ finishedRollbacks more :=
  List.filterMap_append

/-- Calls of other ranks finish no rollback. -/
theorem finishedRollbacks_of_rank (h : ∀ c ∈ calls, c.rank ≠ 2) : finishedRollbacks calls = [] :=
  List.filterMap_eq_nil_iff.mpr fun c hc => by
    have := h c hc
    cases c with
    | rollback => exact absurd rfl this
    | _ => rfl

/-- The rollbacks of some transactions roll back these, in order. -/
theorem rollbacks_rollbacksOf : rollbacks (rollbacksOf answers transactions) = transactions := by
  simp only [rollbacks, rollbacksOf, List.filterMap_map, Function.comp_def, Call.rollingBack?,
    List.filterMap_some]

/-- Each of them runs to its end. -/
theorem finishedRollbacks_rollbacksOf :
    finishedRollbacks (rollbacksOf answers transactions) = transactions := by
  simp only [finishedRollbacks, rollbacksOf, List.filterMap_map, Function.comp_def,
    Call.rolledBack?, List.filterMap_some]

theorem rank_rollbacksOf : ∀ c ∈ rollbacksOf answers transactions, c.rank = 2 :=
  List.forall_mem_map.mpr fun _ _ => rfl

/-- A rollback that was interrupted in flight was called, and one that was not sent was not. -/
theorem rollbacks_interruptedRollback :
    rollbacks (interruptedRollback i outcomeUnknown) = if outcomeUnknown then [i] else [] := by
  cases outcomeUnknown <;> rfl

/-- Either way it did not run to its end. -/
theorem finishedRollbacks_interruptedRollback :
    finishedRollbacks (interruptedRollback i outcomeUnknown) = [] := by
  cases outcomeUnknown <;> rfl

/-- An interrupted rollback among the calls of a disposal. -/
theorem interrupted_mem_iff : .rollback i .interrupted ∈ rollbacksOf answers transactions ++
    interruptedRollback i outcomeUnknown ↔ outcomeUnknown = true := by
  have hnone : Call.rollback i .interrupted ∉ rollbacksOf answers transactions := by
    intro hmem
    obtain ⟨j, -, hj⟩ := List.mem_map.mp hmem
    cases hj
  rw [List.mem_append]
  cases outcomeUnknown <;> simp [interruptedRollback, hnone]

end Calls

/-! ## One disposal -/

/-- A scope with transactions of its own that may still be rolled back. -/
structure Resumable (u : Usage) : Prop where
  sound : Sound u
  ledger : Ledger .suspending u
  mode : u.scope.mode = some .own
  state : u.scope.state = .opened

/-- What a disposal did that was stopped: the rollbacks of those in front, and maybe one that was
interrupted. -/
structure Paused (answers : Answers) (v : Usage) (d : Disposal) (w : Usage) (front back : List Nat)
    (k : Nat) (outcomeUnknown : Bool) : Prop where
  before : awaiting v.scope.participants = front ++ k :: back
  after : awaiting w.scope.participants = k :: back
  calls : d.calls = rollbacksOf answers front ++ interruptedRollback k outcomeUnknown
  outcome : ∃ p : Participant Nat, w.scope.participants[k]? = some p ∧
    d.outcome = .error (.cancelled p.name k .rollback outcomeUnknown)
  disposing : w.scope.disposing = true

/-- What a disposal did that got through. -/
structure Finished (answers : Answers) (v : Usage) (d : Disposal) (w : Usage) : Prop where
  calls : d.calls = rollbacksOf answers (awaiting v.scope.participants) ++
    releaseCalls v.scope.participants
  through : ¬ d.Stopped
  state : w.scope.state = .disposed

/-- What a disposal reports that got through is no cancellation. -/
theorem disposal_ne_cancelled (failures : List RollbackFailure) (name : String) (index : Nat)
    (phase : Phase) (outcomeUnknown : Bool) :
    disposal failures ≠ .error (.cancelled name index phase outcomeUnknown) := by
  unfold disposal
  split <;> simp only [ne_eq, reduceCtorEq, not_false_eq_true, Except.error.injEq]

namespace Resumable

variable {u : Usage}

/-- A scope that resumes has every handle, by the numbers of the participants. -/
theorem handle_eq_index (h : Resumable u) :
    ∀ p ∈ u.scope.participants, p.handle = some p.index := by
  intro p hp
  have hheld := (h.sound.own h.mode).held (not_disposed h.state) p hp
  obtain ⟨j, hj⟩ := Option.isSome_iff_exists.mp hheld
  rw [hj, h.ledger.handle_eq_index h.sound hp j hj]

/-- Who is awaited stands enlisted in the place of its number. -/
theorem mem_awaiting (h : Resumable u) {i : Nat} : i ∈ awaiting u.scope.participants ↔
    ∃ p : Participant Nat, u.scope.participants[i]? = some p ∧ p.standing = .enlisted := by
  unfold awaiting
  simp only [List.mem_map, List.mem_filter, beq_iff_eq]
  constructor
  · rintro ⟨p, ⟨hp, hstanding⟩, rfl⟩
    obtain ⟨k, hk⟩ := List.mem_iff_getElem?.mp hp
    refine ⟨p, ?_, hstanding⟩
    rwa [h.sound.coherent.index k p hk]
  · rintro ⟨p, hp, hstanding⟩
    exact ⟨p, ⟨List.mem_of_getElem? hp, hstanding⟩, h.sound.coherent.index i p hp⟩

/-- A disposal either stops at a participant that is awaited, or rolls back all of them. -/
theorem dispose (h : Resumable u) (answers : Answers) (token : Option Token) :
    let w := (u.dispose .suspending answers token).2
    (∃ front back k outcomeUnknown,
      Paused answers u (u.disposal answers token) w front back k outcomeUnknown ∧ Resumable w) ∨
      Finished answers u (u.disposal answers token) w := by
  intro w
  have hsound := sound_dispose h.sound .suspending answers token
  have hledger := ledger_dispose h.sound h.ledger answers token
  have hheld := h.handle_eq_index
  have hneeds : u.scope.needsRollback = true := (needsRollback_iff _).mpr ⟨h.mode, h.state⟩
  have hstep := disposeStep u .suspending answers token
  unfold Usage.disposal
  change Sound w at hsound
  change Ledger .suspending w at hledger
  simp only [w] at hsound hledger ⊢
  clear w
  generalize u.dispose .suspending answers token = r at hstep hsound hledger ⊢
  cases hstep with
  | again disposed => exact absurd disposed (not_disposed h.state)
  | quiet state needs => cases hneeds.symm.trans needs
  | through needs =>
    refine .inr ⟨?_, ?_, rfl⟩
    · simp only [List.append_assoc, List.drop_left, rollbackCalls_awaiting answers hheld]
    · rintro ⟨name, index, outcomeUnknown, hcancelled⟩
      exact disposal_ne_cancelled _ name index .rollback outcomeUnknown hcancelled
  | @stopped settled rest p i outcomeUnknown needs split pending handle stops =>
    rw [split] at hheld
    obtain ⟨hfront, hback⟩ := List.forall_mem_append.mp hheld
    obtain ⟨hp, -⟩ := List.forall_mem_cons.mp hback
    obtain rfl : p.index = i := Option.some.inj (hp.symm.trans handle)
    have hstanding : p.standing = .enlisted := (Participant.isPending_of_held hp).mp pending
    refine .inl ⟨awaiting settled, awaiting rest, p.index, outcomeUnknown, ?_,
      ⟨hsound, hledger, h.mode, h.state⟩⟩
    exact
      { before := by
          rw [split, awaiting_append, awaiting_cons, if_pos hstanding]
          rfl
        after := by
          rw [awaiting_append, awaiting_settled hfront, awaiting_cons, if_pos hstanding]
          rfl
        calls := by
          simp only [List.append_assoc, List.drop_left, rollbackCalls_awaiting answers hfront]
        outcome := by
          refine ⟨p, ?_, rfl⟩
          have hmem : p ∈ settled.map Participant.settled ++ p :: rest :=
            List.mem_append_right _ List.mem_cons_self
          obtain ⟨k, hk⟩ := List.mem_iff_getElem?.mp hmem
          have hindex := hsound.coherent.index k p hk
          rwa [hindex]
        disposing := rfl }

/-- A disposal begins at the first participant that is awaited. -/
theorem begins (h : Resumable u) {k : Nat}
    (hfirst : (awaiting u.scope.participants).head? = some k) (answers : Answers)
    (token : Option Token) : (rollbacks (u.disposal answers token).calls).head? = some k ∨
      (u.disposal answers token).calls = [] ∧ (u.disposal answers token).Stopped := by
  rcases h.dispose answers token with ⟨front, back, j, outcomeUnknown, hpaused, -⟩ | hfinished
  · rw [hpaused.before] at hfirst
    rw [hpaused.calls, rollbacks_append, rollbacks_rollbacksOf, rollbacks_interruptedRollback]
    cases front with
    | cons i front => exact .inl hfirst
    | nil =>
      obtain rfl : j = k := Option.some.inj hfirst
      obtain ⟨p, -, houtcome⟩ := hpaused.outcome
      cases outcomeUnknown with
      | true => exact .inl rfl
      | false => exact .inr ⟨rfl, p.name, j, false, houtcome⟩
  · left
    rw [hfinished.calls, rollbacks_append, rollbacks_rollbacksOf, rollbacks_releaseCalls,
      List.append_nil, hfirst]

end Resumable

/-- A disposal without a token gets through. -/
theorem not_stopped_of_no_token (u : Usage) (answers : Answers) :
    ¬ (u.disposal answers none).Stopped := by
  rintro ⟨name, index, outcomeUnknown, hcancelled⟩
  have hstep := disposeStep u .suspending answers none
  unfold Usage.disposal at hcancelled
  generalize u.dispose .suspending answers none = r at hstep hcancelled
  cases hstep with
  | again disposed => cases hcancelled
  | quiet state needs => cases hcancelled
  | through needs => exact disposal_ne_cancelled _ name index .rollback outcomeUnknown hcancelled
  | stopped needs split pending handle stops => exact Token.never_stops stops

/-- Where a stopped disposal leaves the scope, as its holder sees it. -/
theorem Paused.stoppedAt {answers : Answers} {v w : Usage} {d : Disposal} {front back : List Nat}
    {k : Nat} {outcomeUnknown : Bool} (h : Paused answers v d w front back k outcomeUnknown)
    (hw : Resumable w) : StoppedAt d w k outcomeUnknown := by
  have hfirst : (awaiting w.scope.participants).head? = some k := by
    rw [h.after]
    rfl
  have hclosed : w.scope.enlistObstacle ≠ none := by
    intro hopen
    obtain ⟨-, hdisposing, -⟩ := (enlistObstacle_eq_none_iff _).mp hopen
    cases hdisposing.symm.trans h.disposing
  exact
    { first := hfirst
      outcome := h.outcome
      flight := by rw [h.calls, interrupted_mem_iff]
      state := hw.state
      held := hw.ledger.map_handle hw.sound (not_disposed hw.state) hw.mode
      enlist := enlist_refused hclosed
      complete := complete_refused hclosed .suspending
      next := hw.begins hfirst }

/-! ## A sequence of disposals -/

namespace Usage

/-- Which participants are committed. -/
def committed (u : Usage) : List Bool :=
  u.scope.participants.map fun p => p.standing == .committed

/-- Disposals commit nobody, and undo no commit. -/
theorem committed_dispose (u : Usage) (answers : Answers) (token : Option Token) :
    (u.dispose .suspending answers token).2.committed = u.committed := by
  have hsettled (p : Participant Nat) :
      (p.settled.standing == .committed) = (p.standing == .committed) := by
    rw [Bool.eq_iff_iff, beq_iff_eq, beq_iff_eq, Participant.settled_committed_iff]
  have hstep := disposeStep u .suspending answers token
  generalize u.dispose .suspending answers token = r at hstep ⊢
  cases hstep with
  | again disposed => rfl
  | quiet state needs =>
    simp only [committed, closed, List.map_map]
    rfl
  | through needs =>
    simp only [committed, closed, List.map_map, Function.comp_def, Participant.released, hsettled]
  | stopped needs split pending handle stops =>
    simp only [committed, split, List.map_append, List.map_map, Function.comp_def, hsettled]

/-- Disposals one after another are some of them and then the others. -/
theorem disposeEach_append (u : Usage) (first second : List (Answers × Option Token)) :
    u.disposeEach (first ++ second) =
      ((u.disposeEach first).1 ++ ((u.disposeEach first).2.disposeEach second).1,
        ((u.disposeEach first).2.disposeEach second).2) := by
  induction first generalizing u with
  | nil => rfl
  | cons disposal rest ih =>
    obtain ⟨answers, token⟩ := disposal
    simp only [List.cons_append, disposeEach, ih]

end Usage

/-- How far a sequence of stopped disposals has come. -/
structure Progress (u : Usage) (ds : List Disposal) (v : Usage) : Prop where
  resumable : Resumable v
  finished : finishedRollbacks (ds.flatMap Disposal.calls) ++ awaiting v.scope.participants =
    awaiting u.scope.participants
  others : ∀ i ∈ rollbacks (ds.flatMap Disposal.calls), i ∈ awaiting u.scope.participants
  released : releases (ds.flatMap Disposal.calls) = []
  committed : v.committed = u.committed

/-- One more disposal in front that was stopped. -/
theorem Paused.progress {answers : Answers} {u v w : Usage} {d : Disposal} {ds : List Disposal}
    {front back : List Nat} {k : Nat} {outcomeUnknown : Bool}
    (h : Paused answers u d v front back k outcomeUnknown) (hcommitted : v.committed = u.committed)
    (hw : Progress v ds w) : Progress u (d :: ds) w where
  resumable := hw.resumable
  finished := by
    rw [List.flatMap_cons, finishedRollbacks_append, List.append_assoc, hw.finished, h.calls,
      finishedRollbacks_append, finishedRollbacks_rollbacksOf,
      finishedRollbacks_interruptedRollback, h.before, h.after, List.append_nil]
  others := by
    have hlater : ∀ i ∈ awaiting v.scope.participants, i ∈ awaiting u.scope.participants := by
      intro i hi
      rw [h.after] at hi
      rw [h.before]
      exact List.mem_append_right front hi
    intro i hi
    rw [List.flatMap_cons, rollbacks_append, h.calls, rollbacks_append, rollbacks_rollbacksOf,
      rollbacks_interruptedRollback] at hi
    rcases List.mem_append.mp hi with hi | hi
    · rw [h.before]
      rcases List.mem_append.mp hi with hi | hi
      · exact List.mem_append_left _ hi
      · cases outcomeUnknown with
        | false => cases hi
        | true =>
          obtain rfl := List.mem_singleton.mp hi
          exact List.mem_append_right front List.mem_cons_self
    · exact hlater i (hw.others i hi)
  released := by
    have hnone : releases d.calls = [] := releases_of_rank fun c hc => by
      rw [h.calls] at hc
      rcases List.mem_append.mp hc with hc | hc
      · rw [rank_rollbacksOf answers front c hc]
        omega
      · rw [rank_interruptedRollback c hc]
        omega
    rw [List.flatMap_cons, releases_append, hnone, hw.released, List.append_nil]
  committed := hw.committed.trans hcommitted

/-- Stopped disposals make progress and keep the scope resumable. -/
theorem progress_of_stopped {u : Usage} (h : Resumable u)
    {disposals : List (Answers × Option Token)}
    (hstopped : ∀ d ∈ (u.disposeEach disposals).1, d.Stopped) :
    Progress u (u.disposeEach disposals).1 (u.disposeEach disposals).2 := by
  induction disposals generalizing u with
  | nil =>
    exact
      { resumable := h
        finished := rfl
        others := fun _ hi => absurd hi List.not_mem_nil
        released := rfl
        committed := rfl }
  | cons disposal rest ih =>
    obtain ⟨answers, token⟩ := disposal
    obtain ⟨hone, hrest⟩ := List.forall_mem_cons.mp hstopped
    rcases h.dispose answers token with ⟨front, back, k, outcomeUnknown, hpaused, hnext⟩ | hfinished
    · exact hpaused.progress (u.committed_dispose answers token) (ih hnext hrest)
    · exact absurd hone hfinished.through

/-! ## The main statement -/

/-- The disposal that gets through, after any progress. -/
theorem Progress.rolledBackOnce {u v : Usage} {ds : List Disposal} (h : Progress u ds v)
    (hu : Resumable u) (answers : Answers) :
    RolledBackOnce u (ds ++ [v.disposal answers none]) (v.dispose .suspending answers none).2 := by
  have hsound := sound_dispose h.resumable.sound .suspending answers none
  have hmode := (mode_step .suspending v (.dispose answers none)
    ⟨h.resumable.sound, h.resumable.mode⟩).2
  have hcommitted := (v.committed_dispose answers none).trans h.committed
  have hlength : v.scope.participants.length = u.scope.participants.length := by
    simpa only [Usage.committed, List.length_map] using congrArg List.length h.committed
  rcases h.resumable.dispose answers none with
    ⟨front, back, k, outcomeUnknown, hpaused, -⟩ | hfinished
  · obtain ⟨p, -, houtcome⟩ := hpaused.outcome
    exact absurd ⟨p.name, k, outcomeUnknown, houtcome⟩ (not_stopped_of_no_token v answers)
  · simp only [Usage.step] at hmode
    generalize (v.dispose .suspending answers none).2 = w at hsound hmode hcommitted hfinished ⊢
    have hreleases : ∀ c ∈ releaseCalls v.scope.participants, c.rank ≠ 2 := fun c hc => by
      rw [rank_releaseCalls c hc]
      omega
    exact
      { held := hu.ledger.map_handle hu.sound (not_disposed hu.state) hu.mode
        finished := by
          rw [List.flatMap_append, List.flatMap_singleton, finishedRollbacks_append,
            hfinished.calls, finishedRollbacks_append, finishedRollbacks_rollbacksOf,
            finishedRollbacks_of_rank hreleases, List.append_nil, h.finished]
        others := by
          intro i hi
          rw [List.flatMap_append, List.flatMap_singleton, rollbacks_append, hfinished.calls,
            rollbacks_append, rollbacks_rollbacksOf, rollbacks_releaseCalls, List.append_nil] at hi
          rcases List.mem_append.mp hi with hi | hi
          · exact h.others i hi
          · rw [← h.finished]
            exact List.mem_append_right _ hi
        state := hfinished.state
        standing := by
          intro i hi
          obtain ⟨q, hq, hstanding⟩ := hu.mem_awaiting.mp hi
          have hat : w.committed[i]? = some false := by
            rw [hcommitted, Usage.committed, List.getElem?_map, hq, Option.map_some, hstanding]
            rfl
          obtain ⟨p, hp, hfalse⟩ := getElem?_map_cases hat
          refine ⟨p, hp, ?_⟩
          have hnot := (hsound.own hmode).disposed hfinished.state p (List.mem_of_getElem? hp)
          cases hend : p.standing with
          | enlisted => exact absurd hend hnot
          | committed =>
            rw [hend] at hfalse
            cases hfalse
          | rolledBack => rfl
        released := by
          have hnone : releases (rollbacksOf answers (awaiting v.scope.participants)) = [] :=
            releases_of_rank fun c hc => by
              rw [rank_rollbacksOf answers _ c hc]
              omega
          have hv := h.resumable
          rw [List.flatMap_append, List.flatMap_singleton, releases_append, h.released,
            hfinished.calls, releases_append, hnone, releases_releaseCalls,
            hv.ledger.handles_eq hv.sound (not_disposed hv.state), hv.ledger.numbered,
            if_pos hv.mode, hlength, List.nil_append, List.nil_append]
        given := (hsound.own hmode).released hfinished.state }

/-- Any number of disposals that are stopped, then one that is not: each stopped one leaves the scope
at the first participant still awaited, where the next begins, and together they roll back once to the
end whoever was enlisted, and nobody else. -/
theorem dispose_resumes (id : String) (options : ScopeOptions) (ambients : Ambients)
    (uses : List Use) (u : Usage) (hu : u = (Usage.start id options ambients).run .suspending uses)
    (hown : u.scope.mode = some .own) (hopen : u.scope.state = .opened)
    (stopped : List (Answers × Option Token))
    (hstopped : ∀ d ∈ (u.disposeEach stopped).1, d.Stopped) (answers : Answers) :
    (∀ before one after, stopped = before ++ one :: after →
      let v := (u.disposeEach before).2
      ∃ k outcomeUnknown, StoppedAt (v.disposal one.1 one.2) (v.dispose .suspending one.1 one.2).2 k
        outcomeUnknown) ∧
    RolledBackOnce u (u.disposeEach (stopped ++ [(answers, none)])).1
      (u.disposeEach (stopped ++ [(answers, none)])).2 := by
  have h : Resumable u :=
    { sound := hu ▸ sound_run .suspending id options ambients uses
      ledger := hu ▸ ledger_run .suspending id options ambients uses
      mode := hown
      state := hopen }
  constructor
  · intro before one after hsplit v
    rw [hsplit, Usage.disposeEach_append] at hstopped
    obtain ⟨hbefore, hfrom⟩ := List.forall_mem_append.mp hstopped
    obtain ⟨hone, -⟩ := List.forall_mem_cons.mp hfrom
    have hv : Resumable v := (progress_of_stopped h hbefore).resumable
    rcases hv.dispose one.1 one.2 with ⟨front, back, k, outcomeUnknown, hpaused, hw⟩ | hfinished
    · exact ⟨k, outcomeUnknown, hpaused.stoppedAt hw⟩
    · exact absurd hone hfinished.through
  · rw [Usage.disposeEach_append]
    exact (progress_of_stopped h hstopped).rolledBackOnce h answers

/-- Two connections: the rollback of the first is interrupted, then the token is seen before that of
the second is called, and a third disposal gets through. -/
theorem dispose_resumes_third :
    let u := (Usage.start "unit" {} []).run .suspending
      [.enlist { name := "orders" } none, .enlist { name := "stock" } none]
    let stopped : List (Answers × Option Token) :=
      [({}, some ⟨fun _ => false, fun _ => true⟩),
        ({}, some ⟨fun calls => 1 < (rollbacks calls).length, fun _ => false⟩)]
    let all := stopped ++ [(({} : Answers), none)]
    u.scope.mode = some .own ∧ u.scope.state = .opened ∧
      (∀ d ∈ (u.disposeEach stopped).1, d.Stopped) ∧
      RolledBackOnce u (u.disposeEach all).1 (u.disposeEach all).2 := by
  intro u stopped all
  have hstopped : ∀ d ∈ (u.disposeEach stopped).1, d.Stopped :=
    List.forall_mem_cons.mpr ⟨⟨"orders", 0, true, rfl⟩,
      List.forall_mem_singleton.mpr ⟨"stock", 1, false, rfl⟩⟩
  obtain ⟨-, honce⟩ := dispose_resumes "unit" {} [] _ u rfl rfl rfl stopped hstopped {}
  exact ⟨rfl, rfl, hstopped, honce⟩

end UnitOfWork.Scope
