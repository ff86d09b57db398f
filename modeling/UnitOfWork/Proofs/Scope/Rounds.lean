import UnitOfWork.Proofs.Scope.Watched

/-!
# Rounds of commits and rollbacks

What one walk over the participants does, for every answer of the drivers and every token: the calls it
makes, the participants it leaves and what it reports. A round of rollbacks without a token has one
outcome; a round under a token either gets through or stops at a pending participant, and leaves
everything from there on as it was. A round of commits over pending participants either gets through or
halts at one of them, and then rolls back from there on.

`rollBackEach_eq`, `rollbackRound` and `commitRound` are all that the later modules know of the loops.
-/

set_option autoImplicit false

namespace UnitOfWork.Scope

/-! ## What a round makes of one participant -/

namespace Participant

section Settled

variable {H : Type}

/-- A participant after a round of rollbacks: rolled back if it was pending. -/
def settled (p : Participant H) : Participant H := if p.isPending then p.rolledBack else p

variable (p : Participant H)

@[simp] theorem settled_index : p.settled.index = p.index := by
  unfold settled; split <;> rfl

@[simp] theorem settled_name : p.settled.name = p.name := by
  unfold settled; split <;> rfl

@[simp] theorem settled_isolation : p.settled.isolation = p.isolation := by
  unfold settled; split <;> rfl

/-- A handle is held until it is released. -/
@[simp] theorem settled_handle : p.settled.handle = p.handle := by
  unfold settled; split <;> rfl

/-- Whoever is enlisted and holds a handle is pending. -/
theorem isPending_iff : p.isPending = true ↔ p.standing = .enlisted ∧ p.handle.isSome = true := by
  simp only [isPending, Bool.and_eq_true, beq_iff_eq]

/-- A pending participant stands as rolled back afterwards. -/
theorem settled_of_pending {p : Participant H} (h : p.isPending = true) :
    p.settled = p.rolledBack := if_pos h

/-- Nobody else is touched. -/
theorem settled_of_not_pending {p : Participant H} (h : p.isPending = false) : p.settled = p := by
  simp only [settled, h, Bool.false_eq_true, if_false]

/-- A round of rollbacks neither makes nor unmakes a commit. -/
@[simp] theorem settled_committed_iff : p.settled.standing = .committed ↔ p.standing = .committed := by
  cases h : p.isPending with
  | false => rw [settled_of_not_pending h]
  | true =>
    have hs := ((isPending_iff p).mp h).1
    simp only [settled_of_pending h, rolledBack, hs, reduceCtorEq]

/-- Who is still enlisted after a round of rollbacks was never pending. -/
theorem settled_enlisted_iff :
    p.settled.standing = .enlisted ↔ p.standing = .enlisted ∧ p.isPending = false := by
  cases h : p.isPending with
  | false => simp only [settled_of_not_pending h, and_true]
  | true => simp only [settled_of_pending h, rolledBack, reduceCtorEq, Bool.true_eq_false, and_false]

end Settled

variable (answers : Answers) (p : Participant Nat)

/-- The rollback call of a round, for a pending participant. -/
def rollbackCall : List Call :=
  if p.isPending then
    p.handle.toList.map fun i => .rollback i (.finished (answers.rollback i))
  else []

/-- The failure of that call, if it fails. -/
def rollbackFailure : List RollbackFailure :=
  if p.isPending then
    p.handle.toList.flatMap fun i =>
      match answers.rollback i with
      | .ok () => []
      | .error source => [⟨p.name, p.index, source⟩]
  else []

/-- The commit call of a round. -/
def commitCall : List Call :=
  p.handle.toList.map fun i => .commit i (.finished (answers.commit i))

/-- Whether the commit of a participant is answered with success. -/
def Commits : Prop := ∀ i, p.handle = some i → answers.commit i = .ok ()

end Participant

open Participant (rollbackCall rollbackFailure commitCall)

section Rollback

variable (answers : Answers)

/-- A pending participant is called through its handle. -/
theorem rollbackCall_of_pending {p : Participant Nat} {i : Nat} (hp : p.isPending = true)
    (hi : p.handle = some i) :
    p.rollbackCall answers = [.rollback i (.finished (answers.rollback i))] := by
  simp only [rollbackCall, hp, hi, if_true, Option.toList_some, List.map_cons, List.map_nil]

theorem rollbackCall_of_not_pending {p : Participant Nat} (hp : p.isPending = false) :
    p.rollbackCall answers = [] := by
  simp only [rollbackCall, hp, Bool.false_eq_true, if_false]

/-- Who is not called does not fail. -/
theorem rollbackFailure_of_not_pending {p : Participant Nat} (hp : p.isPending = false) :
    p.rollbackFailure answers = [] := by
  simp only [rollbackFailure, hp, Bool.false_eq_true, if_false]

/-- What is recorded of a rollback call is the failure of the participant. -/
theorem run_recordRollback (s : Scope Nat) {p : Participant Nat} {i : Nat} (calls : List Call)
    (hp : p.isPending = true) (hi : p.handle = some i) :
    (recordRollback answers.host s p (answers.rollback i)).run calls =
      (p.rollbackFailure answers, calls) := by
  simp only [rollbackFailure, hp, hi, if_true, Option.toList_some, List.flatMap_cons,
    List.flatMap_nil, List.append_nil]
  cases answers.rollback i <;> rfl

/-- A pending participant holds a handle. -/
theorem exists_handle_of_pending {H : Type} {p : Participant H} (hp : p.isPending = true) :
    ∃ h, p.handle = some h :=
  Option.isSome_iff_exists.mp ((Participant.isPending_iff p).mp hp).2

/-- A round of rollbacks without a token calls every pending participant and settles them all. -/
theorem rollBackEach_eq (s : Scope Nat) (ps : List (Participant Nat)) (calls : List Call) :
    (rollBackEach answers.host s ps).run calls =
      ((ps.flatMap (rollbackFailure answers), ps.map Participant.settled),
        calls ++ ps.flatMap (rollbackCall answers)) := by
  induction ps generalizing calls with
  | nil => simp only [rollBackEach, run_pure, List.flatMap_nil, List.map_nil, List.append_nil]
  | cons p rest ih =>
    cases hp : p.isPending with
    | false =>
      simp only [rollBackEach, hp, run_bind, run_pure, ih, List.flatMap_cons, List.map_cons,
        rollbackCall_of_not_pending answers hp, rollbackFailure_of_not_pending answers hp,
        Participant.settled_of_not_pending hp, List.nil_append]
    | true =>
      obtain ⟨i, hi⟩ := exists_handle_of_pending hp
      simp only [rollBackEach, hp, hi, run_bind, run_pure, ih, Answers.run_rollback,
        run_recordRollback answers s _ hp hi, List.flatMap_cons, List.map_cons,
        rollbackCall_of_pending answers hp hi, Participant.settled_of_pending hp,
        List.append_assoc]

/-- The commit calls of a round are those of the handles it finds. -/
theorem commitCalls_eq (ps : List (Participant Nat)) :
    ps.flatMap (commitCall answers) = commitsOf answers (handles ps) := by
  induction ps with
  | nil => rfl
  | cons p rest ih =>
    unfold handles at ih ⊢
    rw [List.flatMap_cons, ih]
    cases hp : p.handle with
    | none =>
      rw [List.filterMap_cons_none hp]
      simp only [commitCall, hp, Option.toList_none, List.map_nil, List.nil_append]
    | some i =>
      rw [List.filterMap_cons_some hp]
      simp only [commitCall, hp, Option.toList_some, List.map_cons, List.map_nil]
      rfl

/-- The rollback calls of a round over pending participants are those of their handles. -/
theorem rollbackCalls_eq {ps : List (Participant Nat)} (h : ∀ p ∈ ps, p.isPending = true) :
    ps.flatMap (rollbackCall answers) = rollbacksOf answers (handles ps) := by
  induction ps with
  | nil => rfl
  | cons p rest ih =>
    obtain ⟨hp, hrest⟩ := List.forall_mem_cons.mp h
    obtain ⟨i, hi⟩ := exists_handle_of_pending hp
    unfold handles at ih ⊢
    rw [List.flatMap_cons, ih hrest, rollbackCall_of_pending answers hp hi,
      List.filterMap_cons_some hi]
    rfl

/-- A disposal fails with the failures that it met, all of them and in their order. -/
theorem disposal_eq_error {failures others : List RollbackFailure} :
    disposal failures = .error (.rollback others) ↔ failures ≠ [] ∧ others = failures := by
  unfold disposal
  cases failures with
  | nil => simp only [List.isEmpty_nil, if_true, reduceCtorEq, ne_eq, not_true, false_and]
  | cons f rest =>
    simp only [List.isEmpty_cons, Bool.false_eq_true, if_false, Except.error.injEq,
      TransactionError.rollback.injEq, ne_eq, reduceCtorEq, not_false_eq_true, true_and]
    exact eq_comm

/-- It succeeds if it met none. -/
theorem disposal_eq_ok {failures : List RollbackFailure} :
    disposal failures = .ok () ↔ failures = [] := by
  unfold disposal
  cases failures with
  | nil => simp only [List.isEmpty_nil, if_true]
  | cons f rest => simp only [List.isEmpty_cons, Bool.false_eq_true, if_false, reduceCtorEq]

end Rollback

/-! ## Rollbacks under a token -/

/-- The token stops an operation after these calls: it is seen, or it fires while the next call
waits, which leaves the outcome of that call unknown. -/
def Token.Stops (token : Token) (calls : List Call) (outcomeUnknown : Bool) : Prop :=
  token.seen calls = !outcomeUnknown ∧ (outcomeUnknown = true → token.interrupts calls = true)

/-- The call that the token interrupted, if it let the call begin. -/
def interruptedRollback (i : Nat) (outcomeUnknown : Bool) : List Call :=
  if outcomeUnknown then [.rollback i .interrupted] else []

/-- How a round of rollbacks under a token can end. -/
inductive RollbackRound (answers : Answers) (token : Token) (met : List RollbackFailure)
    (calls : List Call) (ps : List (Participant Nat)) :
    (Suspending.Rollbacks × List (Participant Nat)) × List Call → Prop where
  | through : RollbackRound answers token met calls ps
      ((.done (met ++ ps.flatMap (rollbackFailure answers)), ps.map Participant.settled),
        calls ++ ps.flatMap (rollbackCall answers))
  | stopped {settled rest : List (Participant Nat)} {p : Participant Nat} {i : Nat}
      {outcomeUnknown : Bool} (split : ps = settled ++ p :: rest) (pending : p.isPending = true)
      (handle : p.handle = some i)
      (stops : token.Stops (calls ++ settled.flatMap (rollbackCall answers)) outcomeUnknown) :
      RollbackRound answers token met calls ps
        ((.stopped (.cancelled p.name p.index .rollback outcomeUnknown),
            settled.map Participant.settled ++ p :: rest),
          calls ++ settled.flatMap (rollbackCall answers) ++ interruptedRollback i outcomeUnknown)

section Cons

variable {answers : Answers} {token : Token} {met : List RollbackFailure} {calls : List Call}
  {p : Participant Nat} {rest : List (Participant Nat)}

/-- A participant that needs no stop, before a round over the others. -/
theorem RollbackRound.cons {r : (Suspending.Rollbacks × List (Participant Nat)) × List Call}
    (h : RollbackRound answers token (met ++ p.rollbackFailure answers)
      (calls ++ p.rollbackCall answers) rest r) :
    RollbackRound answers token met calls (p :: rest) ((r.1.1, p.settled :: r.1.2), r.2) := by
  cases h with
  | through =>
    have hround : RollbackRound answers token met calls (p :: rest) _ := .through
    simpa only [List.flatMap_cons, List.map_cons, List.append_assoc] using hround
  | @stopped settled rest' q i outcomeUnknown split pending handle stops =>
    have hsplit : p :: rest = (p :: settled) ++ q :: rest' := congrArg (p :: ·) split
    have hstops : token.Stops (calls ++ (p :: settled).flatMap (rollbackCall answers))
        outcomeUnknown := by
      simpa only [List.flatMap_cons, List.append_assoc] using stops
    have hround : RollbackRound answers token met calls (p :: rest) _ :=
      .stopped hsplit pending handle hstops
    simpa only [List.flatMap_cons, List.map_cons, List.append_assoc, List.cons_append] using hround

/-- A round that stops at its first participant. -/
theorem RollbackRound.stop {i : Nat} {outcomeUnknown : Bool} (pending : p.isPending = true)
    (handle : p.handle = some i) (stops : token.Stops calls outcomeUnknown) :
    RollbackRound answers token met calls (p :: rest)
      ((.stopped (.cancelled p.name p.index .rollback outcomeUnknown), p :: rest),
        calls ++ interruptedRollback i outcomeUnknown) := by
  have hsplit : p :: rest = [] ++ p :: rest := rfl
  have hstops : token.Stops (calls ++ [].flatMap (rollbackCall answers)) outcomeUnknown := by
    simpa only [List.flatMap_nil, List.append_nil] using stops
  have hround : RollbackRound answers token met calls (p :: rest) _ :=
    .stopped hsplit pending handle hstops
  simpa only [List.flatMap_nil, List.append_nil, List.map_nil, List.nil_append] using hround

end Cons

/-- A round under a token gets through or stops at a pending participant, whatever the token does.
-/
theorem rollbackRound (answers : Answers) (token : Token) (s : Scope Nat)
    (met : List RollbackFailure) (ps : List (Participant Nat)) (calls : List Call) :
    RollbackRound answers token met calls ps
      ((Suspending.rollBackEach (answers.under token) s met ps).run calls) := by
  induction ps generalizing met calls with
  | nil =>
    have hround : RollbackRound answers token met calls [] _ := .through
    simpa only [Suspending.rollBackEach, run_pure, List.flatMap_nil, List.map_nil,
      List.append_nil] using hround
  | cons p rest ih =>
    have hnext := (ih (met ++ p.rollbackFailure answers) (calls ++ p.rollbackCall answers)).cons
    cases hp : p.isPending with
    | false =>
      simp only [rollbackCall_of_not_pending answers hp, rollbackFailure_of_not_pending answers hp,
        Participant.settled_of_not_pending hp, List.append_nil] at hnext
      simpa only [Suspending.rollBackEach, hp, run_bind, run_pure] using hnext
    | true =>
      obtain ⟨i, hi⟩ := exists_handle_of_pending hp
      cases hseen : token.seen calls with
      | true =>
        have hstops : token.Stops calls false := ⟨hseen, fun hunknown => by cases hunknown⟩
        simpa only [Suspending.rollBackEach, Suspending.cancelRollback, hp, hi, run_bind, run_pure,
          Answers.run_isCancelled, hseen, if_true, Answers.toHost_under, Answers.run_note,
          interruptedRollback, Bool.false_eq_true, if_false, List.append_nil] using
          (.stop hp hi hstops : RollbackRound answers token met calls (p :: rest) _)
      | false =>
        cases hfires : token.interrupts calls with
        | true =>
          have hstops : token.Stops calls true := ⟨hseen, fun _ => hfires⟩
          simpa only [Suspending.rollBackEach, Suspending.cancelRollback, hp, hi, run_bind,
            run_pure, Answers.run_isCancelled, hseen, Bool.false_eq_true, if_false,
            Answers.run_rollbackRacing, Answers.race, hfires, if_true, Answers.toHost_under,
            Answers.run_note, interruptedRollback] using
              (.stop hp hi hstops : RollbackRound answers token met calls (p :: rest) _)
        | false =>
          simp only [rollbackCall_of_pending answers hp hi, Participant.settled_of_pending hp]
            at hnext
          simpa only [Suspending.rollBackEach, hp, hi, run_bind, run_pure,
            Answers.run_isCancelled, hseen, Bool.false_eq_true, if_false,
            Answers.run_rollbackRacing, Answers.race, hfires, Answers.toHost_under,
            run_recordRollback answers s _ hp hi] using hnext

/-! ## Commits under a token -/

/-- Why a round of commits halts at a participant. -/
inductive Halt where
  /-- Its commit failed. -/
  | failed (source : ParticipantError)
  /-- The token was seen before its commit was called. -/
  | seen
  /-- The token fired while its commit waited. -/
  | interrupted

namespace Halt

/-- What the round reports. -/
def error (name : String) (index : Nat) : Halt → TransactionError
  | .failed source => .commit name index source
  | .seen => .cancelled name index .commit false
  | .interrupted => .cancelled name index .commit true

/-- The commit call that the round halts at, if it is made. -/
def calls (i : Nat) : Halt → List Call
  | .failed source => [.commit i (.finished (.error source))]
  | .seen => []
  | .interrupted => [.commit i .interrupted]

/-- Whether a round halts for this reason, before a commit that would follow these calls. -/
def At (answers : Answers) (token : Token) (calls : List Call) (i : Nat) : Halt → Prop
  | .failed source =>
    token.seen calls = false ∧ token.interrupts calls = false ∧ answers.commit i = .error source
  | .seen => token.seen calls = true
  | .interrupted => token.seen calls = false ∧ token.interrupts calls = true

end Halt

/-- The token lets a round of commits over these participants through: it stops none of them. -/
def Token.Passes (token : Token) (answers : Answers) (calls : List Call)
    (ps : List (Participant Nat)) : Prop :=
  ∀ done p rest, ps = done ++ p :: rest → ∀ outcomeUnknown,
    ¬ token.Stops (calls ++ done.flatMap (commitCall answers)) outcomeUnknown

/-- How a round of commits from an index on can end. -/
inductive CommitRound (answers : Answers) (token : Token) (index : Nat) (calls : List Call)
    (ps : List (Participant Nat)) :
    (Option TransactionError × List (Participant Nat)) × List Call → Prop where
  | through (commits : ∀ p ∈ ps, p.Commits answers) (passes : token.Passes answers calls ps) :
      CommitRound answers token index calls ps
        ((none, ps.map Participant.committed), calls ++ ps.flatMap (commitCall answers))
  | halted {done rest : List (Participant Nat)} {p : Participant Nat} {i : Nat} {halt : Halt}
      (split : ps = done ++ p :: rest) (commits : ∀ q ∈ done, q.Commits answers)
      (handle : p.handle = some i)
      (halts : halt.At answers token (calls ++ done.flatMap (commitCall answers)) i)
      (passes : token.Passes answers calls done) :
      CommitRound answers token index calls ps
        ((some (halt.error p.name (index + done.length)),
            done.map Participant.committed ++ (p :: rest).map Participant.settled),
          calls ++ done.flatMap (commitCall answers) ++ halt.calls i ++
            (p :: rest).flatMap (rollbackCall answers))

section Cons

variable {answers : Answers} {token : Token} {index : Nat} {calls : List Call}
  {p : Participant Nat} {rest : List (Participant Nat)}

theorem Token.passes_nil : token.Passes answers calls [] := by
  intro done p rest hsplit
  exact absurd hsplit (List.append_ne_nil_of_right_ne_nil done (List.cons_ne_nil p rest)).symm

/-- A token that passes a participant passes the row that it leads. -/
theorem Token.Passes.cons (hp : ∀ outcomeUnknown, ¬ token.Stops calls outcomeUnknown)
    (h : token.Passes answers (calls ++ p.commitCall answers) rest) :
    token.Passes answers calls (p :: rest) := by
  intro done q after hsplit
  cases done with
  | nil => simpa only [List.flatMap_nil, List.append_nil] using hp
  | cons first done =>
    obtain ⟨rfl, hrest⟩ := List.cons.inj hsplit
    simpa only [List.flatMap_cons, List.append_assoc] using h done q after hrest

/-- A participant that commits, before a round over the others. -/
theorem CommitRound.cons {r : (Option TransactionError × List (Participant Nat)) × List Call}
    (hp : p.Commits answers) (hpass : ∀ outcomeUnknown, ¬ token.Stops calls outcomeUnknown)
    (h : CommitRound answers token (index + 1) (calls ++ p.commitCall answers) rest r) :
    CommitRound answers token index calls (p :: rest) ((r.1.1, p.committed :: r.1.2), r.2) := by
  cases h with
  | through commits passes =>
    have hround : CommitRound answers token index calls (p :: rest) _ :=
      .through (List.forall_mem_cons.mpr ⟨hp, commits⟩) (passes.cons hpass)
    simpa only [List.flatMap_cons, List.map_cons, List.append_assoc] using hround
  | @halted done rest' q i halt split commits handle halts passes =>
    have hsplit : p :: rest = (p :: done) ++ q :: rest' := congrArg (p :: ·) split
    have hhalts : halt.At answers token (calls ++ (p :: done).flatMap (commitCall answers)) i := by
      simpa only [List.flatMap_cons, List.append_assoc] using halts
    have hround : CommitRound answers token index calls (p :: rest) _ :=
      .halted hsplit (List.forall_mem_cons.mpr ⟨hp, commits⟩) handle hhalts (passes.cons hpass)
    simpa only [List.flatMap_cons, List.map_cons, List.append_assoc, List.cons_append,
      List.length_cons, Nat.add_assoc, Nat.add_comm 1] using hround

/-- A round that halts at its first participant. -/
theorem CommitRound.halt {i : Nat} {halt : Halt} (handle : p.handle = some i)
    (halts : halt.At answers token calls i) :
    CommitRound answers token index calls (p :: rest)
      ((some (halt.error p.name index), (p :: rest).map Participant.settled),
        calls ++ halt.calls i ++ (p :: rest).flatMap (rollbackCall answers)) := by
  have hsplit : p :: rest = [] ++ p :: rest := rfl
  have hhalts : halt.At answers token (calls ++ [].flatMap (commitCall answers)) i := by
    simpa only [List.flatMap_nil, List.append_nil] using halts
  have hround : CommitRound answers token index calls (p :: rest) _ :=
    .halted hsplit (fun q hq => absurd hq List.not_mem_nil) handle hhalts Token.passes_nil
  simpa only [List.flatMap_nil, List.append_nil, List.map_nil, List.nil_append, List.length_nil,
    Nat.add_zero] using hround

end Cons

/-- A round of commits over pending participants. Of the others the loop skips those without a
handle, which a scope that may be completed does not have. -/
theorem commitRound (answers : Answers) (token : Token) (s : Scope Nat) (index : Nat)
    (ps : List (Participant Nat)) (calls : List Call) (hps : ∀ p ∈ ps, p.isPending = true) :
    CommitRound answers token index calls ps
      ((Suspending.commitEach (answers.under token) s index ps).run calls) := by
  induction ps generalizing index calls with
  | nil =>
    have hround : CommitRound answers token index calls [] _ :=
      .through (fun q hq => absurd hq List.not_mem_nil) Token.passes_nil
    simpa only [Suspending.commitEach, run_pure, List.flatMap_nil, List.map_nil,
      List.append_nil] using hround
  | cons p rest ih =>
    obtain ⟨hp, hrest⟩ := List.forall_mem_cons.mp hps
    obtain ⟨i, hi⟩ := exists_handle_of_pending hp
    cases hseen : token.seen calls with
    | true =>
      have hhalts : Halt.seen.At answers token calls i := hseen
      simpa only [Suspending.commitEach, Suspending.cancelCommit, run_bind, run_pure,
        Answers.run_isCancelled, hseen, if_true, Answers.toHost_under, Answers.run_note,
        rollBackEach_eq, Halt.calls, Halt.error, List.append_nil] using
        (.halt hi hhalts : CommitRound answers token index calls (p :: rest) _)
    | false =>
      cases hfires : token.interrupts calls with
      | true =>
        have hhalts : Halt.interrupted.At answers token calls i := ⟨hseen, hfires⟩
        simpa only [Suspending.commitEach, Suspending.cancelCommit, run_bind, run_pure,
          Answers.run_isCancelled, hseen, Bool.false_eq_true, if_false, hi,
          Answers.run_commitRacing, Answers.race, hfires, if_true, Answers.toHost_under,
          Answers.run_note, rollBackEach_eq, Halt.calls, Halt.error] using
          (.halt hi hhalts : CommitRound answers token index calls (p :: rest) _)
      | false =>
        cases hcommit : answers.commit i with
        | error source =>
          have hhalts : (Halt.failed source).At answers token calls i := ⟨hseen, hfires, hcommit⟩
          simpa only [Suspending.commitEach, run_bind, run_pure, Answers.run_isCancelled, hseen,
            Bool.false_eq_true, if_false, hi, Answers.run_commitRacing, Answers.race, hfires,
            hcommit, Answers.toHost_under, Answers.run_note, rollBackEach_eq, Halt.calls,
            Halt.error] using
            (.halt hi hhalts : CommitRound answers token index calls (p :: rest) _)
        | ok _ =>
          have hcall : p.commitCall answers = [.commit i (.finished (.ok ()))] := by
            simp only [commitCall, hi, Option.toList_some, List.map_cons, List.map_nil, hcommit]
          have hpass : ∀ outcomeUnknown, ¬ token.Stops calls outcomeUnknown := by
            rintro outcomeUnknown ⟨hstop, hinterrupt⟩
            cases outcomeUnknown with
            | false => cases hseen.symm.trans hstop
            | true => cases hfires.symm.trans (hinterrupt rfl)
          have hnext := (ih (index + 1) (calls ++ p.commitCall answers) hrest).cons
            (by rintro j hj; rw [hi] at hj; cases hj; exact hcommit) hpass
          simp only [hcall] at hnext
          simpa only [Suspending.commitEach, run_bind, run_pure, Answers.run_isCancelled, hseen,
            Bool.false_eq_true, if_false, hi, Answers.run_commitRacing, Answers.race, hfires,
            hcommit, Answers.toHost_under, Answers.run_note] using hnext

end UnitOfWork.Scope
