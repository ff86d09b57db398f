import Mathlib.Data.List.Nodup
import UnitOfWork.Proofs.Scope.Orderly

/-!
# A dropped scope leaves nothing open

`Settled` is what becomes of a transaction in the end: it was committed by one call and never rolled
back, or it was rolled back by one call and never committed, and its handle was released once. After a
blocking scope is dropped this holds of every transaction it began, whatever was done with the scope
before and however the drivers answered.

The accounts of a scope say which standing the calls lead to. Here is the converse, `Told`: who stands
as committed or rolled back has the call to show for it. It is kept by every use, one lemma for each
operation, and once a scope is disposed of nobody is left enlisted.
-/

set_option autoImplicit false

namespace UnitOfWork.Scope

open Participant (rollbackCall commitCall)

/-! ## The statement -/

/-- The transaction of a commit that succeeded. -/
def Call.succeeding? : Call → Option Nat
  | .commit i (.finished (.ok ())) => some i
  | _ => none

/-- The transactions whose commits succeeded, in the order of the calls. -/
def succeeded (calls : List Call) : List Nat := calls.filterMap Call.succeeding?

/-- A transaction that is over: one commit that succeeded and no rollback, or one rollback and no such
commit; and one release. -/
structure Settled (calls : List Call) (i : Nat) : Prop where
  ended : (succeeded calls).count i = 1 ∧ (rollbacks calls).count i = 0 ∨
    (succeeded calls).count i = 0 ∧ (rollbacks calls).count i = 1
  released : (releases calls).count i = 1

/-! ## Every standing has its call -/

/-- The standing of a participant is borne out by the calls. -/
structure Participant.Told (calls : List Call) (p : Participant Nat) : Prop where
  committed : p.standing = .committed → .commit p.index (.finished (.ok ())) ∈ calls
  rolledBack : p.standing = .rolledBack → ∃ ended, .rollback p.index ended ∈ calls

namespace Participant

variable {calls more : List Call} {p : Participant Nat}

/-- Who is still enlisted has nothing to show. -/
theorem told_of_enlisted (h : p.standing = .enlisted) : p.Told calls where
  committed hcommitted := by cases h.symm.trans hcommitted
  rolledBack hrolled := by cases h.symm.trans hrolled

/-- Calls are never taken back. -/
theorem Told.mono (h : p.Told calls) (hsub : calls ⊆ more) : p.Told more where
  committed hcommitted := hsub (h.committed hcommitted)
  rolledBack hrolled := by
    obtain ⟨ended, hmem⟩ := h.rolledBack hrolled
    exact ⟨ended, hsub hmem⟩

/-- A release changes no standing. -/
theorem Told.released (h : p.Told calls) : p.released.Told calls := ⟨h.committed, h.rolledBack⟩

/-- A round of rollbacks calls whom it leaves as rolled back. -/
theorem Told.settled (h : p.Told calls) (hnumber : ∀ i, p.handle = some i → i = p.index)
    (answers : Answers) (hsub : calls ⊆ more) (hcalls : p.rollbackCall answers ⊆ more) :
    p.settled.Told more := by
  cases hp : p.isPending with
  | false =>
    rw [settled_of_not_pending hp]
    exact h.mono hsub
  | true =>
    obtain ⟨i, hi⟩ := exists_handle_of_pending hp
    obtain rfl := hnumber i hi
    rw [rollbackCall_of_pending answers hp hi] at hcalls
    rw [settled_of_pending hp]
    constructor
    · intro hcommitted
      cases hcommitted
    · intro _
      exact ⟨_, hcalls List.mem_cons_self⟩

/-- A round of commits calls whom it leaves as committed. -/
theorem told_committed (hnumber : ∀ i, p.handle = some i → i = p.index)
    (hheld : p.handle.isSome = true) {answers : Answers} (hcommits : p.Commits answers)
    (hcalls : p.commitCall answers ⊆ more) : p.committed.Told more := by
  obtain ⟨i, hi⟩ := Option.isSome_iff_exists.mp hheld
  have hok := hcommits i hi
  obtain rfl := hnumber i hi
  simp only [commitCall, hi, Option.toList_some, List.map_cons, List.map_nil, hok] at hcalls
  constructor
  · intro _
    exact hcalls List.mem_cons_self
  · intro hrolled
    cases hrolled

end Participant

/-- The standings of all participants are borne out by the calls. -/
def Told (u : Usage) : Prop := ∀ p ∈ u.scope.participants, p.Told u.calls

section Steps

variable {discipline : Discipline} {u : Usage}

/-- A participant of the rounds is told by the calls of the whole round. -/
theorem subset_flatMap {f : Participant Nat → List Call} {ps : List (Participant Nat)}
    {p : Participant Nat} (hp : p ∈ ps) (before after : List Call) :
    f p ⊆ before ++ (ps.flatMap f ++ after) := by
  intro c hc
  refine List.mem_append_right before (List.mem_append_left after ?_)
  exact List.mem_flatMap.mpr ⟨p, hp, hc⟩

/-- An enlistment changes nobody's standing. -/
theorem told_enlist (h : Told u) (applicant : Applicant) (offered : Option AmbientRef) :
    Told (u.enlist applicant offered).2 := by
  have hstep := enlistStep u applicant offered
  generalize u.enlist applicant offered = r at hstep ⊢
  have hkept (c : Call) : ∀ p ∈ u.scope.participants, p.Told (u.calls ++ [c]) := by
    intro p hp
    exact (h p hp).mono (List.subset_append_left _ _)
  cases hstep with
  | refused plan => exact h
  | notJoined plan join => exact hkept _
  | notBegun plan begin => exact hkept _
  | joined plan join =>
    refine List.forall_mem_append.mpr ⟨hkept _, List.forall_mem_singleton.mpr ?_⟩
    exact Participant.told_of_enlisted rfl
  | begun plan begin =>
    refine List.forall_mem_append.mpr ⟨hkept _, List.forall_mem_singleton.mpr ?_⟩
    exact Participant.told_of_enlisted rfl

/-- Whoever a completion leaves as committed or rolled back was called so. -/
theorem told_complete (hsound : Sound u) (hledger : Ledger discipline u) (h : Told u)
    (answers : Answers) (token : Option Token) : Told (u.complete discipline answers token).2 := by
  have hstep := completeStep u discipline answers token hsound.pending
  generalize u.complete discipline answers token = r at hstep ⊢
  cases hstep with
  | refused obstacle => exact h
  | quiet obstacle mode => exact h
  | through obstacle mode commits =>
    intro q hq
    obtain ⟨p, hp, rfl⟩ := List.mem_map.mp hq
    have hpending := hsound.pending obstacle mode p hp
    refine Participant.told_committed (hledger.handle_eq_index hsound hp)
      (p.isPending_iff.mp hpending).2 (commits p hp) ?_
    have hcalls := subset_flatMap (f := commitCall answers) hp u.calls []
    rwa [List.append_nil] at hcalls
  | @halted done rest p i halt obstacle mode split commits handle halts =>
    have hall : ∀ q, q ∈ done ++ p :: rest → q ∈ u.scope.participants := by
      intro q hq
      rwa [split]
    simp only [List.append_assoc]
    refine List.forall_mem_append.mpr ⟨?_, ?_⟩
    · intro q hq
      obtain ⟨c, hc, rfl⟩ := List.mem_map.mp hq
      have hmem := hall c (List.mem_append_left _ hc)
      have hpending := hsound.pending obstacle mode c hmem
      exact Participant.told_committed (hledger.handle_eq_index hsound hmem)
        (c.isPending_iff.mp hpending).2 (commits c hc) (subset_flatMap hc _ _)
    · intro q hq
      obtain ⟨c, hc, rfl⟩ := List.mem_map.mp hq
      have hmem := hall c (List.mem_append_right _ hc)
      refine (h c hmem).settled (hledger.handle_eq_index hsound hmem) answers
        (List.subset_append_left _ _) ?_
      have hcalls := subset_flatMap (f := rollbackCall answers) hc
        (u.calls ++ (done.flatMap (commitCall answers) ++ halt.calls i)) []
      simpa only [List.append_assoc, List.append_nil] using hcalls

/-- Whoever a disposal leaves as rolled back was called so. -/
theorem told_dispose (hsound : Sound u) (hledger : Ledger discipline u) (h : Told u)
    (answers : Answers) (token : Option Token) : Told (u.dispose discipline answers token).2 := by
  have hstep := disposeStep u discipline answers token
  generalize u.dispose discipline answers token = r at hstep ⊢
  cases hstep with
  | again disposed => exact h
  | quiet state needs =>
    intro q hq
    obtain ⟨p, hp, rfl⟩ := List.mem_map.mp hq
    exact (h p hp).released.mono (List.subset_append_left _ _)
  | through needs =>
    intro q hq
    simp only [closed, List.map_map] at hq
    obtain ⟨p, hp, rfl⟩ := List.mem_map.mp hq
    simp only [List.append_assoc]
    exact ((h p hp).settled (hledger.handle_eq_index hsound hp) answers
      (List.subset_append_left _ _) (subset_flatMap hp _ _)).released
  | @stopped settled rest p i outcomeUnknown needs split pending handle stops =>
    have hall : ∀ q, q ∈ settled ++ p :: rest → q ∈ u.scope.participants := by
      intro q hq
      rwa [split]
    simp only [List.append_assoc]
    refine List.forall_mem_append.mpr ⟨?_, ?_⟩
    · intro q hq
      obtain ⟨c, hc, rfl⟩ := List.mem_map.mp hq
      have hmem := hall c (List.mem_append_left _ hc)
      exact (h c hmem).settled (hledger.handle_eq_index hsound hmem) answers
        (List.subset_append_left _ _) (subset_flatMap hc _ _)
    · intro q hq
      have hmem := hall q (List.mem_append_right _ hq)
      exact (h q hmem).mono (List.subset_append_left _ _)

/-- Every use keeps the standings borne out by the calls. -/
theorem told_step (u : Usage) (use : Use) (h : (Sound u ∧ Ledger discipline u) ∧ Told u) :
    (Sound (u.step discipline use) ∧ Ledger discipline (u.step discipline use)) ∧
      Told (u.step discipline use) := by
  obtain ⟨hboth, h⟩ := h
  obtain ⟨hsound, hledger⟩ := hboth
  refine ⟨ledger_step u use ⟨hsound, hledger⟩, ?_⟩
  cases use with
  | enlist applicant offered => exact told_enlist h applicant offered
  | complete answers token => exact told_complete hsound hledger h answers token
  | dispose answers token => exact told_dispose hsound hledger h answers token
  | outside event => exact h

/-- Every standing has its call in every state of a run. -/
theorem told_run (discipline : Discipline) (id : String) (options : ScopeOptions)
    (ambients : Ambients) (uses : List Use) :
    Told ((Usage.start id options ambients).run discipline uses) :=
  (Usage.run_induction
    (P := fun u => (Sound u ∧ Ledger discipline u) ∧ Told u) told_step
    ⟨⟨sound_start id options ambients, ledger_start discipline id options ambients⟩,
      fun _ hp => absurd hp List.not_mem_nil⟩ uses).2

end Steps

/-! ## Counting -/

section Counting

variable {calls : List Call} {i : Nat}

/-- A transaction was committed if the call for it succeeded. -/
theorem mem_succeeded : i ∈ succeeded calls ↔ .commit i (.finished (.ok ())) ∈ calls := by
  unfold succeeded
  rw [List.mem_filterMap]
  constructor
  · rintro ⟨call, hcall, hi⟩
    unfold Call.succeeding? at hi
    split at hi
    · cases hi
      exact hcall
    · cases hi
  · intro h
    exact ⟨_, h, rfl⟩

/-- A transaction was rolled back if there was a call for it, however it ended. -/
theorem mem_rollbacks : i ∈ rollbacks calls ↔ ∃ ended, .rollback i ended ∈ calls := by
  unfold rollbacks
  rw [List.mem_filterMap]
  constructor
  · rintro ⟨call, hcall, hi⟩
    cases call with
    | rollback j ended =>
      cases hi
      exact ⟨ended, hcall⟩
    | _ => cases hi
  · rintro ⟨ended, h⟩
    exact ⟨_, h, rfl⟩

/-- Who committed with success is among those who were asked to commit, in the same order. -/
theorem succeeded_sublist (calls : List Call) : (succeeded calls).Sublist (commits calls) := by
  induction calls with
  | nil => exact .slnil
  | cons call rest ih =>
    cases hcall : call.succeeding? with
    | none =>
      unfold succeeded commits
      rw [List.filterMap_cons_none hcall]
      cases hcommit : call.committing? with
      | none => rwa [List.filterMap_cons_none hcommit]
      | some j =>
        rw [List.filterMap_cons_some hcommit]
        exact ih.cons j
    | some j =>
      have hcommit : call.committing? = some j := by
        unfold Call.succeeding? at hcall
        split at hcall
        · exact hcall
        · cases hcall
      unfold succeeded commits
      rw [List.filterMap_cons_some hcall, List.filterMap_cons_some hcommit]
      exact ih.cons_cons j

end Counting

/-! ## The main statement -/

/-- Every transaction of a blocking scope that is disposed of is settled. -/
theorem settled_of_disposed {u : Usage} (hsound : Sound u) (h : Ledger .blocking u) (htold : Told u)
    (hstate : u.scope.state = .disposed) : ∀ i, i < begun u.calls → Settled u.calls i := by
  intro i hi
  have horderly := h.orderly
  have hcommits : (succeeded u.calls).Nodup := by
    obtain ⟨n, -, hn⟩ := h.consecutive
    have hsub := succeeded_sublist u.calls
    rw [hn] at hsub
    exact hsub.nodup List.nodup_range
  have hmode : u.scope.mode = some .own := by
    by_cases hown : u.scope.mode = some .own
    · exact hown
    · rw [h.numbered, if_neg hown] at hi
      exact absurd hi (Nat.not_lt_zero i)
  have hlength : i < u.scope.participants.length := by
    rwa [h.numbered, if_pos hmode] at hi
  obtain ⟨p, hp⟩ : ∃ p, u.scope.participants[i]? = some p := ⟨_, List.getElem?_eq_getElem hlength⟩
  have hmem := List.mem_of_getElem? hp
  obtain rfl := hsound.coherent.index i p hp
  constructor
  · cases hstanding : p.standing with
    | enlisted => exact absurd hstanding ((hsound.own hmode).disposed hstate p hmem)
    | committed =>
      left
      have hcommit := (htold p hmem).committed hstanding
      constructor
      · exact List.count_eq_one_of_mem hcommits (mem_succeeded.mpr hcommit)
      · rw [List.count_eq_zero, mem_rollbacks]
        rintro ⟨ended, hrollback⟩
        exact h.accounts.committed _ p hp hstanding ended hrollback
    | rolledBack =>
      right
      have hrollback := (htold p hmem).rolledBack hstanding
      constructor
      · rw [List.count_eq_zero, mem_succeeded]
        intro hcommit
        obtain ⟨q, hq, hcommitted⟩ := h.accounts.kept _ hcommit
        cases hp.symm.trans hq
        cases hstanding.symm.trans hcommitted
      · exact List.count_eq_one_of_mem (horderly.once rfl) (mem_rollbacks.mpr hrollback)
  · rw [h.released, if_pos hstate]
    exact List.count_eq_one_of_mem List.nodup_range (List.mem_range.mpr hi)

/-- A blocking scope that is dropped settles every transaction it began. -/
theorem settled_drop {u : Usage} (hsound : Sound u) (h : Ledger .blocking u) (htold : Told u)
    (answers : Answers) : ∀ i, i < begun (u.drop .blocking answers).calls →
      Settled (u.drop .blocking answers).calls i := by
  rw [u.drop_blocking answers none]
  exact settled_of_disposed (sound_dispose hsound .blocking answers none)
    (ledger_dispose hsound h answers none) (told_dispose hsound h htold answers none)
    (disposed_of_blocking u answers none)

end UnitOfWork.Scope
