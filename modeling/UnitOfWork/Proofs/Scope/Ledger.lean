import UnitOfWork.Proofs.Scope.Accounts
import UnitOfWork.Proofs.Scope.Coherence

/-!
# The ledger of a scope

`Ledger` says what was called already, against the state of the scope: while it takes participants
nothing but begins and joins, afterwards commits and rollbacks, and releases only once it is disposed
of. A gate that let an operation through in a wrong state would break it.

Every operation has one lemma here. `ledger_run` is the induction over runs; what the drivers see of it
is stated in a later module.
-/

set_option autoImplicit false

namespace UnitOfWork.Scope

open Participant (rollbackCall rollbackFailure commitCall)

/-! ## What a part of the calls counts for -/

section Parts

variable {calls more : List Call}

theorem begun_append : begun (calls ++ more) = begun calls + begun more := List.countP_append

theorem commits_append : commits (calls ++ more) = commits calls ++ commits more :=
  List.filterMap_append

theorem rollbacks_append : rollbacks (calls ++ more) = rollbacks calls ++ rollbacks more :=
  List.filterMap_append

theorem releases_append : releases (calls ++ more) = releases calls ++ releases more :=
  List.filterMap_append

/-- Calls of higher ranks begin nothing. -/
theorem begun_of_rank (h : ∀ c ∈ calls, c.rank ≠ 0) : begun calls = 0 :=
  List.countP_eq_zero.mpr fun c hc => by
    have := h c hc
    cases c with
    | begin => exact absurd rfl this
    | _ => exact Bool.false_ne_true

/-- Only calls of the lowest rank begin anything. -/
theorem begun_append_of_rank (h : ∀ c ∈ more, c.rank ≠ 0) : begun (calls ++ more) = begun calls := by
  rw [begun_append, begun_of_rank h, Nat.add_zero]

/-- Calls of other ranks commit nothing. -/
theorem commits_of_rank (h : ∀ c ∈ calls, c.rank ≠ 1) : commits calls = [] :=
  List.filterMap_eq_nil_iff.mpr fun c hc => by
    have := h c hc
    cases c with
    | commit => exact absurd rfl this
    | _ => rfl

/-- Calls of other ranks roll nothing back. -/
theorem rollbacks_of_rank (h : ∀ c ∈ calls, c.rank ≠ 2) : rollbacks calls = [] :=
  List.filterMap_eq_nil_iff.mpr fun c hc => by
    have := h c hc
    cases c with
    | rollback => exact absurd rfl this
    | _ => rfl

/-- Calls of other ranks release nothing. -/
theorem releases_of_rank (h : ∀ c ∈ calls, c.rank ≠ 3) : releases calls = [] :=
  List.filterMap_eq_nil_iff.mpr fun c hc => by
    have := h c hc
    cases c with
    | release => exact absurd rfl this
    | _ => rfl

/-- The calls are in the order of their ranks, and none ranks higher. -/
structure Ranked (highest : Nat) (calls : List Call) : Prop where
  sorted : calls.Pairwise fun a b => a.rank ≤ b.rank
  bound : ∀ c ∈ calls, c.rank ≤ highest

theorem Ranked.mono {low high : Nat} (h : Ranked low calls) (hle : low ≤ high) :
    Ranked high calls :=
  ⟨h.sorted, fun c hc => Nat.le_trans (h.bound c hc) hle⟩

/-- Calls of one rank that is not below those before. -/
theorem Ranked.append {low high : Nat} (h : Ranked low calls) (hle : low ≤ high)
    (hmore : ∀ c ∈ more, c.rank = high) : Ranked high (calls ++ more) where
  sorted := by
    refine List.pairwise_append.mpr ⟨h.sorted, ?_, ?_⟩
    · refine List.pairwise_of_forall_mem_list fun a ha b hb => ?_
      exact Nat.le_of_eq ((hmore a ha).trans (hmore b hb).symm)
    · intro a ha b hb
      have := h.bound a ha
      rw [hmore b hb]
      omega
  bound c hc := by
    rcases List.mem_append.mp hc with hc | hc
    · exact Nat.le_trans (h.bound c hc) hle
    · exact Nat.le_of_eq (hmore c hc)

end Parts

/-! ## The calls of a round -/

section Round

variable {answers : Answers} {ps : List (Participant Nat)}

/-- The calls of a round of rollbacks are rollbacks that no token interrupted. -/
theorem mem_rollbackCalls {c : Call} (h : c ∈ ps.flatMap (rollbackCall answers)) :
    ∃ i outcome, c = .rollback i (.finished outcome) := by
  obtain ⟨p, -, hc⟩ := List.mem_flatMap.mp h
  unfold Participant.rollbackCall at hc
  split at hc
  · obtain ⟨i, -, rfl⟩ := List.mem_map.mp hc
    exact ⟨i, _, rfl⟩
  · cases hc

/-- The calls of a round of commits are commits that no token interrupted. -/
theorem mem_commitCalls {c : Call} (h : c ∈ ps.flatMap (commitCall answers)) :
    ∃ i outcome, c = .commit i (.finished outcome) := by
  obtain ⟨p, -, hc⟩ := List.mem_flatMap.mp h
  obtain ⟨i, -, rfl⟩ := List.mem_map.mp hc
  exact ⟨i, _, rfl⟩

/-- The calls of a release are releases. -/
theorem mem_releaseCalls {c : Call} (h : c ∈ releaseCalls ps) : ∃ i, c = .release i := by
  obtain ⟨i, -, rfl⟩ := List.mem_map.mp h
  exact ⟨i, rfl⟩

/-- Rollbacks come after commits. -/
theorem rank_rollbackCalls : ∀ c ∈ ps.flatMap (rollbackCall answers), c.rank = 2 := by
  intro c hc
  obtain ⟨i, outcome, rfl⟩ := mem_rollbackCalls hc
  rfl

theorem rank_commitCalls : ∀ c ∈ ps.flatMap (commitCall answers), c.rank = 1 := by
  intro c hc
  obtain ⟨i, outcome, rfl⟩ := mem_commitCalls hc
  rfl

/-- An interrupted rollback ranks with the others. -/
theorem rank_interruptedRollback {i : Nat} {outcomeUnknown : Bool} :
    ∀ c ∈ interruptedRollback i outcomeUnknown, c.rank = 2 := by
  cases outcomeUnknown <;> simp [interruptedRollback, Call.rank]

theorem rank_releaseCalls : ∀ c ∈ releaseCalls ps, c.rank = 3 := by
  intro c hc
  obtain ⟨i, rfl⟩ := mem_releaseCalls hc
  rfl

/-- The commit at which a completion halts ranks with the others. -/
theorem rank_haltCalls {halt : Halt} {i : Nat} : ∀ c ∈ halt.calls i, c.rank = 1 := by
  cases halt <;> simp [Halt.calls, Call.rank]

/-- A round of commits commits the handles in their order. -/
theorem commits_commitCalls : commits (ps.flatMap (commitCall answers)) = handles ps := by
  rw [commitCalls_eq]
  simp only [commits, commitsOf, List.filterMap_map, Function.comp_def, Call.committing?,
    List.filterMap_some]

/-- A release releases the handles in their order. -/
theorem releases_releaseCalls : releases (releaseCalls ps) = handles ps := by
  simp only [releases, releaseCalls, List.filterMap_map, Function.comp_def, Call.releasing?,
    List.filterMap_some]

/-- A release rolls nothing back. -/
theorem rollbacks_releaseCalls : rollbacks (releaseCalls ps) = [] :=
  rollbacks_of_rank fun c hc => by
    rw [rank_releaseCalls c hc]
    omega

/-- Participants that all hold handles, by the numbers of their places. -/
theorem map_handle_eq
    (hnumber : ∀ i (p : Participant Nat), ps[i]? = some p → ∀ j, p.handle = some j → j = i)
    (hheld : ∀ p ∈ ps, p.handle.isSome = true) :
    ps.map Participant.handle = (List.range ps.length).map some := by
  apply List.ext_getElem
  · simp only [List.length_map, List.length_range]
  · intro i hi _
    rw [List.length_map] at hi
    obtain ⟨j, hj⟩ := Option.isSome_iff_exists.mp (hheld _ (List.getElem_mem hi))
    have := hnumber i _ (List.getElem?_eq_getElem hi) j hj
    simp only [List.getElem_map, List.getElem_range, hj, this]

/-- Handles that are numbered by their places are numbered from zero on. -/
theorem handles_eq_range (h : ps.map Participant.handle = (List.range ps.length).map some) :
    handles ps = List.range ps.length := by
  calc handles ps = (ps.map Participant.handle).filterMap (fun held => held) := by
        simp only [handles, List.filterMap_map, Function.comp_def]
    _ = List.range ps.length := by
        rw [h, List.filterMap_map]
        exact List.filterMap_some

end Round

/-! ## The invariant -/

/-- The highest rank that the calls of a scope in this state can have. -/
def reached (s : Scope Nat) : Nat :=
  if s.state = .disposed then 3 else if s.enlistObstacle = none then 0 else 2

/-- A scope that takes participants has made calls of the lowest rank only. -/
theorem reached_of_open {s : Scope Nat} (h : s.enlistObstacle = none) : reached s = 0 := by
  obtain ⟨hstate, -, -⟩ := (enlistObstacle_eq_none_iff s).mp h
  simp only [reached, hstate, h, reduceCtorEq, if_false, if_true]

/-- A scope that takes no more participants may have committed and rolled back. -/
theorem reached_of_closed {s : Scope Nat} (hstate : s.state ≠ .disposed)
    (h : s.enlistObstacle ≠ none) : reached s = 2 := by
  simp only [reached, hstate, h, if_false]

/-- Once completion was attempted nobody enlists. -/
theorem reached_of_attempted {s : Scope Nat} (hstate : s.state ≠ .disposed)
    (h : s.completeAttempted = true) : reached s = 2 := by
  refine reached_of_closed hstate fun hopen => ?_
  obtain ⟨-, -, hattempted⟩ := (enlistObstacle_eq_none_iff s).mp hopen
  cases h.symm.trans hattempted

/-- Once a disposal is under way nobody enlists. -/
theorem reached_of_disposing {s : Scope Nat} (hstate : s.state ≠ .disposed)
    (h : s.disposing = true) : reached s = 2 := by
  refine reached_of_closed hstate fun hopen => ?_
  obtain ⟨-, hdisposing, -⟩ := (enlistObstacle_eq_none_iff s).mp hopen
  cases h.symm.trans hdisposing

/-- Nothing is released before the disposal. -/
theorem reached_le_two {s : Scope Nat} (hstate : s.state ≠ .disposed) : reached s ≤ 2 := by
  unfold reached
  rw [if_neg hstate]
  split <;> omega

/-- What was called already, against the state of the scope. -/
structure Ledger (discipline : Discipline) (u : Usage) : Prop where
  accounts : Accounts u.scope.participants u.calls
  ranked : Ranked (reached u.scope) u.calls
  numbered : begun u.calls = if u.scope.mode = some .own then u.scope.participants.length else 0
  consecutive : ∃ n, n ≤ begun u.calls ∧ commits u.calls = List.range n
  released : releases u.calls =
    if u.scope.state = .disposed then List.range (begun u.calls) else []
  uninterrupted : discipline = .blocking → ∀ c ∈ u.calls, ∀ i, c ≠ .rollback i .interrupted

/-- The ledger of a scope that has called nothing. -/
theorem ledger_start (discipline : Discipline) (id : String) (options : ScopeOptions)
    (ambients : Ambients) : Ledger discipline (Usage.start id options ambients) where
  accounts := .nil
  ranked := ⟨.nil, fun _ hc => absurd hc List.not_mem_nil⟩
  numbered := rfl
  consecutive := ⟨0, Nat.le_refl 0, rfl⟩
  released := rfl
  uninterrupted _ _ hc := absurd hc List.not_mem_nil

namespace Ledger

variable {discipline : Discipline} {u : Usage}

/-- Every participant of an own transaction holds its handle until the scope is disposed of. -/
theorem map_handle (h : Ledger discipline u) (hsound : Sound u)
    (hstate : u.scope.state ≠ .disposed) (hmode : u.scope.mode = some .own) :
    u.scope.participants.map Participant.handle =
      (List.range u.scope.participants.length).map some :=
  map_handle_eq h.accounts.number ((hsound.own hmode).held hstate)

/-- The handles held are those of all transactions begun, in order. -/
theorem handles_eq (h : Ledger discipline u) (hsound : Sound u)
    (hstate : u.scope.state ≠ .disposed) :
    handles u.scope.participants = List.range (begun u.calls) := by
  rw [h.numbered]
  by_cases hmode : u.scope.mode = some .own
  · rw [if_pos hmode]
    exact handles_eq_range (h.map_handle hsound hstate hmode)
  · rw [if_neg hmode]
    exact List.filterMap_eq_nil_iff.mpr fun p hp => (hsound.enlisted hmode p hp).1

/-- The participants cut in two: their handles are numbered on. -/
theorem cut (h : Ledger discipline u) (hsound : Sound u) (hstate : u.scope.state ≠ .disposed)
    (mode : u.scope.mode = some .own) {done rest : List (Participant Nat)}
    (split : u.scope.participants = done ++ rest) :
    handles done = List.range done.length ∧
      handles rest = List.range' done.length rest.length := by
  have hall := h.handles_eq hsound hstate
  have hheld := (hsound.own mode).held hstate
  rw [h.numbered, if_pos mode, split, List.length_append, List.range_add,
    ← List.range'_eq_map_range] at hall
  rw [split, List.forall_mem_append] at hheld
  have hlength : (handles done).length = (List.range done.length).length := by
    rw [List.length_range]
    exact List.filterMap_length_eq_length.mpr hheld.1
  have hcut : handles done ++ handles rest =
      List.range done.length ++ List.range' done.length rest.length := by
    rw [← hall]
    exact List.filterMap_append.symm
  exact List.append_inj hcut hlength

/-- The handle where a round stops has the number of the place. -/
theorem place (h : Ledger discipline u) {done rest : List (Participant Nat)} {p : Participant Nat}
    {i : Nat} (split : u.scope.participants = done ++ p :: rest) (handle : p.handle = some i) :
    i = done.length := by
  refine h.accounts.number done.length p ?_ i handle
  have := getElem?_between done p rest []
  rwa [List.append_nil, ← split] at this

/-- The handle of a participant is the number of its transaction, which is its index. -/
theorem handle_eq_index (h : Ledger discipline u) (hsound : Sound u) {p : Participant Nat}
    (hp : p ∈ u.scope.participants) : ∀ i, p.handle = some i → i = p.index := by
  intro i hi
  obtain ⟨k, hk⟩ := List.mem_iff_getElem?.mp hp
  rw [hsound.coherent.index k p hk]
  exact h.accounts.number k p hk i hi

/-- A scope that still takes participants has neither committed nor rolled back. -/
theorem fresh (h : Ledger discipline u) (hopen : u.scope.enlistObstacle = none) :
    ∀ c ∈ u.calls, c.rank = 0 := by
  intro c hc
  have := h.ranked.bound c hc
  rw [reached_of_open hopen] at this
  omega

/-- A call of a scope that still takes participants. -/
theorem early (h : Ledger discipline u) {s : Scope Nat} {ambients : Ambients} {c : Call}
    (hopen : u.scope.enlistObstacle = none) (hs : s.enlistObstacle = none) (hc : c.rank = 0)
    (haccounts : Accounts s.participants u.calls)
    (hnumbered : begun (u.calls ++ [c]) =
      if s.mode = some .own then s.participants.length else 0) :
    Ledger discipline { scope := s, ambients, calls := u.calls ++ [c] } where
  accounts := by
    refine haccounts.idle (List.forall_mem_singleton.mpr ?_)
    cases c with
    | begin => rfl
    | join => rfl
    | _ => cases hc
  ranked := by
    have := h.ranked
    rw [reached_of_open hopen] at this
    rw [reached_of_open hs]
    exact this.append (Nat.le_refl 0) (List.forall_mem_singleton.mpr hc)
  numbered := hnumbered
  consecutive := by
    obtain ⟨n, hn, hcommits⟩ := h.consecutive
    refine ⟨n, ?_, ?_⟩
    · rw [begun_append]
      omega
    · rw [commits_append, hcommits, commits_of_rank, List.append_nil]
      exact List.forall_mem_singleton.mpr (by omega)
  released := by
    obtain ⟨hstate, -, -⟩ := (enlistObstacle_eq_none_iff _).mp hopen
    obtain ⟨hstate', -, -⟩ := (enlistObstacle_eq_none_iff _).mp hs
    rw [releases_append, h.released, releases_of_rank, if_neg (not_disposed hstate),
      if_neg (not_disposed hstate'), List.append_nil]
    exact List.forall_mem_singleton.mpr (by omega)
  uninterrupted hblocking := by
    refine List.forall_mem_append.mpr ⟨h.uninterrupted hblocking, ?_⟩
    refine List.forall_mem_singleton.mpr fun i hi => ?_
    rw [hi] at hc
    cases hc

/-- Calls of a scope that takes no more participants after them. -/
theorem later (h : Ledger discipline u) {s : Scope Nat} {more : List Call}
    (hmode : s.mode = u.scope.mode) (hlength : s.participants.length = u.scope.participants.length)
    (hbegun : ∀ c ∈ more, c.rank ≠ 0) (haccounts : Accounts s.participants (u.calls ++ more))
    (hranked : Ranked (reached s) (u.calls ++ more))
    (hconsecutive : ∃ n, n ≤ begun u.calls ∧ commits (u.calls ++ more) = List.range n)
    (hreleased : releases (u.calls ++ more) =
      if s.state = .disposed then List.range (begun u.calls) else [])
    (huninterrupted : discipline = .blocking → ∀ c ∈ more, ∀ i, c ≠ .rollback i .interrupted) :
    Ledger discipline { u with scope := s, calls := u.calls ++ more } := by
  have hsame : begun (u.calls ++ more) = begun u.calls := begun_append_of_rank hbegun
  exact
    { accounts := haccounts
      ranked := hranked
      numbered := by simp only [hsame, hmode, hlength, h.numbered]
      consecutive := by simpa only [hsame] using hconsecutive
      released := by simpa only [hsame] using hreleased
      uninterrupted := fun hblocking =>
        List.forall_mem_append.mpr ⟨h.uninterrupted hblocking, huninterrupted hblocking⟩ }

end Ledger

/-! ## The steps -/

section Steps

variable {discipline : Discipline} {u : Usage}

/-- An enlistment in an ambient transaction keeps the ledger. -/
theorem ledger_joined (h : Ledger discipline u) {name : String}
    {offered : Option AmbientRef} {place : AmbientRef} {found : Ambient} {c : Call}
    (plan : Planned u.scope u.ambients name offered (.ok (.ambient place found)))
    (hc : c.rank = 0) (hbegun : c.isBegun = false) :
    Ledger discipline
      { scope := u.scope.withAmbient name place found
        ambients := u.ambients.modify place Ambient.countEnlistment
        calls := u.calls ++ [c] } := by
  have hopen := plan.obstacle
  cases plan with
  | ambient obstacle mode stored active =>
    have hmode : (u.scope.withAmbient name place found).mode = some (.ambient place) := by
      rcases mode with hmode | ⟨hmode, -, -⟩ <;> simp only [withAmbient, hmode, Option.getD_some,
        Option.getD_none]
    have hnone : begun u.calls = 0 := by
      rw [h.numbered]
      rcases mode with hmode | ⟨hmode, -, -⟩ <;>
        exact if_neg fun hown => by cases hmode.symm.trans hown
    refine h.early hopen hopen hc
      (h.accounts.enlist rfl (fun _ hnumber => by cases hnumber) (h.fresh hopen)) ?_
    rw [if_neg (fun hown => by cases hmode.symm.trans hown), begun_append, hnone]
    simp only [begun, List.countP_singleton, hbegun, Bool.false_eq_true, if_false]

/-- The next transaction begun has the number of the next participant. -/
theorem Ledger.next (h : Ledger discipline u) (hsound : Sound u) {name : String}
    {offered : Option AmbientRef} {isolation : IsolationLevel}
    (plan : Planned u.scope u.ambients name offered (.ok (.own isolation))) :
    begun u.calls = u.scope.participants.length := by
  cases plan with
  | own obstacle mode =>
    rw [h.numbered]
    rcases mode with hmode | ⟨hmode, -⟩
    · rw [if_pos hmode]
    · rw [if_neg (fun hown => by cases hmode.symm.trans hown), hsound.unset.mp hmode]
      rfl

/-- So does one that begins a transaction, which gets the number of its participant. -/
theorem ledger_begun (hsound : Sound u) (h : Ledger discipline u) {name : String}
    {offered : Option AmbientRef} {isolation : IsolationLevel}
    (plan : Planned u.scope u.ambients name offered (.ok (.own isolation))) :
    Ledger discipline
      { u with
        scope := u.scope.withOwn name isolation (begun u.calls)
        calls := u.calls ++ [.begin name isolation (.ok ())] } := by
  have hopen := plan.obstacle
  have hnext := h.next hsound plan
  have hmode : (u.scope.withOwn name isolation (begun u.calls)).mode = some .own := by
    cases plan with
    | own obstacle mode =>
      rcases mode with hmode | ⟨hmode, -⟩ <;> simp only [withOwn, hmode, Option.getD_some,
        Option.getD_none]
  refine h.early hopen hopen rfl (h.accounts.enlist rfl ?_ (h.fresh hopen)) ?_
  · intro j hj
    cases hj
    exact hnext
  · rw [hmode, if_pos rfl, begun_append, hnext, withOwn, List.length_append]
    rfl

/-- So does any enlistment. -/
theorem ledger_enlist (hsound : Sound u) (h : Ledger discipline u) (applicant : Applicant)
    (offered : Option AmbientRef) : Ledger discipline (u.enlist applicant offered).2 := by
  have hsame {c : Call} (hbegun : c.isBegun = false) :
      begun (u.calls ++ [c]) =
        if u.scope.mode = some .own then u.scope.participants.length else 0 := by
    rw [begun_append, ← h.numbered]
    simp only [begun, List.countP_singleton, hbegun, Bool.false_eq_true, if_false, Nat.add_zero]
  have hstep := enlistStep u applicant offered
  generalize u.enlist applicant offered = r at hstep ⊢
  cases hstep with
  | refused plan => exact h
  | notJoined plan join => exact h.early plan.obstacle plan.obstacle rfl h.accounts (hsame rfl)
  | notBegun plan begin => exact h.early plan.obstacle plan.obstacle rfl h.accounts (hsame rfl)
  | joined plan join => exact ledger_joined h plan rfl rfl
  | begun plan begin => exact ledger_begun hsound h plan

/-- A scope may be completed as long as it takes participants. -/
theorem completable_iff {H : Type} (s : Scope H) :
    s.completeObstacle = none ↔ s.enlistObstacle = none := by
  rw [completeObstacle_eq_none_iff, enlistObstacle_eq_none_iff]

/-- A completion that got through leaves a scope that takes no more participants. -/
theorem ledger_through (hsound : Sound u) (h : Ledger discipline u) {answers : Answers}
    (obstacle : u.scope.completeObstacle = none) (mode : u.scope.mode = some .own)
    (commits : ∀ p ∈ u.scope.participants, p.Commits answers) :
    Ledger discipline
      { u with
        scope := { u.scope with
          completeAttempted := true
          state := .completed
          participants := u.scope.participants.map Participant.committed }
        calls := u.calls ++ u.scope.participants.flatMap (commitCall answers) } := by
  have hfresh := h.fresh ((completable_iff _).mp obstacle)
  obtain ⟨hstate, -, -⟩ := (completeObstacle_eq_none_iff _).mp obstacle
  have hranked : Ranked 0 u.calls := ⟨h.ranked.sorted, fun c hc => Nat.le_of_eq (hfresh c hc)⟩
  have haccounts : Accounts ([] ++ u.scope.participants ++ []) u.calls := by
    simpa only [List.nil_append, List.append_nil] using h.accounts
  have hpending := hsound.pending obstacle mode
  have hcommitted := haccounts.commitAll answers hpending commits fun c hc => by
    rw [hfresh c hc]
    omega
  refine h.later rfl (List.length_map _) ?_ ?_ ?_ ?_ ?_ ?_
  · intro c hc
    rw [rank_commitCalls c hc]
    omega
  · simpa only [List.nil_append, List.append_nil] using hcommitted
  · rw [reached_of_attempted (fun hdisposed => by cases hdisposed) rfl]
    exact (hranked.append (Nat.zero_le 1) rank_commitCalls).mono (by omega)
  · refine ⟨begun u.calls, Nat.le_refl _, ?_⟩
    rw [commits_append, commits_of_rank fun c hc => by rw [hfresh c hc]; omega, commits_commitCalls,
      List.nil_append, h.handles_eq hsound (not_disposed hstate)]
  · rw [releases_append, h.released, hstate, releases_of_rank]
    · rfl
    · intro c hc
      rw [rank_commitCalls c hc]
      omega
  · intro _ c hc i hi
    obtain ⟨_, _, rfl⟩ := mem_commitCalls hc
    cases hi

section Halted

variable {answers : Answers} {done rest : List (Participant Nat)} {p : Participant Nat} {i : Nat}
  {halt : Halt}

/-- The calls of a completion that halts. -/
theorem mem_haltedCalls {c : Call} (h : c ∈ done.flatMap (commitCall answers) ++
      (halt.calls i ++ (p :: rest).flatMap (rollbackCall answers))) :
    c.rank = 1 ∨ ∃ j outcome, c = .rollback j (.finished outcome) := by
  rcases List.mem_append.mp h with h | h
  · exact .inl (rank_commitCalls c h)
  · rcases List.mem_append.mp h with h | h
    · exact .inl (rank_haltCalls c h)
    · exact .inr (mem_rollbackCalls h)

/-- A completion that halts commits first and rolls back then. -/
theorem ranked_halted {calls : List Call} (h : Ranked 0 calls) :
    Ranked 2 (calls ++ (done.flatMap (commitCall answers) ++
      (halt.calls i ++ (p :: rest).flatMap (rollbackCall answers)))) := by
  have hcommits : Ranked 1 (calls ++ done.flatMap (commitCall answers)) :=
    h.append (Nat.zero_le 1) rank_commitCalls
  have hhalt : Ranked 1 (calls ++ done.flatMap (commitCall answers) ++ halt.calls i) :=
    hcommits.append (Nat.le_refl 1) rank_haltCalls
  have hrollbacks : Ranked 2 (calls ++ done.flatMap (commitCall answers) ++ halt.calls i ++
      (p :: rest).flatMap (rollbackCall answers)) :=
    hhalt.append (Nat.le_succ 1) rank_rollbackCalls
  simpa only [List.append_assoc] using hrollbacks

/-- The commits of a completion that halts: of those before the halt, and maybe of that one. -/
theorem commits_halted (answers : Answers) (rest : List (Participant Nat)) (p : Participant Nat)
    (halt : Halt) (hi : i = done.length) (hdone : handles done = List.range done.length) :
    ∃ n, n ≤ (done ++ p :: rest).length ∧
      commits (done.flatMap (commitCall answers) ++ (halt.calls i ++
        (p :: rest).flatMap (rollbackCall answers))) = List.range n := by
  have hrollbacks : commits ((p :: rest).flatMap (rollbackCall answers)) = [] :=
    commits_of_rank fun c hc => by
      rw [rank_rollbackCalls c hc]
      omega
  have hlength : done.length + 1 ≤ (done ++ p :: rest).length := by
    simp only [List.length_append, List.length_cons]
    omega
  rw [commits_append, commits_append, commits_commitCalls, hdone, hrollbacks, List.append_nil, hi]
  cases halt with
  | seen => exact ⟨done.length, by omega, List.append_nil _⟩
  | failed source => exact ⟨done.length + 1, hlength, List.range_succ.symm⟩
  | interrupted => exact ⟨done.length + 1, hlength, List.range_succ.symm⟩

/-- A completion that halts leaves a scope that takes no more participants. -/
theorem ledger_halted (hsound : Sound u) (h : Ledger discipline u)
    (obstacle : u.scope.completeObstacle = none) (mode : u.scope.mode = some .own)
    (split : u.scope.participants = done ++ p :: rest)
    (commits : ∀ q ∈ done, q.Commits answers) (handle : p.handle = some i) :
    Ledger discipline
      { u with
        scope := { u.scope with
          completeAttempted := true
          participants := done.map Participant.committed ++ (p :: rest).map Participant.settled }
        calls := u.calls ++ done.flatMap (commitCall answers) ++ halt.calls i ++
          (p :: rest).flatMap (rollbackCall answers) } := by
  have hfresh := h.fresh ((completable_iff _).mp obstacle)
  obtain ⟨hstate, -, -⟩ := (completeObstacle_eq_none_iff _).mp obstacle
  have hranked : Ranked 0 u.calls := ⟨h.ranked.sorted, fun c hc => Nat.le_of_eq (hfresh c hc)⟩
  have hpending := hsound.pending obstacle mode
  have haccounts := h.accounts
  rw [split] at hpending haccounts
  obtain ⟨hdone, -⟩ := List.forall_mem_append.mp hpending
  have hcalls := haccounts.halt answers i halt hdone commits fun c hc => by
    rw [hfresh c hc]
    omega
  have hplace := h.place split handle
  obtain ⟨hheld, -⟩ := h.cut hsound (not_disposed hstate) mode split
  simp only [List.append_assoc] at hcalls ⊢
  refine h.later rfl ?_ ?_ hcalls ?_ ?_ ?_ ?_
  · simp only [split, List.length_append, List.length_map]
  · intro c hc
    rcases mem_haltedCalls hc with hrank | ⟨_, _, rfl⟩
    · omega
    · show 2 ≠ 0
      omega
  · rw [reached_of_attempted (fun hdisposed => by cases hstate.symm.trans hdisposed) rfl]
    exact ranked_halted hranked
  · obtain ⟨n, hn, hcommits⟩ := commits_halted answers rest p halt hplace hheld
    refine ⟨n, ?_, ?_⟩
    · rwa [h.numbered, if_pos mode, split]
    · rwa [commits_append, commits_of_rank fun c hc => by rw [hfresh c hc]; omega, List.nil_append]
  · rw [releases_append, h.released, hstate, releases_of_rank]
    · rfl
    · intro c hc
      rcases mem_haltedCalls hc with hrank | ⟨_, _, rfl⟩
      · omega
      · show 2 ≠ 3
        omega
  · intro _ c hc j hj
    rcases mem_haltedCalls hc with hrank | ⟨_, _, rfl⟩
    · rw [hj] at hrank
      cases hrank
    · cases hj

end Halted

/-- A completion keeps the ledger, whatever it comes to. -/
theorem ledger_complete (hsound : Sound u) (h : Ledger discipline u) (answers : Answers)
    (token : Option Token) : Ledger discipline (u.complete discipline answers token).2 := by
  have hstep := completeStep u discipline answers token hsound.pending
  generalize u.complete discipline answers token = r at hstep ⊢
  cases hstep with
  | refused obstacle => exact h
  | quiet obstacle mode =>
    obtain ⟨hstate, -, -⟩ := (completeObstacle_eq_none_iff _).mp obstacle
    refine
      { accounts := h.accounts
        ranked := ?_
        numbered := h.numbered
        consecutive := h.consecutive
        released := ?_
        uninterrupted := h.uninterrupted }
    · rw [reached_of_attempted (fun hdisposed => by cases hdisposed) rfl]
      exact h.ranked.mono (reached_le_two (not_disposed hstate))
    · rw [h.released, hstate]
      rfl
  | through obstacle mode commits => exact ledger_through hsound h obstacle mode commits
  | halted obstacle mode split commits handle halts =>
    exact ledger_halted hsound h obstacle mode split commits handle

/-- The releases that close a scope. -/
theorem ledger_closed (h : Ledger discipline u) {ps : List (Participant Nat)} (disposing : Bool)
    {rolled : List Call} (hlength : ps.length = u.scope.participants.length)
    (hreleases : releases u.calls = [])
    (hhandles : handles u.scope.participants = List.range (begun u.calls))
    (hrolled : ∀ c ∈ rolled, ∃ i outcome, c = .rollback i (.finished outcome))
    (haccounts : Accounts ps (u.calls ++ rolled)) (hranked : Ranked 2 (u.calls ++ rolled)) :
    Ledger discipline
      { u with
        scope := closed u.scope ps disposing
        calls := u.calls ++ rolled ++ releaseCalls u.scope.participants } := by
  have hranks : ∀ c ∈ rolled, c.rank = 2 := fun c hc => by
    obtain ⟨_, _, rfl⟩ := hrolled c hc
    rfl
  have hidle : ∀ c ∈ releaseCalls u.scope.participants, c.isIdle = true := fun c hc => by
    obtain ⟨_, rfl⟩ := mem_releaseCalls hc
    rfl
  have hmore : ∀ c ∈ rolled ++ releaseCalls u.scope.participants, c.rank = 2 ∨ c.rank = 3 :=
    List.forall_mem_append.mpr
      ⟨fun c hc => .inl (hranks c hc), fun c hc => .inr (rank_releaseCalls c hc)⟩
  have hcalls := haccounts.map_released.idle hidle
  have hsorted : Ranked 3 (u.calls ++ rolled ++ releaseCalls u.scope.participants) :=
    hranked.append (Nat.le_succ 2) rank_releaseCalls
  rw [List.append_assoc] at hcalls hsorted ⊢
  refine h.later rfl ?_ ?_ hcalls hsorted ?_ ?_ ?_
  · rw [closed, List.length_map, hlength]
  · intro c hc
    have := hmore c hc
    omega
  · obtain ⟨n, hn, hcommits⟩ := h.consecutive
    refine ⟨n, hn, ?_⟩
    rw [commits_append, hcommits, commits_of_rank, List.append_nil]
    intro c hc
    have := hmore c hc
    omega
  · rw [releases_append, releases_append, hreleases, releases_releaseCalls, hhandles,
      releases_of_rank fun c hc => by rw [hranks c hc]; omega]
    rfl
  · intro _ c hc j hj
    rcases List.mem_append.mp hc with hc | hc
    · obtain ⟨_, _, rfl⟩ := hrolled c hc
      cases hj
    · rw [hj] at hc
      cases rank_releaseCalls _ hc

/-- A disposal that stops, after some rollbacks and maybe one that was interrupted. -/
theorem ledger_stopped (h : Ledger discipline u) {answers : Answers} {token : Option Token}
    {settled rest : List (Participant Nat)} {p : Participant Nat} {i : Nat}
    {outcomeUnknown : Bool} (needs : u.scope.needsRollback = true)
    (split : u.scope.participants = settled ++ p :: rest) (pending : p.isPending = true)
    (handle : p.handle = some i)
    (stops : (discipline.token token).Stops (u.calls ++ settled.flatMap (rollbackCall answers))
      outcomeUnknown) :
    Ledger discipline
      { u with
        scope := { u.scope with
          disposing := true
          participants := settled.map Participant.settled ++ p :: rest }
        calls := u.calls ++ settled.flatMap (rollbackCall answers) ++
          interruptedRollback i outcomeUnknown } := by
  obtain ⟨-, hstate⟩ := (needsRollback_iff _).mp needs
  have haccounts := h.accounts
  rw [split] at haccounts
  have hcalls := haccounts.stop answers pending handle outcomeUnknown
  have hranks : ∀ c ∈ settled.flatMap (rollbackCall answers) ++
      interruptedRollback i outcomeUnknown, c.rank = 2 :=
    List.forall_mem_append.mpr ⟨rank_rollbackCalls, rank_interruptedRollback⟩
  have hopen := not_disposed hstate
  rw [List.append_assoc] at hcalls ⊢
  refine h.later rfl ?_ ?_ hcalls ?_ ?_ ?_ ?_
  · simp only [split, List.length_append, List.length_map]
  · intro c hc
    rw [hranks c hc]
    omega
  · have hreached : reached { u.scope with
        disposing := true
        participants := settled.map Participant.settled ++ p :: rest } = 2 :=
      reached_of_disposing hopen rfl
    rw [hreached]
    exact h.ranked.append (reached_le_two hopen) hranks
  · obtain ⟨n, hn, hcommits⟩ := h.consecutive
    refine ⟨n, hn, ?_⟩
    rw [commits_append, hcommits, commits_of_rank fun c hc => by rw [hranks c hc]; omega,
      List.append_nil]
  · rw [releases_append, h.released, hstate, releases_of_rank fun c hc => by rw [hranks c hc]; omega]
    rfl
  · rintro rfl
    exact absurd stops Token.never_stops

/-- So does a disposal, a cancelled one included. -/
theorem ledger_dispose (hsound : Sound u) (h : Ledger discipline u) (answers : Answers)
    (token : Option Token) : Ledger discipline (u.dispose discipline answers token).2 := by
  have hreleases (hstate : u.scope.state ≠ .disposed) : releases u.calls = [] := by
    rw [h.released, if_neg hstate]
  have hstep := disposeStep u discipline answers token
  generalize u.dispose discipline answers token = r at hstep ⊢
  cases hstep with
  | again disposed => exact h
  | @quiet disposing state needs =>
    have haccounts : Accounts u.scope.participants (u.calls ++ []) := by
      simpa only [List.append_nil] using h.accounts
    have hranked : Ranked 2 (u.calls ++ []) := by
      simpa only [List.append_nil] using h.ranked.mono (reached_le_two state)
    have hnone : ∀ c ∈ ([] : List Call), ∃ i outcome, c = .rollback i (.finished outcome) :=
      fun _ hc => absurd hc List.not_mem_nil
    have hclosed := ledger_closed h disposing rfl (hreleases state) (h.handles_eq hsound state)
      hnone haccounts hranked
    simpa only [List.append_nil] using hclosed
  | @through disposing needs =>
    obtain ⟨-, hstate⟩ := (needsRollback_iff _).mp needs
    have hopen := not_disposed hstate
    have haccounts : Accounts ([] ++ u.scope.participants ++ []) u.calls := by
      simpa only [List.nil_append, List.append_nil] using h.accounts
    have hsettled := haccounts.settle answers
    rw [List.nil_append, List.append_nil] at hsettled
    exact ledger_closed h disposing (List.length_map _) (hreleases hopen) (h.handles_eq hsound hopen)
      (fun c hc => mem_rollbackCalls hc) hsettled
      (h.ranked.append (reached_le_two hopen) rank_rollbackCalls)
  | stopped needs split pending handle stops =>
    exact ledger_stopped h needs split pending handle stops

/-- A completion begins nothing. -/
theorem begun_complete (hsound : Sound u) (answers : Answers) (token : Option Token) :
    begun (u.complete discipline answers token).2.calls = begun u.calls := by
  have hstep := completeStep u discipline answers token hsound.pending
  generalize u.complete discipline answers token = r at hstep ⊢
  cases hstep with
  | refused obstacle => rfl
  | quiet obstacle mode => rfl
  | through obstacle mode commits =>
    apply begun_append_of_rank
    intro c hc
    rw [rank_commitCalls c hc]
    omega
  | halted obstacle mode split commits handle halts =>
    simp only [List.append_assoc]
    apply begun_append_of_rank
    intro c hc
    rcases mem_haltedCalls hc with hrank | ⟨_, _, rfl⟩
    · omega
    · show 2 ≠ 0
      omega

/-- A disposal begins nothing. -/
theorem begun_dispose (answers : Answers) (token : Option Token) :
    begun (u.dispose discipline answers token).2.calls = begun u.calls := by
  have hrolled (ps : List (Participant Nat)) : ∀ c ∈ ps.flatMap (rollbackCall answers), c.rank ≠ 0 := by
    intro c hc
    rw [rank_rollbackCalls c hc]
    omega
  have hstep := disposeStep u discipline answers token
  generalize u.dispose discipline answers token = r at hstep ⊢
  cases hstep with
  | again disposed => rfl
  | quiet state needs =>
    apply begun_append_of_rank
    intro c hc
    rw [rank_releaseCalls c hc]
    omega
  | through needs =>
    refine (begun_append_of_rank ?_).trans (begun_append_of_rank (hrolled _))
    intro c hc
    rw [rank_releaseCalls c hc]
    omega
  | stopped needs split pending handle stops =>
    refine (begun_append_of_rank ?_).trans (begun_append_of_rank (hrolled _))
    intro c hc
    rw [rank_interruptedRollback c hc]
    omega

/-- Every use keeps the ledger, and the soundness it rests on. -/
theorem ledger_step (u : Usage) (use : Use) (h : Sound u ∧ Ledger discipline u) :
    Sound (u.step discipline use) ∧ Ledger discipline (u.step discipline use) := by
  obtain ⟨hsound, h⟩ := h
  refine ⟨sound_step discipline u use hsound, ?_⟩
  cases use with
  | enlist applicant offered => exact ledger_enlist hsound h applicant offered
  | complete answers token => exact ledger_complete hsound h answers token
  | dispose answers token => exact ledger_dispose hsound h answers token
  | outside event =>
    exact ⟨h.accounts, h.ranked, h.numbered, h.consecutive, h.released, h.uninterrupted⟩

end Steps

/-- The ledger is right in every state of a run. -/
theorem ledger_run (discipline : Discipline) (id : String) (options : ScopeOptions)
    (ambients : Ambients) (uses : List Use) :
    Ledger discipline ((Usage.start id options ambients).run discipline uses) :=
  (Usage.run_induction (P := fun u => Sound u ∧ Ledger discipline u) ledger_step
    ⟨sound_start id options ambients, ledger_start discipline id options ambients⟩ uses).2

end UnitOfWork.Scope
