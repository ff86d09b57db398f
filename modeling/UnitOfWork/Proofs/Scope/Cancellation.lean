import UnitOfWork.Proofs.Scope.Completion

/-!
# A completion under a token

A completion under a token halts at the first participant at which the commits do not get on: its
commit fails, the token is seen before its commit is called, or the token fires while its commit waits.
What follows does not depend on the reason and does not look at the token again: the participants before
stay committed, and from that one on each is rolled back once. The failure tells the reason, and whether
a commit was in flight.

`FirstHalt` says where and why a completion halts in terms of the answers and the token alone. The main
statement is `complete_under_token`. A token that fires later than every commit changes nothing.
-/

set_option autoImplicit false

namespace UnitOfWork.Scope

open Participant (rollbackCall commitCall)

/-! ## The statement -/

/-- The commits of the participants before one get on: each succeeds, and the token stops none. -/
def Reaches (answers : Answers) (token : Token) (calls : List Call) (k : Nat) : Prop :=
  ∀ i, i < k → answers.commit i = .ok () ∧ ∀ outcomeUnknown,
    ¬ token.Stops (calls ++ commitsOf answers (List.range i)) outcomeUnknown

/-- The first participant at which the commits do not get on, and why. -/
structure FirstHalt (answers : Answers) (token : Token) (calls : List Call) (k : Nat)
    (halt : Halt) : Prop where
  reached : Reaches answers token calls k
  halts : halt.At answers token (calls ++ commitsOf answers (List.range k)) k

/-- A scope without participants of its own is completed by the mark alone. -/
structure CompletedQuietly (discipline : Discipline) (u : Usage)
    (result : Except TransactionError Unit × Usage) : Prop where
  outcome : result.1 = .ok ()
  calls : result.2.calls = u.calls
  participants : result.2.scope.participants = u.scope.participants
  state : result.2.scope.state = .completed
  after : ∀ later, Spent discipline (result.2.run discipline later)

/-! ## One place to halt, one reason -/

section Halt

variable {answers : Answers} {token : Token} {calls : List Call}

/-- Where a commit gets on, no completion halts. -/
theorem Halt.At.not_through {halt : Halt} {i : Nat} (h : halt.At answers token calls i)
    (hcommit : answers.commit i = .ok ())
    (hpass : ∀ outcomeUnknown, ¬ token.Stops calls outcomeUnknown) : False := by
  cases halt with
  | failed source =>
    obtain ⟨-, -, hfailed⟩ := h
    cases hcommit.symm.trans hfailed
  | seen =>
    apply hpass false
    exact ⟨h, fun hunknown => by cases hunknown⟩
  | interrupted =>
    obtain ⟨hseen, hfires⟩ := h
    exact hpass true ⟨hseen, fun _ => hfires⟩

/-- A completion halts at a participant for one reason. -/
theorem Halt.At.unique {first second : Halt} {i : Nat} (h : first.At answers token calls i)
    (h' : second.At answers token calls i) : first = second := by
  cases first <;> cases second <;> simp only [Halt.At] at h h' <;> grind

theorem FirstHalt.unique {j k : Nat} {first second : Halt}
    (h : FirstHalt answers token calls j first) (h' : FirstHalt answers token calls k second) :
    j = k ∧ first = second := by
  have hle {i l : Nat} {one other : Halt} (hi : FirstHalt answers token calls i one)
      (hl : FirstHalt answers token calls l other) : l ≤ i := by
    refine Nat.le_of_not_lt fun hlt => ?_
    obtain ⟨hcommit, hpass⟩ := hl.reached i hlt
    exact hi.halts.not_through hcommit hpass
  obtain rfl := Nat.le_antisymm (hle h' h) (hle h h')
  exact ⟨rfl, h.halts.unique h'.halts⟩

end Halt

/-! ## The commits of a round, by number -/

section Round

variable {discipline : Discipline} {answers : Answers} {token : Token} {u : Usage}
  {done rest : List (Participant Nat)}

/-- The commits of the participants in front. -/
theorem commitCalls_front (hsound : Sound u) (h : Ledger discipline u)
    (hstate : u.scope.state ≠ .disposed) (mode : u.scope.mode = some .own)
    (split : u.scope.participants = done ++ rest) :
    done.flatMap (commitCall answers) = commitsOf answers (List.range done.length) := by
  obtain ⟨hdone, -⟩ := h.cut hsound hstate mode split
  rw [commitCalls_eq, hdone]

/-- A round that the token let through up to a participant. -/
theorem reaches_of_round (hsound : Sound u) (h : Ledger discipline u)
    (hstate : u.scope.state ≠ .disposed) (mode : u.scope.mode = some .own)
    (split : u.scope.participants = done ++ rest) (commits : ∀ q ∈ done, q.Commits answers)
    (passes : token.Passes answers u.calls done) : Reaches answers token u.calls done.length := by
  obtain ⟨hdone, -⟩ := h.cut hsound hstate mode split
  intro i hi
  refine ⟨answered_of_commits hdone commits i hi, fun outcomeUnknown => ?_⟩
  have hcut : done = done.take i ++ done[i] :: done.drop (i + 1) := by
    rw [List.getElem_cons_drop, List.take_append_drop]
  have hfront : u.scope.participants = done.take i ++ (done.drop i ++ rest) := by
    rw [split, ← List.append_assoc, List.take_append_drop]
  have hlength : (done.take i).length = i := by
    rw [List.length_take]
    omega
  have hpass := passes (done.take i) done[i] (done.drop (i + 1)) hcut outcomeUnknown
  rwa [commitCalls_front hsound h hstate mode hfront, hlength] at hpass

end Round

/-! ## The main statement -/

/-- A completion under a token, of a scope that may be completed. With transactions of its own it
halts at the first participant at which the commits do not get on, and completes if there is none; in
any other mode it completes. -/
theorem complete_under_token (id : String) (options : ScopeOptions) (ambients : Ambients)
    (uses : List Use) (u : Usage) (hu : u = (Usage.start id options ambients).run .suspending uses)
    (hcompletable : u.scope.completeObstacle = none) (answers : Answers) (token : Token) :
    let result := u.complete .suspending answers (some token)
    let n := u.scope.participants.length
    (u.scope.mode = some .own →
      u.scope.participants.map Participant.handle = (List.range n).map some ∧
      (∀ k < n, ∀ halt, FirstHalt answers token u.calls k halt →
        HaltedAt .suspending answers u k halt result) ∧
      ((∀ k < n, ∀ halt, ¬ FirstHalt answers token u.calls k halt) →
        AllCommitted answers u result ∧
          ∀ later, Spent .suspending (result.2.run .suspending later))) ∧
    (u.scope.mode ≠ some .own → CompletedQuietly .suspending u result) := by
  intro result n
  have hsound : Sound u := hu ▸ sound_run .suspending id options ambients uses
  have h : Ledger .suspending u := hu ▸ ledger_run .suspending id options ambients uses
  obtain ⟨hstate, -, -⟩ := (completeObstacle_eq_none_iff _).mp hcompletable
  have hopen := not_disposed hstate
  have hstep := completeStep u .suspending answers (some token) hsound.pending
  change CompleteStep answers token u result at hstep
  generalize result = r at hstep ⊢
  cases hstep with
  | refused obstacle => cases hcompletable.symm.trans obstacle
  | quiet obstacle mode =>
    refine ⟨fun hmode => absurd hmode mode, fun _ => ?_⟩
    have hnone : ∀ p ∈ u.scope.participants, p.isPending = false := by
      intro p hp
      simp only [Participant.isPending, (hsound.enlisted mode p hp).1, Option.isSome_none,
        Bool.and_false]
    exact ⟨rfl, rfl, rfl, rfl, spent_run (idle_completed hnone) .suspending⟩
  | through obstacle mode commits passes =>
    refine ⟨fun _ => ⟨h.map_handle hsound hopen mode, ?_, fun _ => ⟨?_, ?_⟩⟩,
      fun hmode => absurd mode hmode⟩
    · -- Every commit got on, so there is no participant to halt at.
      intro k hk halt hhalt
      have hsplit : u.scope.participants = u.scope.participants ++ [] := (List.append_nil _).symm
      have hreach := reaches_of_round hsound h hopen mode hsplit commits passes
      obtain ⟨hcommit, hpass⟩ := hreach k hk
      exact (hhalt.halts.not_through hcommit hpass).elim
    · exact allCommitted_through hsound h obstacle mode commits
    · exact spent_run (idle_completed (List.forall_mem_map.mpr fun _ _ => rfl)) .suspending
  | @halted done rest p i halt obstacle mode split commits handle halts passes =>
    obtain rfl := h.place split handle
    rw [commitCalls_front hsound h hopen mode split] at halts
    have hfirst : FirstHalt answers token u.calls done.length halt :=
      ⟨reaches_of_round hsound h hopen mode split commits passes, halts⟩
    refine ⟨fun _ => ⟨h.map_handle hsound hopen mode, ?_, fun hnone => ?_⟩,
      fun hmode => absurd mode hmode⟩
    · intro k _ other hother
      obtain ⟨rfl, rfl⟩ := hfirst.unique hother
      exact haltedAt hsound h obstacle mode split handle
    · have hplace : done.length < n := by
        simp only [n, split, List.length_append, List.length_cons]
        omega
      exact absurd hfirst (hnone done.length hplace halt)

/-- Three connections; the token fires while the commit of the second waits. -/
theorem complete_second_interrupted :
    let u := (Usage.start "unit" {} []).run .suspending [.enlist { name := "orders" } none,
      .enlist { name := "stock" } none, .enlist { name := "audit" } none]
    let token : Token := ⟨fun _ => false, fun calls => (commits calls).length = 1⟩
    u.scope.completeObstacle = none ∧ u.scope.mode = some .own ∧
      FirstHalt {} token u.calls 1 .interrupted ∧
      HaltedAt .suspending {} u 1 .interrupted (u.complete .suspending {} (some token)) := by
  intro u token
  have hfirst : FirstHalt {} token u.calls 1 .interrupted := by
    refine ⟨fun i hi => ?_, rfl, rfl⟩
    obtain rfl : i = 0 := by omega
    refine ⟨rfl, fun outcomeUnknown => ?_⟩
    rintro ⟨hseen, hfires⟩
    cases outcomeUnknown with
    | false => cases hseen
    | true => cases hfires rfl
  obtain ⟨hown, -⟩ := complete_under_token "unit" {} [] _ u rfl rfl {} token
  obtain ⟨-, hhalts, -⟩ := hown rfl
  exact ⟨rfl, rfl, hfirst, hhalts 1 (by decide) .interrupted hfirst⟩

end UnitOfWork.Scope
