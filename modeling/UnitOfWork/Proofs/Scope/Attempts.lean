import UnitOfWork.Proofs.Scope.Completion
import UnitOfWork.Proofs.Scope.Disciplines
import UnitOfWork.Proofs.Scope.Settled
import UnitOfWork.Scope.Attempt

/-!
# One attempt at a unit of work

A unit of work opens a scope, enlists connections until one fails, completes if none did, and drops the
scope. None of the connections joins an ambient transaction. `Attempted` is what its caller and the
drivers know in the end: every transaction it began is settled, it failed by a begin or a commit if it
failed, and it succeeded exactly when it committed all that it was to enlist.

The enlistments of an attempt are uses of a scope, so what runs keep holds of the scope they leave.
`run_attempt` says that an attempt which also disposes of its scope before the drop is no different.
-/

set_option autoImplicit false

namespace UnitOfWork.Scope

/-! ## The statement -/

/-- Enlist in order until one fails. -/
def Usage.enlistEach (u : Usage) :
    List (Applicant × Option AmbientRef) → Except TransactionError Unit × Usage
  | [] => (.ok (), u)
  | (applicant, offered) :: rest =>
    match u.enlist applicant offered with
    | (.error e, next) => (.error e, next)
    | (.ok _, next) => next.enlistEach rest

/-- What an attempt is to do, and what the drivers answer to it. -/
structure Work where
  id : String := "unit"
  options : ScopeOptions := {}
  ambients : Ambients := []
  enlistments : List (Applicant × Option AmbientRef)
  answers : Answers := {}
  /-- Nobody is offered an ambient transaction that the scope would join. -/
  apart : ∀ applicant offered, (applicant, offered) ∈ enlistments → ∀ place found,
    offered = some place → ambients[place]? = some found → found.isActive = true →
      options.preferAmbient = false

namespace Work

variable (w : Work)

/-- The fresh scope of an attempt. -/
def opened : Usage := .start w.id w.options w.ambients

/-- The attempt up to the completion, if it comes to that. -/
def performed : Except TransactionError Unit × Usage :=
  match w.opened.enlistEach w.enlistments with
  | (.error e, u) => (.error e, u)
  | (.ok (), u) => u.complete .blocking w.answers none

/-- What the attempt returns: the first failure, or the result of the completion. -/
def outcome : Except TransactionError Unit := w.performed.1

/-- All its calls, those of the drop at the end included. -/
def calls : List Call := (w.performed.2.drop .blocking w.answers).calls

end Work

/-- What is known of an attempt in the end. -/
structure Attempted (w : Work) : Prop where
  settled : ∀ i, i < begun w.calls → Settled w.calls i
  failure : ∀ e, w.outcome = .error e →
    (∃ name source, e = .begin name source) ∨ ∃ name index source, e = .commit name index source
  ok_iff : w.outcome = .ok () ↔
    begun w.calls = w.enlistments.length ∧ ∀ i, i < begun w.calls → i ∈ succeeded w.calls

/-! ## Enlisting until one fails -/

/-- Enlistments in order are uses of the scope. -/
theorem enlistEach_run (discipline : Discipline) (u : Usage)
    (enlistments : List (Applicant × Option AmbientRef)) :
    ∃ uses, (u.enlistEach enlistments).2 = u.run discipline uses := by
  induction enlistments generalizing u with
  | nil => exact ⟨[], rfl⟩
  | cons e rest ih =>
    obtain ⟨applicant, offered⟩ := e
    have hstep : u.step discipline (.enlist applicant offered) = (u.enlist applicant offered).2 := rfl
    unfold Usage.enlistEach
    generalize u.enlist applicant offered = r at hstep ⊢
    obtain ⟨outcome, next⟩ := r
    cases outcome with
    | error error => exact ⟨[.enlist applicant offered], hstep.symm⟩
    | ok handle =>
      obtain ⟨uses, huses⟩ := ih next
      refine ⟨.enlist applicant offered :: uses, ?_⟩
      show (next.enlistEach rest).2 = (u.step discipline (.enlist applicant offered)).run discipline uses
      rw [hstep]
      exact huses

/-- A scope in the middle of the enlistments of an attempt. -/
structure Taking (w : Work) (u : Usage) : Prop where
  options : u.scope.options = w.options
  ambients : u.ambients = w.ambients
  obstacle : u.scope.enlistObstacle = none
  mode : u.scope.mode = some .own ∨ u.scope.mode = none

namespace Taking

variable {w : Work} {u : Usage}

theorem opened (w : Work) : Taking w w.opened := ⟨rfl, rfl, rfl, .inr rfl⟩

/-- The next connection begins a transaction, or fails to. -/
theorem enlist (h : Taking w u) {applicant : Applicant} {offered : Option AmbientRef}
    (hmem : (applicant, offered) ∈ w.enlistments) :
    (∃ handle next, u.enlist applicant offered = (.ok handle, next) ∧ Taking w next ∧
      begun next.calls = begun u.calls + 1) ∨
    ∃ source next, u.enlist applicant offered = (.error (.begin applicant.name source), next) ∧
      begun next.calls = begun u.calls := by
  have hjoins {place : AmbientRef} {found : Ambient} :
      ¬ Planned u.scope u.ambients applicant.name offered (.ok (.ambient place found)) := by
    intro plan
    cases plan with
    | ambient obstacle mode stored active =>
      rcases mode with hmode | ⟨-, hoffered, prefers⟩
      · rcases h.mode with hown | hnone
        · cases hown.symm.trans hmode
        · cases hnone.symm.trans hmode
      · rw [h.ambients] at stored
        rw [h.options] at prefers
        cases (w.apart applicant offered hmem place found hoffered stored active).symm.trans prefers
  have hstep := enlistStep u applicant offered
  generalize u.enlist applicant offered = r at hstep ⊢
  cases hstep with
  | refused plan =>
    cases plan with
    | refused obstacle => cases h.obstacle.symm.trans obstacle
    | inactive obstacle mode ended =>
      rcases h.mode with hown | hnone
      · cases hown.symm.trans mode
      · cases hnone.symm.trans mode
  | notJoined plan join => exact absurd plan hjoins
  | joined plan join => exact absurd plan hjoins
  | @notBegun isolation source plan begin =>
    refine .inr ⟨source, _, rfl, ?_⟩
    exact begun_append
  | @begun isolation plan begin =>
    refine .inl ⟨_, _, rfl, ⟨h.options, h.ambients, h.obstacle, ?_⟩, begun_append⟩
    exact .inl (withOwn_mode applicant.name isolation (begun u.calls) h.mode)

/-- Enlistments in order all begin transactions, or one fails to and none follows. -/
theorem enlistEach (h : Taking w u) {enlistments : List (Applicant × Option AmbientRef)}
    (hall : enlistments ⊆ w.enlistments) :
    (∃ next, u.enlistEach enlistments = (.ok (), next) ∧ Taking w next ∧
      begun next.calls = begun u.calls + enlistments.length) ∨
    ∃ name source next, u.enlistEach enlistments = (.error (.begin name source), next) ∧
      begun next.calls < begun u.calls + enlistments.length := by
  induction enlistments generalizing u with
  | nil => exact .inl ⟨u, rfl, h, rfl⟩
  | cons e rest ih =>
    obtain ⟨applicant, offered⟩ := e
    obtain ⟨hfirst, hrest⟩ := List.cons_subset.mp hall
    unfold Usage.enlistEach
    rcases h.enlist hfirst with ⟨handle, next, heq, htaking, hbegun⟩ | ⟨source, next, heq, hbegun⟩
    · rw [heq]
      rcases ih htaking hrest with ⟨last, hlast, htaken, hcount⟩ | ⟨name, source, last, hlast, hcount⟩
      · refine .inl ⟨last, hlast, htaken, ?_⟩
        rw [hcount, hbegun, List.length_cons]
        omega
      · refine .inr ⟨name, source, last, hlast, ?_⟩
        rw [List.length_cons]
        omega
    · rw [heq]
      refine .inr ⟨applicant.name, source, next, rfl, ?_⟩
      rw [hbegun, List.length_cons]
      omega

end Taking

/-! ## The completion and the drop -/

/-- The completion of a scope that took everybody in commits them all, or rolls one of them back. -/
theorem Taking.complete {w : Work} {u : Usage} (h : Taking w u) (hsound : Sound u)
    (hledger : Ledger .blocking u) (answers : Answers) :
    let r := u.complete .blocking answers none
    (r.1 = .ok () ∧ ∀ i, i < begun u.calls → i ∈ succeeded r.2.calls) ∨
    ∃ name k source, r.1 = .error (.commit name k source) ∧ k < begun u.calls ∧
      k ∈ rollbacks r.2.calls := by
  have hnumbered := hledger.numbered
  have hstep := completeStep u .blocking answers none hsound.pending
  intro r
  change CompleteStep answers .never u r at hstep
  generalize r = r at hstep ⊢
  cases hstep with
  | refused obstacle => cases ((completable_iff _).mpr h.obstacle).symm.trans obstacle
  | quiet obstacle mode =>
    rw [if_neg mode] at hnumbered
    refine .inl ⟨rfl, fun i hi => ?_⟩
    rw [hnumbered] at hi
    exact absurd hi (Nat.not_lt_zero i)
  | through obstacle mode commits =>
    have hall := allCommitted_through hsound hledger obstacle mode commits
    rw [if_pos mode] at hnumbered
    refine .inl ⟨rfl, fun i hi => ?_⟩
    rw [hnumbered] at hi
    rw [mem_succeeded, hall.calls]
    refine List.mem_append_right _ (List.mem_map.mpr ⟨i, List.mem_range.mpr hi, ?_⟩)
    rw [hall.answered i hi]
  | @halted done rest p i halt obstacle mode split commits handle halts =>
    cases halt with
    | seen => cases halts
    | interrupted => cases halts.2
    | failed source =>
      have hhalted : HaltedAt .blocking answers u done.length (.failed source) _ :=
        haltedAt hsound hledger obstacle mode split handle
      rw [if_pos mode] at hnumbered
      have hplace := hhalted.place
      refine .inr ⟨p.name, done.length, source, rfl, ?_, ?_⟩
      · rwa [hnumbered]
      · have hfirst : done.length ∈
            List.range' done.length (u.scope.participants.length - done.length) := by
          rw [List.mem_range'_1]
          omega
        rw [mem_rollbacks, hhalted.calls]
        exact ⟨_, List.mem_append_right _ (List.mem_map.mpr ⟨done.length, hfirst, rfl⟩)⟩

/-- A drop takes no call back. -/
theorem prefix_drop (u : Usage) (answers : Answers) :
    u.calls <+: (u.drop .blocking answers).calls := by
  rw [u.drop_blocking answers none]
  exact prefix_dispose u .blocking answers none

/-- A drop begins nothing. -/
theorem begun_drop (u : Usage) (answers : Answers) :
    begun (u.drop .blocking answers).calls = begun u.calls := by
  rw [u.drop_blocking answers none]
  exact begun_dispose answers none

namespace Work

variable (w : Work)

/-- Whatever an attempt comes to, it used a scope. -/
theorem performed_run : ∃ uses, w.performed.2 = w.opened.run .blocking uses := by
  obtain ⟨uses, huses⟩ := enlistEach_run .blocking w.opened w.enlistments
  unfold performed
  generalize w.opened.enlistEach w.enlistments = r at huses ⊢
  obtain ⟨outcome, u⟩ := r
  cases outcome with
  | error e => exact ⟨uses, huses⟩
  | ok _ =>
    refine ⟨uses ++ [.complete w.answers none], ?_⟩
    rw [Usage.run, List.foldl_append]
    show (u.complete .blocking w.answers none).2 =
      ((w.opened.run .blocking uses).complete .blocking w.answers none).2
    rw [← huses]

theorem settled : ∀ i, i < begun w.calls → Settled w.calls i := by
  obtain ⟨uses, huses⟩ := w.performed_run
  unfold calls
  rw [huses]
  exact settled_drop (sound_run .blocking w.id w.options w.ambients uses)
    (ledger_run .blocking w.id w.options w.ambients uses)
    (told_run .blocking w.id w.options w.ambients uses) w.answers

/-- An attempt commits all that it was to enlist, or fails to begin one of them, or rolls one back
because its commit failed. -/
theorem cases_performed :
    (w.outcome = .ok () ∧ begun w.calls = w.enlistments.length ∧
      ∀ i, i < begun w.calls → i ∈ succeeded w.calls) ∨
    (∃ name source, w.outcome = .error (.begin name source) ∧
      begun w.calls < w.enlistments.length) ∨
    ∃ name k source, w.outcome = .error (.commit name k source) ∧ k < begun w.calls ∧
      k ∈ rollbacks w.calls := by
  obtain ⟨uses, huses⟩ := enlistEach_run .blocking w.opened w.enlistments
  unfold outcome calls
  rw [begun_drop]
  unfold performed
  rcases (Taking.opened w).enlistEach (List.Subset.refl _) with
    ⟨u, heq, htaking, hbegun⟩ | ⟨name, source, u, heq, hbegun⟩
  · rw [heq] at huses ⊢
    have hnone : begun w.opened.calls = 0 := rfl
    rw [hnone, Nat.zero_add] at hbegun
    have hu : u = w.opened.run .blocking uses := huses
    have hsound : Sound u := hu ▸ sound_run .blocking w.id w.options w.ambients uses
    have hledger : Ledger .blocking u := hu ▸ ledger_run .blocking w.id w.options w.ambients uses
    have hkept := prefix_drop (u.complete .blocking w.answers none).2 w.answers
    simp only [begun_complete hsound]
    rcases htaking.complete hsound hledger w.answers with
      ⟨hok, hcommits⟩ | ⟨name, k, source, hfailed, hk, hrolled⟩
    · refine .inl ⟨hok, hbegun, fun i hi => ?_⟩
      exact mem_succeeded.mpr (hkept.subset (mem_succeeded.mp (hcommits i hi)))
    · obtain ⟨ended, hmem⟩ := mem_rollbacks.mp hrolled
      refine .inr (.inr ⟨name, k, source, hfailed, hk, ?_⟩)
      exact mem_rollbacks.mpr ⟨ended, hkept.subset hmem⟩
  · rw [heq]
    have hnone : begun w.opened.calls = 0 := rfl
    rw [hnone, Nat.zero_add] at hbegun
    exact .inr (.inl ⟨name, source, rfl, hbegun⟩)

/-- What is known of every attempt in the end. -/
theorem attempted : Attempted w where
  settled := w.settled
  failure e herror := by
    rcases w.cases_performed with ⟨hok, -⟩ | ⟨name, source, hfailed, -⟩ | ⟨name, k, source, hfailed, -⟩
    · cases hok.symm.trans herror
    · cases hfailed.symm.trans herror
      exact .inl ⟨name, source, rfl⟩
    · cases hfailed.symm.trans herror
      exact .inr ⟨name, k, source, rfl⟩
  ok_iff := by
    rcases w.cases_performed with
      ⟨hok, hall⟩ | ⟨name, source, hfailed, hfewer⟩ | ⟨name, k, source, hfailed, hk, hrolled⟩
    · exact iff_of_true hok hall
    · refine iff_of_false (fun hok => by cases hok.symm.trans hfailed) ?_
      rintro ⟨hall, -⟩
      omega
    · refine iff_of_false (fun hok => by cases hok.symm.trans hfailed) ?_
      rintro ⟨-, hcommits⟩
      -- Who was rolled back has not committed as well.
      have hcommitted := List.count_pos_iff.mpr (hcommits k hk)
      have hrolledBack := List.count_pos_iff.mpr hrolled
      rcases (w.settled k hk).ended with ⟨-, hnone⟩ | ⟨hnone, -⟩
      · omega
      · omega

end Work

/-! ## An attempt that disposes of its scope -/

/-- A completion of a scope that took everybody in leaves nobody to roll back. -/
theorem Taking.idle {w : Work} {u : Usage} (h : Taking w u) (hsound : Sound u) (answers : Answers) :
    Idle (u.complete .blocking answers none).2 := by
  have hstep := completeStep u .blocking answers none hsound.pending
  generalize u.complete .blocking answers none = r at hstep ⊢
  cases hstep with
  | refused obstacle => cases ((completable_iff _).mpr h.obstacle).symm.trans obstacle
  | quiet obstacle mode =>
    have hnone : u.scope.mode = none := h.mode.resolve_left mode
    apply idle_completed
    rw [hsound.unset.mp hnone]
    exact fun p hp => absurd hp List.not_mem_nil
  | through obstacle mode commits =>
    apply idle_completed
    exact List.forall_mem_map.mpr fun p _ => rfl
  | halted obstacle mode split commits handle halts => exact idle_halted

/-- Enlisting asks nothing of its host but to log. -/
theorem enlist_host (answers : Answers) (adapter : Adapter Watched Nat)
    (offered : Option AmbientRef) (ambients : Ambients) (s : Scope Nat) :
    enlist answers.host adapter offered ambients s =
      enlist ({} : Answers).host adapter offered ambients s := rfl

/-- Where there is no ambient transaction, an enlistment makes none. -/
theorem ambients_enlist_nil {u : Usage} (hambients : u.ambients = []) (applicant : Applicant)
    (offered : Option AmbientRef) : (u.enlist applicant offered).2.ambients = [] := by
  have hstep := enlistStep u applicant offered
  generalize u.enlist applicant offered = r at hstep ⊢
  cases hstep with
  | joined plan join =>
    show u.ambients.modify _ _ = []
    rw [hambients]
    exact List.modify_nil _ _
  | _ => exact hambients

/-- The enlistments of an attempt without ambient transactions. -/
theorem run_enlistEach (answers : Answers) (applicants : List Applicant) {u : Usage}
    (hambients : u.ambients = []) :
    (enlistEach answers.host (applicants.map Applicant.adapter) u.scope).run u.calls =
      let r := u.enlistEach (applicants.map (·, none))
      ((r.1, r.2.scope), r.2.calls) := by
  induction applicants generalizing u with
  | nil => rfl
  | cons applicant rest ih =>
    have hnext := ambients_enlist_nil hambients applicant none
    have hone : (enlist answers.host applicant.adapter none [] u.scope).run u.calls =
        let r := u.enlist applicant none
        (⟨r.1, r.2.scope, r.2.ambients⟩, r.2.calls) := by
      rw [enlist_host, ← hambients]
      rfl
    simp only [List.map_cons, enlistEach, Usage.enlistEach, run_bind, hone]
    generalize u.enlist applicant none = r at hnext ⊢
    obtain ⟨outcome, next⟩ := r
    cases outcome with
    | error e => rfl
    | ok handle => exact ih hnext

/-- Disposing of a scope with nobody to roll back, and dropping it, comes to dropping it. -/
theorem Idle.run_closing {u : Usage} (h : Idle u) (answers : Answers)
    (completed : Except TransactionError Unit) :
    StateT.run (do
      let (disposed, s) ← Blocking.dispose answers.host u.scope
      let _ ← Blocking.drop answers.host s
      pure (settle completed disposed) : Watched (Except TransactionError Unit)) u.calls =
      (completed, (u.drop .blocking answers).calls) := by
  have hok := (h.dispose .blocking answers none).1
  have hagain : (u.dispose .blocking answers none).2.drop .blocking answers =
      (u.dispose .blocking answers none).2 := by
    rw [Usage.drop_blocking _ answers none,
      dispose_disposed (disposed_of_blocking u answers none) .blocking answers none]
  have hrun : StateT.run (do
      let (disposed, s) ← Blocking.dispose answers.host u.scope
      let _ ← Blocking.drop answers.host s
      pure (settle completed disposed) : Watched (Except TransactionError Unit)) u.calls =
      (settle completed (u.dispose .blocking answers none).1,
        ((u.dispose .blocking answers none).2.drop .blocking answers).calls) := rfl
  rw [hrun, hok, hagain, u.drop_blocking answers none]
  rfl

/-- An attempt that disposes of its scope before it drops it does the same: after the completion there
is nothing left for a disposal to fail at, and nothing left to dispose of for the drop. -/
theorem run_attempt (w : Work) (applicants : List Applicant)
    (henlistments : w.enlistments = applicants.map (·, none)) (hambients : w.ambients = []) :
    (Blocking.attempt w.answers.host (applicants.map Applicant.adapter) w.opened.scope).run [] =
      (w.outcome, w.calls) := by
  have henlisted := run_enlistEach w.answers applicants (u := w.opened) hambients
  rw [← henlistments] at henlisted
  obtain ⟨uses, huses⟩ := enlistEach_run .blocking w.opened w.enlistments
  have htaking := (Taking.opened w).enlistEach (List.Subset.refl _)
  have hcalls : w.opened.calls = [] := rfl
  rw [hcalls] at henlisted
  unfold Work.outcome Work.calls Work.performed
  simp only [Blocking.attempt, run_bind, henlisted]
  generalize w.opened.enlistEach w.enlistments = r at huses htaking ⊢
  obtain ⟨outcome, u⟩ := r
  cases outcome with
  | error e => rfl
  | ok _ =>
    have htaken : Taking w u := by
      rcases htaking with ⟨next, heq, htaken, -⟩ | ⟨_, _, _, heq, -⟩
      · cases heq
        exact htaken
      · cases heq
    have hu : u = w.opened.run .blocking uses := huses
    have hsound : Sound u := hu ▸ sound_run .blocking w.id w.options w.ambients uses
    exact (htaken.idle hsound w.answers).run_closing w.answers _

end UnitOfWork.Scope
