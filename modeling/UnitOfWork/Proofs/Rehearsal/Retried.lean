import UnitOfWork.Proofs.Rehearsal.Stages
import UnitOfWork.Proofs.Retry.Rehearsal
import UnitOfWork.Rehearsal.Retried

/-!
# What comes of a retried unit of work

An attempt at the unit of work changes the stage, so the next attempt may answer otherwise. But each
attempt is determined by its number and the stage it finds, and the stage it finds by the attempts before
it. So the answers of all attempts that could be made are a script (`Retried.script`), and the retried unit
of work is the run over that script (`retried_run`): what is known of retries over scripts says which
attempts are made. The stage afterwards is the one that those attempts lead to, and no attempt takes
anything back from its journal.
-/

set_option autoImplicit false

namespace UnitOfWork.Rehearsal.Retried

open Retry (Event Instant operations)

variable (u : Retried)

/-- An attempt on a stage: what is answered, and the stage afterwards. -/
def attempted (number : Nat) (stage : Stage) : Except TransactionError String × Stage :=
  (((u.attempt number).run stage).run {}).1

/-- The stage after a number of attempts. -/
def stageAfter : Nat → Stage
  | 0 => Stage.ofNames u.names
  | made + 1 => (u.attempted (made + 1) (stageAfter made)).2

/-- What the attempts answer, one after the other. -/
def script : Retry.Script TransactionError String := fun number =>
  (u.attempted number (u.stageAfter (number - 1))).1

variable {u}

/-- To arm an attempt is to change the script of the stage. -/
theorem later_arm (number : Nat) (stage : Stage) : stage.Later (u.arm number stage) := by
  unfold arm
  generalize (u.failures[number - 1]?).getD [] = armed
  induction armed generalizing stage with
  | nil => exact Stage.later_leading.refl stage
  | cons failure rest ih => exact Stage.later_leading.trans Stage.later_failNext (ih _)

/-- An attempt leads on, and nothing of it depends on the log. -/
theorem attempt_moves (number : Nat) : Logic.definite.Moves Stage.Later (u.attempt number) := by
  have leading := Stage.later_leading
  refine leading.bind (fun stage => Logic.definite_modify (later_arm number stage)) fun _ => ?_
  intro stage
  refine Logic.definite_look ?_
  have adapters : ∀ adapter ∈ (List.range u.names.length).map stage.adapter,
      Adapter.Moves .definite Stage.Later adapter := by
    intro adapter hadapter
    obtain ⟨c, -, rfl⟩ := List.mem_map.mp hadapter
    exact stage.adapter_moves c
  split
  · exact leading.bind (Stage.suspendingHost_moves.suspendingAttempt adapters _)
      (fun _ => leading.pure _) stage
  · exact leading.bind (Stage.blockingHost_moves.attempt adapters _) (fun _ => leading.pure _) stage

/-- What an attempt comes to is what it comes to without a log. -/
theorem returns_attempt (number : Nat) (stage : Stage) :
    Returns (u.attempt number) stage fun outcome later =>
      outcome = (u.attempted number stage).1 ∧ later = (u.attempted number stage).2 ∧
        stage.Later later := by
  obtain ⟨outcome, later, hreturns, hlater⟩ := attempt_moves (u := u) number stage
  obtain ⟨houtcome, hstage⟩ := hreturns {}
  refine hreturns.mono ?_
  rintro _ _ ⟨rfl, rfl⟩
  exact ⟨houtcome.symm, hstage.symm, hlater⟩

/-- The journal of earlier attempts is kept. -/
theorem later_stageAfter (made : Nat) : (Stage.ofNames u.names).Later (u.stageAfter made) := by
  induction made with
  | zero => exact Stage.later_leading.refl _
  | succ made ih =>
    exact Stage.later_leading.trans ih ((returns_attempt (made + 1) (u.stageAfter made) {}).2.2)

/-- The attempts answer as the script does, and the stage is where they lead. -/
theorem below : Retry.Bench.Below .recording
    (fun events stage => stage = u.stageAfter (operations events)) u.rehearsal u.script u.attempt
    (fun _ => pure ()) (fun entry => Log.record entry) TransactionError.message where
  operate {events stage} _ step := by
    subst step
    have made : operations (events ++ [.operate (operations events + 1)]) = operations events + 1 :=
      Retry.operations_append events _
    rw [made]
    intro log
    obtain ⟨houtcome, hstage, -⟩ := returns_attempt (operations events + 1) _ log
    exact ⟨houtcome, hstage⟩
  observe {events stage} attempt step := by
    have same : stage = u.stageAfter (operations (events ++ [.observe attempt])) :=
      step.trans (congrArg u.stageAfter (Retry.operations_concat events rfl).symm)
    split
    · exact returns_pure same
    · exact same
  report {events _} line step := by
    rw [Retry.operations_concat events rfl]
    exact fun _ => step
  sleep {events _} delay step := by
    rw [Retry.operations_concat events rfl]
    exact step

/-- A retried unit of work is the run over the answers of its attempts, and leaves the stage where the
attempts that were made leave it. -/
theorem retried_run {instant : Instant} (h : u.rehearsal.instant? = some instant) (log : Log) :
    let run := (Retry.Suspending.run u.retry.options (.ofClassifier u.retry.classifier)
      (u.script.under instant)).run []
    let r := (u.run.run log).1
    r.1.result = run.1 ∧ Retry.Bench.Kept u.rehearsal instant run.2 r.1.bench ∧
      r.2 = u.stageAfter (operations run.2) ∧ (Stage.ofNames u.names).Later r.2 := by
  intro run r
  obtain ⟨hresult, kept, hstage⟩ :=
    Retry.rehearsed_provider_run h below rfl Logic.spanned_recording u.retry log
  refine ⟨hresult, kept, hstage, ?_⟩
  rw [show r.2 = u.stageAfter (operations run.2) from hstage]
  exact later_stageAfter _

end UnitOfWork.Rehearsal.Retried
