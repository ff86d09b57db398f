import UnitOfWork.Proofs.Scope.Usage

/-!
# One scope under two disciplines

As long as no token fires, the holder of a scope cannot tell the two disciplines apart. Every use gets
the same reply, makes the same calls on adapters and handles, and leaves the same mode, state, ambient
transaction and participants. Only a drop would show the difference, and it is not among the uses.

The two records are not equal: a suspending disposal marks that it has begun, and the blocking one does
not. `Alike` allows for that mark once the scope is disposed of, where nothing looks at it any more.
Every use keeps it, and `suspending_history_eq_blocking` is the induction over a run.
-/

set_option autoImplicit false

namespace UnitOfWork.Scope

/-! ## What the holder of a scope sees -/

/-- Whether a use is made without a token, or under one that never fires. -/
def Use.Uncancelled : Use → Prop
  | .complete _ token => token = none ∨ token = some .never
  | .dispose _ token => token = none ∨ token = some .never
  | _ => True

/-- What a use is answered. -/
inductive Reply where
  | enlisted (outcome : Except TransactionError (Option Nat))
  | ended (outcome : Except TransactionError Unit)
  /-- What others do is not answered. -/
  | silent

/-- What a use shows: its reply, all calls made so far, and the record as its holder can read it. -/
structure View where
  reply : Reply
  calls : List Call
  mode : Option Mode
  state : State
  ambient : Option AmbientRef
  participants : List (Participant Nat)
  ambients : Ambients

namespace Usage

def reply (u : Usage) (discipline : Discipline) : Use → Reply
  | .enlist applicant offered => .enlisted (u.enlist applicant offered).1
  | .complete answers token => .ended (u.complete discipline answers token).1
  | .dispose answers token => .ended (u.dispose discipline answers token).1
  | .outside _ => .silent

/-- The record after a use that was answered with a reply. -/
def view (u : Usage) (reply : Reply) : View where
  reply := reply
  calls := u.calls
  mode := u.scope.mode
  state := u.scope.state
  ambient := u.scope.ambient
  participants := u.scope.participants
  ambients := u.ambients

/-- What each use of a run shows. -/
def history (discipline : Discipline) : Usage → List Use → List View
  | _, [] => []
  | u, use :: rest =>
    (u.step discipline use).view (u.reply discipline use) ::
      history discipline (u.step discipline use) rest

end Usage

/-! ## The mark of a disposal -/

/-- The same usage, but for the mark of a suspending disposal on a scope that is disposed of. -/
def Alike (suspending blocking : Usage) : Prop :=
  suspending = blocking ∨
    blocking.scope.state = .disposed ∧
      suspending = { blocking with scope := blocking.scope.beginDispose }

section Disposed

variable {u : Usage}

/-- A disposed scope takes nobody. -/
theorem enlist_disposed (h : u.scope.state = .disposed) (applicant : Applicant)
    (offered : Option AmbientRef) :
    u.enlist applicant offered = (.error (.state "enlist" "scope is disposed"), u) := by
  have hplan : u.scope.plan u.ambients applicant.adapter.name offered =
      .error (.state "enlist" "scope is disposed") := by
    simp only [plan, enlistObstacle, h]
    rfl
  simp only [Usage.enlist, Scope.enlist, hplan, run_pure]

/-- A disposed scope is not completed. -/
theorem complete_disposed (h : u.scope.state = .disposed) (discipline : Discipline)
    (answers : Answers) (token : Option Token) :
    u.complete discipline answers token =
      (.error (.state "complete" "scope is disposed"), u) := by
  have hgate : u.scope.beginComplete = .error (.state "complete" "scope is disposed") := by
    simp only [beginComplete, completeObstacle, h]
    rfl
  simp only [Usage.complete_eq, Usage.operate, Suspending.complete, hgate, run_pure]

/-- A disposed scope has nothing to dispose of. -/
theorem dispose_disposed (h : u.scope.state = .disposed) (discipline : Discipline)
    (answers : Answers) (token : Option Token) :
    u.dispose discipline answers token = (.ok (), u) := by
  cases discipline with
  | blocking => simp only [Usage.dispose, Usage.operate, Blocking.dispose, h, if_true, run_pure]
  | suspending =>
    simp only [Usage.dispose, Usage.operate, Suspending.dispose, h, if_true, run_pure]

end Disposed

/-! ## The uses of one scope under both disciplines -/

section Uncancelled

variable (u : Usage) (answers : Answers) {token : Option Token}

/-- Under a token that never fires the racing host is the plain one. -/
theorem racing_uncancelled (h : token = none ∨ token = some .never) :
    answers.racing token = answers.host.uncancelled := by
  obtain rfl | rfl := h <;> rfl

/-- Without a firing the two completions are one. -/
theorem complete_uncancelled (h : token = none ∨ token = some .never) :
    u.complete .suspending answers token = u.complete .blocking answers token := by
  simp only [Usage.complete, racing_uncancelled answers h]
  unfold Usage.operate
  rw [suspending_complete_uncancelled]

/-- A suspending disposal leaves its mark. -/
theorem dispose_uncancelled (h : token = none ∨ token = some .never)
    (hstate : u.scope.state ≠ .disposed) :
    u.dispose .suspending answers token =
      ((u.dispose .blocking answers token).1,
        { (u.dispose .blocking answers token).2 with
          scope := (u.dispose .blocking answers token).2.scope.beginDispose }) := by
  simp only [Usage.dispose, racing_uncancelled answers h]
  unfold Usage.operate
  rw [suspending_dispose_uncancelled answers.host u.scope hstate]
  rfl

end Uncancelled

/-! ## Lock step -/

section Steps

variable {s b : Usage}

/-- What the holder sees of two usages that are alike is the same. -/
theorem Alike.view_eq (h : Alike s b) (reply : Reply) : s.view reply = b.view reply := by
  obtain rfl | ⟨-, rfl⟩ := h <;> rfl

/-- A use of two usages that are alike is answered alike, and leaves them alike. -/
theorem alike_step (h : Alike s b) (use : Use) (huse : use.Uncancelled) :
    s.reply .suspending use = b.reply .blocking use ∧
      Alike (s.step .suspending use) (b.step .blocking use) := by
  obtain rfl | ⟨hdisposed, hmark⟩ := h
  · cases use with
    | enlist applicant offered => exact ⟨rfl, .inl rfl⟩
    | outside event => exact ⟨rfl, .inl rfl⟩
    | complete answers token =>
      simp only [Usage.reply, Usage.step, complete_uncancelled s answers huse]
      exact ⟨trivial, .inl rfl⟩
    | dispose answers token =>
      by_cases hstate : s.scope.state = .disposed
      · simp only [Usage.reply, Usage.step, dispose_disposed hstate]
        exact ⟨trivial, .inl rfl⟩
      · simp only [Usage.reply, Usage.step, dispose_uncancelled s answers huse hstate]
        exact ⟨trivial, .inr ⟨disposed_of_blocking s answers token, rfl⟩⟩
  · -- Nothing happens to a scope that is disposed of, marked or not.
    have hmarked : s.scope.state = .disposed := by rw [hmark]; exact hdisposed
    cases use with
    | enlist applicant offered =>
      simp only [Usage.reply, Usage.step, enlist_disposed hdisposed, enlist_disposed hmarked]
      exact ⟨trivial, .inr ⟨hdisposed, hmark⟩⟩
    | complete answers token =>
      simp only [Usage.reply, Usage.step, complete_disposed hdisposed, complete_disposed hmarked]
      exact ⟨trivial, .inr ⟨hdisposed, hmark⟩⟩
    | dispose answers token =>
      simp only [Usage.reply, Usage.step, dispose_disposed hdisposed, dispose_disposed hmarked]
      exact ⟨trivial, .inr ⟨hdisposed, hmark⟩⟩
    | outside event =>
      refine ⟨rfl, .inr ⟨hdisposed, ?_⟩⟩
      rw [hmark]
      rfl

/-- Runs of usages that are alike show the same. -/
theorem Alike.history_eq (h : Alike s b) {uses : List Use}
    (huses : ∀ use ∈ uses, use.Uncancelled) :
    s.history .suspending uses = b.history .blocking uses := by
  induction uses generalizing s b with
  | nil => rfl
  | cons use uses ih =>
    obtain ⟨huse, hrest⟩ := List.forall_mem_cons.mp huses
    obtain ⟨hreply, hnext⟩ := alike_step h use huse
    simp only [Usage.history, hreply, hnext.view_eq, ih hnext hrest]

end Steps

/-! ## The main statement -/

/-- While no token fires, a scope shows the same under both disciplines after every use: the reply, the
calls made, mode, state, ambient transaction and participants. -/
theorem suspending_history_eq_blocking (id : String) (options : ScopeOptions) (ambients : Ambients)
    (uses : List Use) (huses : ∀ use ∈ uses, use.Uncancelled) :
    (Usage.start id options ambients).history .suspending uses =
      (Usage.start id options ambients).history .blocking uses :=
  Alike.history_eq (.inl rfl) huses

/-- Two connections: the commit of the first and the rollback of the second fail, the scope is disposed
of twice, and a late connection is refused. The records differ by the mark alone. -/
theorem suspending_history_eq_blocking_refused :
    let start := Usage.start "unit" {} []
    let failing : Answers :=
      { commit := fun _ => .error (.unsupported "commit")
        rollback := fun _ => .error (.unsupported "rollback") }
    let uses : List Use :=
      [.enlist { name := "orders" } none, .enlist { name := "stock" } none,
        .complete failing (some .never), .dispose failing none, .dispose failing (some .never),
        .enlist { name := "late" } none]
    (∀ use ∈ uses, use.Uncancelled) ∧
      start.history .suspending uses = start.history .blocking uses ∧
      (start.run .suspending uses).scope.disposing = true ∧
      (start.run .blocking uses).scope.disposing = false := by
  intro start failing uses
  have huses : ∀ use ∈ uses, use.Uncancelled := by
    simp [uses, Use.Uncancelled]
  refine ⟨huses, suspending_history_eq_blocking "unit" {} [] uses huses, ?_⟩
  decide +kernel

end UnitOfWork.Scope
