import UnitOfWork.Scope.Suspending

/-!
# The suspending scope under a token that never fires

The blocking scope is the suspending scope whose token never fires: the loops are equal, and so are
completion and disposal, up to the mark that a suspending disposal has begun. The equations hold over
every lawful monad and every host, so they speak of the calls, their order and the log at once.

With them a law about a loop is proved once, for the suspending loop, and read off for the blocking
one. They say nothing about dropping a scope: the blocking scope rolls back there and the suspending
one does not.
-/

set_option autoImplicit false

namespace UnitOfWork.Scope

variable {m : Type → Type} [Monad m] {H : Type}

section Host

variable (host : Host m H)

@[simp] theorem toHost_uncancelled : host.uncancelled.toHost = host := rfl

/-- A token that never fires is never seen to have fired. -/
@[simp] theorem isCancelled_uncancelled : host.uncancelled.isCancelled = pure false := rfl

/-- A commit under it runs to its end. -/
@[simp] theorem commitRacing_uncancelled (h : H) :
    host.uncancelled.commitRacing h = Race.finished <$> host.commit h := rfl

/-- So does a rollback. -/
@[simp] theorem rollbackRacing_uncancelled (h : H) :
    host.uncancelled.rollbackRacing h = Race.finished <$> host.rollback h := rfl

end Host

/-- Beginning a disposal changes nothing that a log entry names. -/
theorem rollBackEach_beginDispose (host : Host m H) (s : Scope H) (ps : List (Participant H)) :
    rollBackEach host s.beginDispose ps = rollBackEach host s ps := by
  induction ps with
  | nil => rfl
  | cons p rest ih =>
    simp only [rollBackEach, ih]
    rfl

variable [LawfulMonad m]

/-- The suspending loop of rollbacks adds the failures of the blocking one to those met before. -/
theorem suspending_rollBackEach_uncancelled (host : Host m H) (s : Scope H)
    (met : List RollbackFailure) (ps : List (Participant H)) :
    Suspending.rollBackEach host.uncancelled s met ps =
      (fun round => (.done (met ++ round.1), round.2)) <$> rollBackEach host s ps := by
  induction ps generalizing met with
  | nil => simp only [Suspending.rollBackEach, rollBackEach, map_pure, List.append_nil]
  | cons p rest ih =>
    cases hp : p.isPending with
    | false => simp [Suspending.rollBackEach, rollBackEach, hp, ih]
    | true =>
      cases hh : p.handle with
      | none => simp [Suspending.rollBackEach, rollBackEach, hp, hh, ih]
      | some h => simp [Suspending.rollBackEach, rollBackEach, hp, hh, ih]

/-- Rounds of commits are the same in both disciplines, by induction on the participants. -/
theorem suspending_commitEach_uncancelled (host : Host m H) (s : Scope H) (index : Nat)
    (ps : List (Participant H)) :
    Suspending.commitEach host.uncancelled s index ps = Blocking.commitEach host s index ps := by
  induction ps generalizing index with
  | nil => rfl
  | cons p rest ih =>
    cases hh : p.handle with
    | none => simp [Suspending.commitEach, Blocking.commitEach, hh, ih]
    | some h =>
      simp only [Suspending.commitEach, Blocking.commitEach, hh, isCancelled_uncancelled, pure_bind,
        Bool.false_eq_true, if_false, commitRacing_uncancelled, bind_map_left, toHost_uncancelled, ih]
      congr 1
      funext outcome
      cases outcome <;> rfl

/-- Completion does not depend on the discipline when no token fires. -/
theorem suspending_complete_uncancelled (host : Host m H) (s : Scope H) :
    Suspending.complete host.uncancelled s = Blocking.complete host s := by
  have hloop : Suspending.commitEach host.uncancelled = Blocking.commitEach host := by
    funext t index ps
    exact suspending_commitEach_uncancelled host t index ps
  unfold Suspending.complete
  rw [hloop]
  rfl

/-- Disposal differs by the mark that it has begun, and only on a scope that is not disposed of. -/
theorem suspending_dispose_uncancelled (host : Host m H) (s : Scope H) (h : s.state ≠ .disposed) :
    Suspending.dispose host.uncancelled s =
      (fun result => (result.1, result.2.beginDispose)) <$> Blocking.dispose host s := by
  have hneeds : s.beginDispose.needsRollback = s.needsRollback := rfl
  simp only [Suspending.dispose, Blocking.dispose, if_neg h, hneeds]
  cases s.needsRollback with
  | false =>
    simp [releaseAll]
    rfl
  | true =>
    simp [suspending_rollBackEach_uncancelled, rollBackEach_beginDispose, releaseAll]
    rfl

end UnitOfWork.Scope
