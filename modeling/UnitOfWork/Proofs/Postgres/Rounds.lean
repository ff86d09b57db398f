import Mathlib.Data.List.Forall2
import UnitOfWork.Proofs.Postgres.Handles
import UnitOfWork.Proofs.Recording
import UnitOfWork.Proofs.Scope.Usage

/-!
# Rounds of commits and rollbacks over PostgreSQL connections

What one walk of a scope over its participants does to the connections. A round of rollbacks without a
token is `rollbackAll`, which calls each pending participant once and in order. Under a token, or with
any host that ends no other transaction than it is asked to, a round either settles everyone or stops at
a pending participant, and touches no handle behind it; a round of commits leaves nobody pending.
-/

set_option autoImplicit false

namespace UnitOfWork

namespace Scope

/-- The handles of a walk, one participant at a time. -/
theorem handles_cons {H : Type} (p : Participant H) (rest : List (Participant H)) :
    handles (p :: rest) = handles [p] ++ handles rest := by
  rw [← List.singleton_append]
  exact List.filterMap_append

/-- A participant that has a handle is the only one to hold it in its own row. -/
theorem handles_singleton {H : Type} {p : Participant H} {h : H} (hh : p.handle = some h) :
    handles [p] = [h] := List.filterMap_cons_some hh

end Scope

namespace Postgres

open Scope (Participant handles_cons handles_singleton)

/-! ## Rollbacks without a token -/

/-- The failure of a participant whose rollback ended so, if it failed. -/
def failureOf (p : Participant Nat) : Except ParticipantError Unit → List RollbackFailure
  | .ok () => []
  | .error source => [⟨p.name, p.index, source⟩]

namespace World

/-- Roll back one participant, if it is pending: its failure, and the connections afterwards. -/
def rollbackOf (w : World) (p : Participant Nat) : List RollbackFailure × World :=
  match p.isPending, p.handle with
  | true, some h => (failureOf p (w.rollback h).1, (w.rollback h).2)
  | _, _ => ([], w)

/-- Roll back every pending participant of these, in order and past failures. -/
def rollbackAll (w : World) : List (Participant Nat) → List RollbackFailure × World
  | [] => ([], w)
  | p :: rest =>
    let (failure, w) := w.rollbackOf p
    let (failures, w) := w.rollbackAll rest
    (failure ++ failures, w)

section RollbackAll

variable {w : World} {p : Participant Nat} {ps rest : List (Participant Nat)} {h c : Nat}

/-- A pending participant is rolled back through its handle. -/
theorem rollbackOf_of_pending (hp : p.isPending = true) (hh : p.handle = some h) :
    w.rollbackOf p = (failureOf p (w.rollback h).1, (w.rollback h).2) := by
  simp only [rollbackOf, hp, hh]

/-- Whoever is not pending is passed over. -/
theorem rollbackOf_of_not_pending (hp : p.isPending = false) : w.rollbackOf p = ([], w) := by
  simp only [rollbackOf, hp]

/-- The rollback of a participant whose handle has ended fails without touching anything. -/
theorem rollbackOf_ended (hp : p.isPending = true) (hh : p.handle = some h)
    (hended : w.handles[h]? = some { connection := c, active := false }) :
    w.rollbackOf p = ([⟨p.name, p.index, .noActiveTransaction .rollback⟩], w) := by
  rw [rollbackOf_of_pending hp hh, rollback_ended hended]
  rfl

theorem rollbackAll_cons : w.rollbackAll (p :: rest) =
    ((w.rollbackOf p).1 ++ ((w.rollbackOf p).2.rollbackAll rest).1,
      ((w.rollbackOf p).2.rollbackAll rest).2) := rfl

/-- Those that are not pending are passed over. -/
theorem rollbackAll_append_of_not_pending (hps : ∀ p ∈ ps, p.isPending = false) :
    w.rollbackAll (ps ++ rest) = w.rollbackAll rest := by
  induction ps with
  | nil => rfl
  | cons p ps ih =>
    obtain ⟨hp, hps⟩ := List.forall_mem_cons.mp hps
    rw [List.cons_append, rollbackAll_cons, rollbackOf_of_not_pending hp, List.nil_append]
    exact ih hps

/-- The rollback of a participant ends no handle but its own. -/
theorem later_rollbackOf : Later (Scope.handles [p]) w (w.rollbackOf p).2 := by
  cases hp : p.isPending with
  | false =>
    rw [rollbackOf_of_not_pending hp]
    exact .refl _ w
  | true =>
    obtain ⟨h, hh⟩ := Scope.exists_handle_of_pending hp
    rw [rollbackOf_of_pending hp hh, handles_singleton hh]
    exact later_rollback

/-- A round of rollbacks ends no handles but those of its participants. -/
theorem later_rollbackAll : Later (Scope.handles ps) w (w.rollbackAll ps).2 := by
  induction ps generalizing w with
  | nil => exact .refl _ w
  | cons p rest ih =>
    rw [handles_cons, rollbackAll_cons]
    exact later_rollbackOf.append ih

end RollbackAll

end World

/-! ## The host, call by call -/

section Host

variable {w : World} {s : Scope Nat} {h : Nat}

theorem returns_note {notice : Scope.Notice} {Q : Unit → World → Prop} (hQ : Q () w) :
    Returns (host.note s notice) w Q := fun _ => hQ

/-- The host rolls back as the connections do, and records nothing else. -/
theorem returns_rollback {Q : Except ParticipantError Unit → World → Prop}
    (hQ : Q (w.rollback h).1 (w.rollback h).2) : Returns (host.rollback h) w Q :=
  returns_modifyGet hQ

/-- So it commits. -/
theorem returns_commit {Q : Except ParticipantError Unit → World → Prop}
    (hQ : Q (w.commit h).1 (w.commit h).2) : Returns (host.commit h) w Q :=
  returns_modifyGet hQ

/-- Releasing a handle sends nothing. -/
theorem returns_release {Q : Unit → World → Prop} (hQ : Q () w) :
    Returns (host.release h) w Q := by
  change Returns (release h) w Q
  unfold release
  refine Returns.bind (returns_get ?_)
  split
  · exact fun _ => hQ
  · exact returns_pure hQ

/-- Releasing all handles touches no connection. -/
theorem returns_releaseAll {Q : Scope Nat → World → Prop} (hQ : Q s.released w) :
    Returns (Scope.releaseAll host s) w Q := by
  have hloop (held : List Nat) {R : PUnit → World → Prop} (hR : R ⟨⟩ w) :
      Returns (held.forM host.release) w R := by
    induction held with
    | nil => exact returns_pure hR
    | cons h held ih => exact Returns.bind (returns_release ih)
  exact Returns.bind (hloop _ (returns_pure hQ))

/-- A rollback that failed is recorded as a failure of its participant. -/
theorem returns_recordRollback {p : Participant Nat} {outcome : Except ParticipantError Unit}
    {Q : List RollbackFailure → World → Prop} (hQ : Q (failureOf p outcome) w) :
    Returns (Scope.recordRollback host s p outcome) w Q := by
  cases outcome with
  | ok => exact Returns.bind (returns_note (returns_pure hQ))
  | error source => exact Returns.bind (returns_note (returns_pure hQ))

/-- A round of rollbacks without a token settles everyone. -/
theorem returns_rollBackEach (ps : List (Participant Nat)) :
    Returns (Scope.rollBackEach host s ps) w fun r w' =>
      r = ((w.rollbackAll ps).1, ps.map Participant.settled) ∧ w' = (w.rollbackAll ps).2 := by
  induction ps generalizing w with
  | nil => exact returns_pure ⟨rfl, rfl⟩
  | cons p rest ih =>
    cases hp : p.isPending with
    | false =>
      simp only [Scope.rollBackEach, hp]
      refine Returns.bind (ih.mono fun r w' hr => returns_pure ?_)
      rw [World.rollbackAll_cons, World.rollbackOf_of_not_pending hp, List.map_cons,
        Participant.settled_of_not_pending hp]
      obtain ⟨rfl, rfl⟩ := hr
      exact ⟨rfl, rfl⟩
    | true =>
      obtain ⟨h, hh⟩ := Scope.exists_handle_of_pending hp
      simp only [Scope.rollBackEach, hp, hh]
      refine Returns.bind (returns_rollback (Returns.bind (returns_recordRollback ?_)))
      refine Returns.bind (ih.mono fun r w' hr => returns_pure ?_)
      rw [World.rollbackAll_cons, World.rollbackOf_of_pending hp hh, List.map_cons,
        Participant.settled_of_pending hp]
      obtain ⟨rfl, rfl⟩ := hr
      exact ⟨rfl, rfl⟩

end Host

/-! ## Walks under a token -/

/-- A host that acts for a scope over these connections. Each call touches the handle that it is made
for and no other, and a rollback that is interrupted is that of the connections. -/
structure Faithful (racing : Scope.RacingHost WorldM Nat) : Prop where
  toHost : racing.toHost = host
  isCancelled : ∀ w, Returns racing.isCancelled w fun _ w' => w' = w
  commitRacing : ∀ w h, Returns (racing.commitRacing h) w fun _ w' => World.Later [h] w w'
  rollbackRacing : ∀ w h, Returns (racing.rollbackRacing h) w fun ended w' =>
    World.Later [h] w w' ∧ (ended = .interrupted → w.rollbackRacing h = (.interrupted, w'))

/-- The host of a run under a token acts faithfully. -/
theorem faithful_racingHost : Faithful racingHost where
  toHost := rfl
  isCancelled _ := Returns.bind (returns_get (returns_pure rfl))
  commitRacing _ _ := returns_modifyGet World.later_commitRacing
  rollbackRacing _ _ := returns_modifyGet
    ⟨World.later_rollbackRacing, fun interrupted => Prod.ext interrupted rfl⟩

/-- So does the host of a run without one: nothing is interrupted there. -/
theorem faithful_uncancelled : Faithful host.uncancelled where
  toHost := rfl
  isCancelled _ := returns_pure rfl
  commitRacing _ _ := Returns.map (returns_commit World.later_commit)
  rollbackRacing _ _ := Returns.map (returns_rollback ⟨World.later_rollback, by simp⟩)

/-- A participant that a walk has passed for good: not pending any more, and otherwise the same. -/
structure Passed (p q : Participant Nat) : Prop where
  index : q.index = p.index
  handle : q.handle = p.handle
  pending : q.isPending = false

/-- Whoever is settled has been passed. -/
theorem passed_settled (p : Participant Nat) : Passed p p.settled where
  index := p.settled_index
  handle := p.settled_handle
  pending := by
    cases hp : p.isPending with
    | false => rw [Participant.settled_of_not_pending hp, hp]
    | true =>
      rw [Participant.settled_of_pending hp]
      rfl

theorem passed_map_settled (ps : List (Participant Nat)) :
    List.Forall₂ Passed ps (ps.map Participant.settled) :=
  List.forall₂_map_right_iff.mpr (List.forall₂_same.mpr fun p _ => passed_settled p)

/-- How a round of rollbacks ends: everyone is settled, or it stops at a pending participant. -/
inductive RollbackRound (w : World) (ps : List (Participant Nat)) :
    Scope.Suspending.Rollbacks × List (Participant Nat) → World → Prop where
  | through {failures : List RollbackFailure} {w' : World}
      (later : World.Later (Scope.handles ps) w w') :
      RollbackRound w ps (.done failures, ps.map Participant.settled) w'
  | stopped {front rest : List (Participant Nat)} {p : Participant Nat} {h : Nat}
      {outcomeUnknown : Bool} {between w' : World} (split : ps = front ++ p :: rest)
      (pending : p.isPending = true) (handle : p.handle = some h)
      (before : World.Later (Scope.handles front) w between) (later : World.Later [h] between w')
      (sent : outcomeUnknown = true → between.rollbackRacing h = (.interrupted, w')) :
      RollbackRound w ps
        (.stopped (.cancelled p.name p.index .rollback outcomeUnknown),
          front.map Participant.settled ++ p :: rest) w'

section Walks

variable {racing : Scope.RacingHost WorldM Nat} {s : Scope Nat} {w w₁ w' : World}
  {p : Participant Nat} {rest : List (Participant Nat)}

/-- A participant that needs no stop, before a round over the others. -/
theorem RollbackRound.cons {r : Scope.Suspending.Rollbacks × List (Participant Nat)}
    (first : World.Later (Scope.handles [p]) w w₁) (h : RollbackRound w₁ rest r w') :
    RollbackRound w (p :: rest) (r.1, p.settled :: r.2) w' := by
  cases h with
  | through later =>
    refine .through ?_
    rw [handles_cons]
    exact first.append later
  | @stopped front back q h outcomeUnknown between _ split pending handle before later sent =>
    have hbefore : World.Later (Scope.handles (p :: front)) w between := by
      rw [handles_cons]
      exact first.append before
    exact .stopped (congrArg (p :: ·) split) pending handle hbefore later sent

/-- A round that stops at its first participant. -/
theorem returns_cancelRollback (faithful : Faithful racing) {h failed : Nat} {outcomeUnknown : Bool}
    (pending : p.isPending = true) (handle : p.handle = some h) (later : World.Later [h] w w')
    (sent : outcomeUnknown = true → w.rollbackRacing h = (.interrupted, w')) :
    Returns (Scope.Suspending.cancelRollback racing s p rest failed outcomeUnknown) w'
      (RollbackRound w (p :: rest)) := by
  unfold Scope.Suspending.cancelRollback
  rw [faithful.toHost]
  refine Returns.bind (returns_note (returns_pure ?_))
  have hsplit : p :: rest = [] ++ p :: rest := rfl
  exact .stopped hsplit pending handle (.refl _ w) later sent

/-- A round under a token ends as `RollbackRound` says, under every faithful host. -/
theorem returns_rollBackEach_racing (faithful : Faithful racing) (met : List RollbackFailure)
    (ps : List (Participant Nat)) :
    Returns (Scope.Suspending.rollBackEach racing s met ps) w (RollbackRound w ps) := by
  induction ps generalizing w met with
  | nil => exact returns_pure (.through (.refl _ w))
  | cons p rest ih =>
    cases hp : p.isPending with
    | false =>
      simp only [Scope.Suspending.rollBackEach, hp]
      refine Returns.bind ((ih met).mono fun r w' hr => returns_pure ?_)
      have hround := hr.cons (p := p) (.refl _ w)
      rwa [Participant.settled_of_not_pending hp] at hround
    | true =>
      obtain ⟨h, hh⟩ := Scope.exists_handle_of_pending hp
      simp only [Scope.Suspending.rollBackEach, hp, hh]
      refine Returns.bind ((faithful.isCancelled w).mono ?_)
      rintro cancelled w rfl
      split
      · exact returns_cancelRollback faithful hp hh (.refl _ _) fun hfalse => by cases hfalse
      · refine Returns.bind ((faithful.rollbackRacing _ h).mono ?_)
        rintro ended w₁ ⟨later, sent⟩
        cases ended with
        | interrupted => exact returns_cancelRollback faithful hp hh later fun _ => sent rfl
        | finished outcome =>
          rw [faithful.toHost]
          refine Returns.bind (returns_recordRollback (Returns.bind ((ih _).mono ?_)))
          intro r w' hr
          have hround := hr.cons (p := p) (handles_singleton hh ▸ later)
          rw [Participant.settled_of_pending hp] at hround
          exact returns_pure hround

/-- Rolling back from a participant on, whatever is said of it, leaves nobody pending. -/
theorem returns_halt {ps : List (Participant Nat)} (e : Option TransactionError)
    {Q : Option TransactionError × List (Participant Nat) → World → Prop}
    (hQ : ∀ qs w', List.Forall₂ Passed ps qs → World.Later (Scope.handles ps) w w' → Q (e, qs) w') :
    Returns (do let (_, after) ← Scope.rollBackEach host s ps; pure (e, after)) w Q := by
  refine Returns.bind ((returns_rollBackEach ps).mono ?_)
  rintro _ _ ⟨rfl, rfl⟩
  exact returns_pure (hQ _ _ (passed_map_settled ps) World.later_rollbackAll)

/-- A completion that is cancelled rolls back from the participant at which it stopped on, and
leaves nobody pending. -/
theorem returns_cancelCommit (faithful : Faithful racing) {index : Nat} {outcomeUnknown : Bool} :
    Returns (Scope.Suspending.cancelCommit racing s index p rest outcomeUnknown) w fun r w' =>
      List.Forall₂ Passed (p :: rest) r.2 ∧ World.Later (Scope.handles (p :: rest)) w w' := by
  unfold Scope.Suspending.cancelCommit
  rw [faithful.toHost]
  exact Returns.bind (returns_note (returns_halt _ fun _ _ passed later => ⟨passed, later⟩))

/-- A round of commits leaves nobody pending, whether it gets through or not. -/
theorem returns_commitEach (faithful : Faithful racing) (index : Nat)
    (ps : List (Participant Nat)) :
    Returns (Scope.Suspending.commitEach racing s index ps) w fun r w' =>
      List.Forall₂ Passed ps r.2 ∧ World.Later (Scope.handles ps) w w' := by
  induction ps generalizing w index with
  | nil => exact returns_pure ⟨.nil, .refl _ w⟩
  | cons p rest ih =>
    have hnext {w₁ : World} (first : World.Later (Scope.handles [p]) w w₁) {q : Participant Nat}
        (hq : Passed p q) : Returns (Scope.Suspending.commitEach racing s (index + 1) rest) w₁
          fun r w' => List.Forall₂ Passed (p :: rest) (q :: r.2) ∧
            World.Later (Scope.handles (p :: rest)) w w' := by
      refine (ih (index + 1)).mono fun r w' hr => ⟨.cons hq hr.1, ?_⟩
      rw [handles_cons]
      exact first.append hr.2
    unfold Scope.Suspending.commitEach
    refine Returns.bind ((faithful.isCancelled w).mono ?_)
    rintro cancelled w rfl
    split
    · exact returns_cancelCommit faithful
    · cases hh : p.handle with
      | none =>
        have hp : Passed p p := ⟨rfl, rfl, by simp [Participant.isPending, hh]⟩
        exact Returns.bind ((hnext (.refl _ _) hp).mono fun r w' hr => returns_pure hr)
      | some h =>
        refine Returns.bind ((faithful.commitRacing _ h).mono fun ended w₁ later => ?_)
        rw [← handles_singleton hh] at later
        have hhalt : World.Later (Scope.handles (p :: rest)) w w₁ := by
          rw [handles_cons]
          exact later.mono fun _ => List.mem_append_left _
        rw [faithful.toHost]
        cases ended with
        | interrupted =>
          exact (returns_cancelCommit faithful).mono fun _ _ hr => ⟨hr.1, hhalt.trans hr.2⟩
        | finished outcome =>
          cases outcome with
          | ok =>
            have hp : Passed p p.committed := ⟨rfl, rfl, rfl⟩
            refine Returns.bind (returns_note ?_)
            exact Returns.bind ((hnext later hp).mono fun r w' hr => returns_pure hr)
          | error source =>
            refine Returns.bind (returns_note (returns_halt _ fun _ _ passed after => ?_))
            exact ⟨passed, hhalt.trans after⟩

end Walks

end Postgres

end UnitOfWork
