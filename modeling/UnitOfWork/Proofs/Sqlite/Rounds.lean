import UnitOfWork.Proofs.Scope.Usage
import UnitOfWork.Proofs.Sqlite.Connections

/-!
# Rounds of commits and rollbacks over databases

What one walk of a scope over its participants makes of one of them and of its database. A call for
another participant goes to another connection and spares this one (`Spares`); the calls for the
participant itself end its transaction, one way or the other. So the participant is `Running` before
a round of commits or of rollbacks, and `Ended` after it, outside a transaction and with a standing.

A participant whose transaction somebody else has ended is still `Running` in the eyes of its scope. The
calls for it are refused then, so the scope rolls back what is no longer there to be undone. `Ended`
therefore speaks of the content that a rollback could restore when the walk began (`Journal.undone`): with
the transaction still open that is the content at BEGIN, else the content as it was.

A `Journal` says what a transaction is to its caller: the content of a database, and the content that a
rollback would restore.
-/

set_option autoImplicit false

namespace UnitOfWork.Sqlite

open Scope (Participant)

/-! ## What is asked of a database -/

/-- The content of a database, and the content at BEGIN while a transaction is open. -/
structure Journal (D C : Type) where
  content : D → C
  saved : D → Option C

/-- A successful BEGIN opens a transaction on the content it finds, a successful COMMIT closes it and keeps
the content, a failed COMMIT leaves it open, and a ROLLBACK succeeds and restores the content at BEGIN. -/
structure Journal.Lawful {D C S : Type} [Transactional D S] (journal : Journal D C) : Prop where
  inTransaction_eq : ∀ d, Transactional.inTransaction d = (journal.saved d).isSome
  begin_ok : ∀ {d d' : D} {immediate : Bool},
    Transactional.execute d (Transactional.begin D immediate) = (.ok (), d') →
      journal.content d' = journal.content d ∧ journal.saved d' = some (journal.content d)
  commit_ok : ∀ {d d' : D} {base : C}, journal.saved d = some base →
    Transactional.execute d (Transactional.commit D) = (.ok (), d') →
      journal.content d' = journal.content d ∧ journal.saved d' = none
  commit_error : ∀ {d d' : D} {base : C} {fault : Driver.Fault}, journal.saved d = some base →
    Transactional.execute d (Transactional.commit D) = (.error fault, d') →
      journal.saved d' = some base
  rollback : ∀ {d : D} {base : C}, journal.saved d = some base →
    ∃ d', Transactional.execute d (Transactional.rollback D) = (.ok (), d') ∧
      journal.content d' = base ∧ journal.saved d' = none

/-- What a rollback would leave: the content at BEGIN, or the content as it is outside a transaction. -/
def Journal.undone {D C : Type} (journal : Journal D C) (d : D) : C :=
  (journal.saved d).getD (journal.content d)

/-- A database that has no transaction to end: COMMIT and ROLLBACK fail and change nothing. -/
structure Refuses {D S : Type} [Transactional D S] (d : D) : Prop where
  commit : ∃ fault, Transactional.execute d (Transactional.commit D) = (.error fault, d)
  rollback : ∃ fault, Transactional.execute d (Transactional.rollback D) = (.error fault, d)

variable {D C S : Type} [Transactional D S]

/-! ## Sparing a connection -/

/-- What calls elsewhere leave of a connection: its database and the handles on it are as they were,
and every handle is on the connection it was on. -/
structure Spares (c : Nat) (w w' : World D) : Prop where
  database : w'.database? c = w.database? c
  kept : ∀ {h : Nat} {handle : Handle}, w.handles[h]? = some handle →
    ∃ active, w'.handles[h]? = some { handle with active } ∧
      (handle.connection = c → active = handle.active)

/-- A handle is on another connection. -/
def World.Elsewhere (w : World D) (c h : Nat) : Prop :=
  ∃ handle, w.handles[h]? = some handle ∧ handle.connection ≠ c

/-- Handles on other connections are still on other connections. -/
def KeepsAway (c : Nat) (w w' : World D) : Prop := ∀ h, w.Elsewhere c h → w'.Elsewhere c h

/-- The handles of these participants are on other connections. -/
def Apart (w : World D) (c : Nat) (ps : List (Participant Nat)) : Prop :=
  ∀ p ∈ ps, ∀ h, p.handle = some h → w.Elsewhere c h

section Spares

variable {c c' h : Nat} {w w' w'' : World D} {statement : S} {phase : Phase}
  {ps qs : List (Participant Nat)} {p : Participant Nat}

theorem Spares.refl (c : Nat) (w : World D) : Spares c w w where
  database := rfl
  kept {_ handle} held := ⟨handle.active, held, fun _ => rfl⟩

theorem Spares.trans (first : Spares c w w') (second : Spares c w' w'') : Spares c w w'' where
  database := second.database.trans first.database
  kept held := by
    obtain ⟨between, hbetween, hfirst⟩ := first.kept held
    obtain ⟨later, hlater, hsecond⟩ := second.kept hbetween
    exact ⟨later, hlater, fun hc => (hsecond hc).trans (hfirst hc)⟩

/-- A handle on a spared connection keeps its flag. -/
theorem Spares.held (spares : Spares c w w') {active : Bool}
    (held : w.handles[h]? = some { connection := c, active }) :
    w'.handles[h]? = some { connection := c, active } := by
  obtain ⟨later, hlater, hsame⟩ := spares.kept held
  rw [hlater, hsame rfl]

/-- Sparing any connection moves no handle. -/
theorem Spares.keepsAway (spares : Spares c' w w') : KeepsAway c w w' := by
  rintro h ⟨handle, held, hne⟩
  obtain ⟨later, hlater, -⟩ := spares.kept held
  exact ⟨_, hlater, hne⟩

theorem KeepsAway.trans (first : KeepsAway c w w') (second : KeepsAway c w' w'') :
    KeepsAway c w w'' := fun h elsewhere => second h (first h elsewhere)

/-- Participants on other connections stay there while no handle moves here. -/
theorem Apart.later (apart : Apart w c ps) (keeps : KeepsAway c w w') : Apart w' c ps :=
  fun p hp h hh => keeps h (apart p hp h hh)

theorem Apart.spared (apart : Apart w c ps) (spares : Spares c' w w') : Apart w' c ps :=
  apart.later spares.keepsAway

theorem Apart.cons (hp : ∀ h, p.handle = some h → w.Elsewhere c h) (apart : Apart w c ps) :
    Apart w c (p :: ps) := List.forall_mem_cons.mpr ⟨hp, apart⟩

/-- Only the handles of the participants say whether they are apart. -/
theorem Apart.of_map_handle (apart : Apart w c ps)
    (hsame : qs.map Participant.handle = ps.map Participant.handle) : Apart w c qs := by
  intro q hq h hh
  have hmem : q.handle ∈ ps.map Participant.handle := by
    rw [← hsame]
    exact List.mem_map_of_mem hq
  obtain ⟨p, hp, hpq⟩ := List.mem_map.mp hmem
  exact apart p hp h (hpq.trans hh)

/-- A statement on another connection spares this one. -/
theorem spares_execute (hne : c' ≠ c) : Spares c w (w.execute c' statement).2 where
  database := World.database?_execute_ne w statement hne
  kept {_ handle} held :=
    ⟨handle.active, by rw [World.handles_execute, held], fun _ => rfl⟩

/-- A call on a handle moves no handle, and leaves the flags of the others alone. -/
theorem kept_finish {i : Nat} {handle : Handle} (held : w.handles[i]? = some handle) :
    ∃ active, (w.finish h statement phase).2.handles[i]? = some { handle with active } ∧
      (h ≠ i → active = handle.active) := by
  obtain ⟨hlt, -⟩ := List.getElem?_eq_some_iff.mp held
  cases hactive : w.isActive h with
  | false => exact ⟨handle.active, by rw [World.finish_of_inactive hactive, held], fun _ => rfl⟩
  | true =>
    obtain ⟨⟨c, active⟩, hheld, rfl⟩ := (Option.any_eq_true _ _).mp hactive
    rw [World.finish_of_active hheld]
    by_cases hi : h = i
    · subst hi
      cases hheld.symm.trans held
      exact ⟨_, List.getElem?_set_self hlt, fun hne => absurd rfl hne⟩
    · exact ⟨handle.active, by rw [List.getElem?_set_ne hi, held], fun _ => rfl⟩

/-- A call on any handle moves no handle here. -/
theorem keepsAway_finish : KeepsAway c w (w.finish h statement phase).2 := by
  rintro i ⟨handle, held, hne⟩
  have hkept : ∃ active, (w.finish h statement phase).2.handles[i]? = some { handle with active } ∧
      (h ≠ i → active = handle.active) := kept_finish held
  obtain ⟨later, hlater, -⟩ := hkept
  exact ⟨_, hlater, hne⟩

/-- A call on a handle elsewhere spares this connection. -/
theorem spares_finish (elsewhere : w.Elsewhere c h) :
    Spares c w (w.finish h statement phase).2 where
  database := by
    obtain ⟨handle, held, hne⟩ := elsewhere
    cases hactive : w.isActive h with
    | false => rw [World.finish_of_inactive hactive]
    | true =>
      obtain ⟨⟨c', active⟩, hheld, rfl⟩ := (Option.any_eq_true _ _).mp hactive
      cases hheld.symm.trans held
      rw [World.finish_of_active hheld]
      exact World.database?_execute_ne w statement hne
  kept {i _} held := by
    obtain ⟨active, hlater, hsame⟩ := kept_finish held
    refine ⟨active, hlater, fun hc => hsame ?_⟩
    rintro rfl
    obtain ⟨other, hother, hne⟩ := elsewhere
    cases hother.symm.trans held
    exact hne hc

end Spares

/-! ## Walks over other participants -/

section Elsewhere

variable {c : Nat} {w : World D} {s : Scope Nat}

/-- What is recorded of a rollback changes no connection. -/
theorem returns_recordRollback {p : Participant Nat} {outcome : Except ParticipantError Unit}
    {Q : List RollbackFailure → World D → Prop} (hQ : ∀ failures, Q failures w) :
    Returns (Scope.recordRollback host s p outcome) w Q := by
  cases outcome with
  | ok => exact Returns.bind (returns_note (returns_pure (hQ _)))
  | error source => exact Returns.bind (returns_note (returns_pure (hQ _)))

/-- A round of rollbacks over participants elsewhere. -/
theorem returns_rollBackEach_apart {ps : List (Participant Nat)} (apart : Apart w c ps) :
    Returns (Scope.rollBackEach host s ps) w fun r w' =>
      Spares c w w' ∧ r.2.map Participant.handle = ps.map Participant.handle := by
  induction ps generalizing w with
  | nil => exact returns_pure ⟨.refl c w, rfl⟩
  | cons p rest ih =>
    obtain ⟨hp, hrest⟩ := List.forall_mem_cons.mp apart
    cases hpending : p.isPending with
    | false =>
      simp only [Scope.rollBackEach, hpending]
      refine Returns.bind ((ih hrest).mono fun r w' hr => returns_pure ⟨hr.1, ?_⟩)
      rw [List.map_cons, List.map_cons, hr.2]
    | true =>
      obtain ⟨h, hh⟩ := Scope.exists_handle_of_pending hpending
      simp only [Scope.rollBackEach, hpending, hh]
      have first : Spares c w (w.rollback h).2 := spares_finish (hp h hh)
      refine Returns.bind (returns_rollback (Returns.bind (returns_recordRollback fun _ => ?_)))
      refine Returns.bind ((ih (Apart.spared hrest first)).mono fun r w' hr => returns_pure ?_)
      refine ⟨first.trans hr.1, ?_⟩
      rw [List.map_cons, List.map_cons, hr.2]
      rfl

/-- A round of commits over participants elsewhere. -/
theorem returns_commitEach_apart {ps : List (Participant Nat)} (apart : Apart w c ps) (index : Nat) :
    Returns (Scope.Blocking.commitEach host s index ps) w fun r w' =>
      Spares c w w' ∧ r.2.map Participant.handle = ps.map Participant.handle := by
  induction ps generalizing w index with
  | nil => exact returns_pure ⟨.refl c w, rfl⟩
  | cons p rest ih =>
    obtain ⟨hp, hrest⟩ := List.forall_mem_cons.mp apart
    unfold Scope.Blocking.commitEach
    cases hh : p.handle with
    | none =>
      refine Returns.bind ((ih hrest _).mono fun r w' hr => returns_pure ⟨hr.1, ?_⟩)
      rw [List.map_cons, List.map_cons, hr.2]
    | some h =>
      have first : Spares c w (w.commit h).2 := spares_finish (hp h hh)
      refine Returns.bind (returns_commit ?_)
      cases (w.commit h).1 with
      | ok =>
        refine Returns.bind (returns_note ?_)
        refine Returns.bind ((ih (Apart.spared hrest first) _).mono fun r w' hr => returns_pure ?_)
        refine ⟨first.trans hr.1, ?_⟩
        rw [List.map_cons, List.map_cons, hr.2]
        rfl
      | error source =>
        refine Returns.bind (returns_note ?_)
        have hround := returns_rollBackEach_apart (s := s) (Apart.spared apart first)
        exact Returns.bind (hround.mono fun r w' hr => returns_pure ⟨first.trans hr.1, hr.2⟩)

/-- Releases spare a connection whose own handles among them are not active. -/
theorem returns_releaseEach {held : List Nat}
    (quiet : ∀ h ∈ held, w.Elsewhere c h ∨
      w.handles[h]? = some { connection := c, active := false }) :
    Returns (held.forM host.release) w fun _ w' => Spares c w w' := by
  induction held generalizing w with
  | nil => exact returns_pure (.refl c w)
  | cons h held ih =>
    obtain ⟨hh, hheld⟩ := List.forall_mem_cons.mp quiet
    have first : Spares c w (w.rollback h).2 := by
      rcases hh with elsewhere | inactive
      · exact spares_finish elsewhere
      · rw [World.rollback, World.finish_of_inactive (World.isActive_of_held inactive)]
        exact .refl c w
    refine Returns.bind (returns_release ?_)
    refine (ih fun i hi => ?_).mono fun _ w' later => first.trans later
    exact (hheld i hi).imp (first.keepsAway i) first.held

end Elsewhere

/-! ## One participant among others -/

/-- A participant that its scope takes for running, over a database. Its transaction may have been ended
by others, unknown to the handle or not; then the database refuses to end it again. -/
structure Running (journal : Journal D C) (c : Nat) (d : D) (p : Participant Nat) (w : World D) :
    Prop where
  standing : p.standing = .enlisted
  handle : ∃ h active, p.handle = some h ∧ w.handles[h]? = some { connection := c, active } ∧
    (active = false → journal.saved d = none)
  database : w.database? c = some d
  refuses : journal.saved d = none → Refuses d

/-- The record of a participant goes with what is found in its database: committed with what was made
there, or rolled back with what there was before. -/
def Agrees (p : Participant Nat) (base made found : C) : Prop :=
  p.standing = .committed ∧ found = made ∨ p.standing = .rolledBack ∧ found = base

/-- A participant whose transaction has ended, committed or rolled back. -/
structure Ended (journal : Journal D C) (c : Nat) (base made : C) (p : Participant Nat)
    (w : World D) : Prop where
  handle : ∀ h, p.handle = some h → w.handles[h]? = some { connection := c, active := false }
  database : ∃ d, w.database? c = some d ∧ journal.saved d = none ∧
    Agrees p base made (journal.content d)

/-- The participant at a place is as said, and all others are on other connections. -/
inductive Holds (c k : Nat) (said : Participant Nat → World D → Prop)
    (ps : List (Participant Nat)) (w : World D) : Prop where
  | mk {front back : List (Participant Nat)} {p : Participant Nat} (split : ps = front ++ p :: back)
      (place : front.length = k) (before : Apart w c front) (behind : Apart w c back)
      (holds : said p w) : Holds c k said ps w

section Target

variable {journal : Journal D C} {c k h : Nat} {base made : C} {d : D} {p : Participant Nat}
  {w w' : World D} {s : Scope Nat} {phase : Phase} {ps : List (Participant Nat)}

/-- Inside a transaction, a rollback leaves what there was at BEGIN. -/
theorem Journal.undone_of_saved (opened : journal.saved d = some base) : journal.undone d = base := by
  rw [undone, opened, Option.getD_some]

/-- Outside a transaction there is nothing to undo. -/
theorem Journal.undone_of_none (outside : journal.saved d = none) :
    journal.undone d = journal.content d := by
  rw [undone, outside, Option.getD_none]

/-- A participant is still running when its connection is spared. -/
theorem Running.spared (running : Running journal c d p w) (spares : Spares c w w') :
    Running journal c d p w' where
  standing := running.standing
  handle := by
    obtain ⟨h, active, hh, held, lost⟩ := running.handle
    exact ⟨h, active, hh, spares.held held, lost⟩
  database := spares.database.trans running.database
  refuses := running.refuses

/-- A transaction that has ended has still ended when its connection is spared. -/
theorem Ended.spared (ended : Ended journal c base made p w) (spares : Spares c w w') :
    Ended journal c base made p w' where
  handle h hh := spares.held (ended.handle h hh)
  database := by
    rw [spares.database]
    exact ended.database

/-- A participant whose transaction has ended is not pending. -/
theorem Ended.not_pending (ended : Ended journal c base made p w) : p.isPending = false := by
  obtain ⟨d, -, -, ⟨hstanding, -⟩ | ⟨hstanding, -⟩⟩ := ended.database <;>
    simp [Participant.isPending, hstanding]

/-- A running participant is pending. -/
theorem Running.isPending (running : Running journal c d p w) : p.isPending = true := by
  obtain ⟨h, -, hh, -⟩ := running.handle
  exact p.isPending_iff.mpr ⟨running.standing, by rw [hh]; rfl⟩

/-- A call on an active handle leaves the database that its statement leaves, and the flag that goes
with it. -/
theorem finish_running {statement : S} {outcome : Except Driver.Fault Unit} {d' : D} (phase : Phase)
    (held : w.handles[h]? = some { connection := c }) (database : w.database? c = some d)
    (ran : Transactional.execute d statement = (outcome, d')) :
    (w.finish h statement phase).1 = outcome.mapError .driver ∧
      (w.finish h statement phase).2.database? c = some d' ∧
      (w.finish h statement phase).2.handles[h]? =
        some { connection := c, active := Transactional.inTransaction d' } := by
  obtain ⟨hlt, -⟩ := List.getElem?_eq_some_iff.mp held
  have hdatabase : (w.execute c statement).2.database? c = some d' := by
    rw [World.database?_execute, database, Option.map_some, ran]
  rw [World.finish_of_active held]
  refine ⟨?_, hdatabase, ?_⟩
  · show (w.execute c statement).1.mapError _ = _
    rw [World.execute_fst database, ran]
  · show (w.handles.set h _)[h]? = _
    rw [List.getElem?_set_self hlt, World.inTransaction_of_database hdatabase]

/-- A call for a participant whose transaction is over fails, changes nothing in the database and leaves
the handle inactive. -/
theorem finish_refused {statement : S} (laws : journal.Lawful) (phase : Phase)
    {active : Bool} (held : w.handles[h]? = some { connection := c, active })
    (database : w.database? c = some d) (outside : journal.saved d = none)
    (refused : ∃ fault, Transactional.execute d statement = (.error fault, d)) :
    (∃ e, (w.finish h statement phase).1 = .error e) ∧
      (w.finish h statement phase).2.database? c = some d ∧
      (w.finish h statement phase).2.handles[h]? = some { connection := c, active := false } := by
  cases active with
  | false =>
    rw [World.finish_of_inactive (World.isActive_of_held held)]
    exact ⟨⟨_, rfl⟩, database, held⟩
  | true =>
    obtain ⟨fault, ran⟩ := refused
    obtain ⟨houtcome, hdatabase, hflag⟩ := finish_running phase held database ran
    rw [laws.inTransaction_eq, outside] at hflag
    exact ⟨⟨_, houtcome⟩, hdatabase, hflag⟩

/-- The rollback of a running participant ends its transaction and undoes what can be undone. -/
theorem Running.rollback (laws : journal.Lawful) (made : C) (running : Running journal c d p w)
    (hh : p.handle = some h) :
    Ended journal c (journal.undone d) made p.rolledBack (w.rollback h).2 := by
  obtain ⟨h', active, hh', held, lost⟩ := running.handle
  cases hh.symm.trans hh'
  have ended {d' : D} (hdatabase : (w.rollback h).2.database? c = some d')
      (hflag : (w.rollback h).2.handles[h]? = some { connection := c, active := false })
      (hsaved : journal.saved d' = none) (hcontent : journal.content d' = journal.undone d) :
      Ended journal c (journal.undone d) made p.rolledBack (w.rollback h).2 := by
    refine ⟨fun i hi => ?_, d', hdatabase, hsaved, .inr ⟨rfl, hcontent⟩⟩
    cases hh.symm.trans hi
    exact hflag
  cases hsaved : journal.saved d with
  | none =>
    obtain ⟨-, hdatabase, hflag⟩ := finish_refused laws .rollback held running.database hsaved
      (running.refuses hsaved).rollback
    exact ended hdatabase hflag hsaved (Journal.undone_of_none hsaved).symm
  | some base =>
    have hactive : active = true := by
      rw [← Bool.not_eq_false]
      intro inactive
      cases hsaved.symm.trans (lost inactive)
    subst hactive
    obtain ⟨d', ran, hcontent, hover⟩ := laws.rollback hsaved
    obtain ⟨-, hdatabase, hflag⟩ := finish_running .rollback held running.database ran
    rw [laws.inTransaction_eq, hover] at hflag
    exact ended hdatabase hflag hover (hcontent.trans (Journal.undone_of_saved hsaved).symm)

/-- The commit of a running participant ends its transaction, or leaves as much to undo as before. -/
theorem Running.commit (laws : journal.Lawful) (running : Running journal c d p w)
    (hh : p.handle = some h) :
    ((w.commit h).1 = .ok () ∧
      Ended journal c (journal.undone d) (journal.content d) p.committed (w.commit h).2) ∨
    (∃ e, (w.commit h).1 = .error e) ∧
      ∃ d', journal.undone d' = journal.undone d ∧ Running journal c d' p (w.commit h).2 := by
  obtain ⟨h', active, hh', held, lost⟩ := running.handle
  cases hh.symm.trans hh'
  cases hsaved : journal.saved d with
  | none =>
    obtain ⟨herror, hdatabase, hflag⟩ := finish_refused laws .commit held running.database hsaved
      (running.refuses hsaved).commit
    exact .inr ⟨herror, d, rfl,
      running.standing, ⟨h, false, hh, hflag, fun _ => hsaved⟩, hdatabase, running.refuses⟩
  | some base =>
    have hactive : active = true := by
      rw [← Bool.not_eq_false]
      intro inactive
      cases hsaved.symm.trans (lost inactive)
    subst hactive
    rcases ran : Transactional.execute d (Transactional.commit D) with ⟨outcome, d'⟩
    obtain ⟨houtcome, hdatabase, hflag⟩ := finish_running .commit held running.database ran
    cases outcome with
    | ok =>
      obtain ⟨hcontent, hover⟩ := laws.commit_ok hsaved ran
      rw [laws.inTransaction_eq, hover] at hflag
      refine .inl ⟨houtcome, fun i hi => ?_, d', hdatabase, hover, .inl ⟨rfl, hcontent⟩⟩
      cases hh.symm.trans hi
      exact hflag
    | error fault =>
      have still := laws.commit_error hsaved ran
      rw [laws.inTransaction_eq, still] at hflag
      have hundone : journal.undone d' = journal.undone d := by
        rw [Journal.undone_of_saved still, Journal.undone_of_saved hsaved]
      refine .inr ⟨⟨_, houtcome⟩, d', hundone, running.standing, ⟨h, true, hh, hflag, ?_⟩, hdatabase, ?_⟩
      · exact Bool.noConfusion
      · intro outside
        cases outside.symm.trans still

/-! ## Walks over everyone -/

/-- What a walk comes to: the participant at a place is as said, and no handle came here from another
connection. -/
structure Reached (c k : Nat) (said : Participant Nat → World D → Prop) (w : World D)
    (ps : List (Participant Nat)) (w' : World D) : Prop where
  holds : Holds c k said ps w'
  keeps : KeepsAway c w w'

variable {said : Participant Nat → World D → Prop} {q q' : Participant Nat} {w₁ : World D}
  {front back : List (Participant Nat)}

/-- One participant elsewhere in front moves the place by one. -/
theorem Holds.cons (hq : ∀ h, q.handle = some h → w.Elsewhere c h) (holds : Holds c k said ps w) :
    Holds c (k + 1) said (q :: ps) w := by
  obtain ⟨rfl, rfl, before, behind, holds⟩ := holds
  exact .mk rfl rfl (before.cons hq) behind holds

/-- A walk that has passed a participant elsewhere goes on with the others. -/
theorem Reached.passed (hq : ∀ h, q.handle = some h → w.Elsewhere c h)
    (hsame : q'.handle = q.handle) (first : Spares c w w₁) (rest : Reached c k said w₁ ps w') :
    Reached c (k + 1) said w (q' :: ps) w' := by
  have keeps := first.keepsAway.trans rest.keeps
  exact ⟨rest.holds.cons fun h hh => keeps h (hq h (hsame ▸ hh)), keeps⟩

/-- A walk may start later, when no handle has moved here before. -/
theorem Reached.after (first : KeepsAway c w w₁) (rest : Reached c k said w₁ ps w') :
    Reached c k said w ps w' := ⟨rest.holds, first.trans rest.keeps⟩

/-- A walk that has settled the participant leaves those behind it on other connections. -/
theorem reached_first (keeps : KeepsAway c w w₁) (behind : Apart w c ps) (spares : Spares c w₁ w')
    (hsame : back.map Participant.handle = ps.map Participant.handle) (holds : said p w') :
    Reached c 0 said w (p :: back) w' where
  holds := by
    have hsplit : p :: back = [] ++ p :: back := rfl
    refine .mk hsplit rfl (fun _ hq => absurd hq List.not_mem_nil) ?_ holds
    exact ((behind.later keeps).spared spares).of_map_handle hsame
  keeps := keeps.trans spares.keepsAway

/-- A round of rollbacks reaches a participant as the participants before it leave it. -/
theorem returns_rollBackEach_past (before : Apart w c front)
    (hfirst : ∀ {w₁ : World D}, Spares c w w₁ →
      Returns (Scope.rollBackEach host s (p :: back)) w₁ fun r w' => Reached c 0 said w₁ r.2 w') :
    Returns (Scope.rollBackEach host s (front ++ p :: back)) w fun r w' =>
      Reached c front.length said w r.2 w' := by
  induction front generalizing w with
  | nil => exact hfirst (.refl c w)
  | cons q front ih =>
    obtain ⟨hq, hfront⟩ := List.forall_mem_cons.mp before
    have next {w₁ : World D} (first : Spares c w w₁) (q' : Participant Nat)
        (hsame : q'.handle = q.handle) :
        Returns (Scope.rollBackEach host s (front ++ p :: back)) w₁ fun r w' =>
          Reached c (front.length + 1) said w (q' :: r.2) w' :=
      (ih (Apart.spared hfront first) fun later => hfirst (first.trans later)).mono
        fun r w' hr => .passed hq hsame first hr
    cases hpending : q.isPending with
    | false =>
      simp only [List.cons_append, Scope.rollBackEach, hpending]
      exact Returns.bind ((next (.refl c w) q rfl).mono fun r w' hr => returns_pure hr)
    | true =>
      obtain ⟨i, hi⟩ := Scope.exists_handle_of_pending hpending
      simp only [List.cons_append, Scope.rollBackEach, hpending, hi]
      have first : Spares c w (w.rollback i).2 := spares_finish (hq i hi)
      refine Returns.bind (returns_rollback (Returns.bind (returns_recordRollback fun _ => ?_)))
      exact Returns.bind ((next first q.rolledBack rfl).mono fun r w' hr => returns_pure hr)

/-- A round of rollbacks from a running participant on. -/
theorem returns_rollBackEach_first (laws : journal.Lawful) (made : C)
    (running : Running journal c d p w) (behind : Apart w c back) :
    Returns (Scope.rollBackEach host s (p :: back)) w fun r w' =>
      Reached c 0 (Ended journal c (journal.undone d) made) w r.2 w' := by
  obtain ⟨h, -, hh, -⟩ := running.handle
  simp only [Scope.rollBackEach, running.isPending, hh]
  have ended := running.rollback laws made hh
  have keeps : KeepsAway c w (w.rollback h).2 := keepsAway_finish
  refine Returns.bind (returns_rollback (Returns.bind (returns_recordRollback fun _ => ?_)))
  refine Returns.bind ((returns_rollBackEach_apart (behind.later keeps)).mono ?_)
  rintro ⟨failures, back'⟩ w' ⟨spares, hsame⟩
  exact returns_pure (reached_first keeps behind spares hsame (ended.spared spares))

/-- A round of rollbacks ends the transaction of a running participant. -/
theorem returns_rollBackEach_running (laws : journal.Lawful) (made : C)
    (holds : Holds c k (Running journal c d) ps w) :
    Returns (Scope.rollBackEach host s ps) w fun r w' =>
      Reached c k (Ended journal c (journal.undone d) made) w r.2 w' := by
  obtain ⟨rfl, rfl, before, behind, running⟩ := holds
  exact returns_rollBackEach_past before fun spares =>
    returns_rollBackEach_first laws made (running.spared spares) (behind.spared spares)

/-- A round of rollbacks passes a participant whose transaction has ended. -/
theorem returns_rollBackEach_ended (holds : Holds c k (Ended journal c base made) ps w) :
    Returns (Scope.rollBackEach host s ps) w fun r w' =>
      Reached c k (Ended journal c base made) w r.2 w' := by
  obtain @⟨front, back, p, rfl, rfl, before, behind, ended⟩ := holds
  refine returns_rollBackEach_past before fun {w₁} spares => ?_
  have behind := behind.spared spares
  simp only [Scope.rollBackEach, ended.not_pending]
  refine Returns.bind ((returns_rollBackEach_apart behind).mono ?_)
  rintro ⟨failures, back'⟩ w' ⟨later, hsame⟩
  exact returns_pure
    (reached_first (Spares.refl c w₁).keepsAway behind later hsame ((ended.spared spares).spared later))

/-- A round of commits ends the transaction of a running participant, whoever fails. -/
theorem returns_commitEach_running (laws : journal.Lawful) (index : Nat)
    (holds : Holds c k (Running journal c d) ps w) :
    Returns (Scope.Blocking.commitEach host s index ps) w fun r w' =>
      Reached c k (Ended journal c (journal.undone d) (journal.content d)) w r.2 w' := by
  obtain @⟨front, back, p, rfl, rfl, before, behind, running⟩ := holds
  induction front generalizing w index with
  | nil =>
    obtain ⟨h, -, hh, -⟩ := running.handle
    unfold Scope.Blocking.commitEach
    simp only [List.nil_append, hh]
    have keeps : KeepsAway c w (w.commit h).2 := keepsAway_finish
    refine Returns.bind (returns_commit ?_)
    rcases running.commit laws hh with ⟨hok, ended⟩ | ⟨⟨e, herror⟩, d', hundone, still⟩
    · rw [hok]
      refine Returns.bind (returns_note ?_)
      refine Returns.bind ((returns_commitEach_apart (behind.later keeps) _).mono ?_)
      rintro ⟨failure, back'⟩ w' ⟨spares, hsame⟩
      exact returns_pure (reached_first keeps behind spares hsame (ended.spared spares))
    · rw [herror]
      refine Returns.bind (returns_note (Returns.bind ?_))
      rw [← hundone]
      exact (returns_rollBackEach_first laws _ still (behind.later keeps)).mono
        fun r w' hr => returns_pure (hr.after keeps)
  | cons q front ih =>
    obtain ⟨hq, hfront⟩ := List.forall_mem_cons.mp before
    have next {w₁ : World D} (first : Spares c w w₁) (q' : Participant Nat)
        (hsame : q'.handle = q.handle) :
        Returns (Scope.Blocking.commitEach host s (index + 1) (front ++ p :: back)) w₁ fun r w' =>
          Reached c (front.length + 1) (Ended journal c (journal.undone d) (journal.content d)) w
            (q' :: r.2) w' :=
      (ih _ (Apart.spared hfront first) (behind.spared first) (running.spared first)).mono
        fun r w' hr => .passed hq hsame first hr
    unfold Scope.Blocking.commitEach
    simp only [List.cons_append]
    cases hi : q.handle with
    | none => exact Returns.bind ((next (.refl c w) q rfl).mono fun r w' hr => returns_pure hr)
    | some i =>
      have first : Spares c w (w.commit i).2 := spares_finish (hq i hi)
      refine Returns.bind (returns_commit ?_)
      cases (w.commit i).1 with
      | ok =>
        refine Returns.bind (returns_note ?_)
        exact Returns.bind ((next first q.committed rfl).mono fun r w' hr => returns_pure hr)
      | error source =>
        -- Everyone is rolled back, this participant among them.
        have holds : Holds c (q :: front).length (Running journal c d)
            (q :: front ++ p :: back) (w.commit i).2 :=
          .mk rfl rfl (Apart.spared before first) (behind.spared first) (running.spared first)
        refine Returns.bind (returns_note (Returns.bind ?_))
        exact (returns_rollBackEach_running laws _ holds).mono
          fun r w' hr => returns_pure (hr.after first.keepsAway)

/-- Who holds a handle no more is on no connection. -/
theorem apart_released (ps : List (Participant Nat)) :
    Apart w c (ps.map Participant.released) := by
  intro q hq h hh
  obtain ⟨p, -, rfl⟩ := List.mem_map.mp hq
  cases hh

/-- Releasing every handle changes nothing for a participant whose transaction has ended. -/
theorem returns_releaseAll_ended (holds : Holds c k (Ended journal c base made) s.participants w) :
    Returns (Scope.releaseAll host s) w fun after w' =>
      Holds c k (Ended journal c base made) after.participants w' := by
  obtain @⟨front, back, p, split, rfl, before, behind, ended⟩ := holds
  have quiet : ∀ h ∈ Scope.handles s.participants, w.Elsewhere c h ∨
      w.handles[h]? = some { connection := c, active := false } := by
    intro h hh
    obtain ⟨q, hq, hqh⟩ := List.mem_filterMap.mp hh
    rw [split] at hq
    rcases List.mem_append.mp hq with hfront | hrest
    · exact .inl (before q hfront h hqh)
    · rcases List.mem_cons.mp hrest with rfl | hback
      · exact .inr (ended.handle h hqh)
      · exact .inl (behind q hback h hqh)
  refine Returns.bind ((returns_releaseEach quiet).mono fun _ w' spares => returns_pure ?_)
  have hsplit : s.released.participants =
      front.map Participant.released ++ p.released :: back.map Participant.released := by
    rw [Scope.released, split, List.map_append, List.map_cons]
  refine .mk hsplit (List.length_map _) (apart_released front) (apart_released back) ?_
  have hreleased : p.released.handle = none := rfl
  exact
    { handle := fun h hh => by cases hreleased.symm.trans hh
      database := (ended.spared spares).database }

/-! ## Completing and disposing -/

/-- A scope that takes no more participants and makes no more commits. -/
def Closed (s : Scope Nat) : Prop := s.state = .disposed ∨ s.completeAttempted = true

/-- A closed scope refuses every participant. -/
theorem Closed.enlistObstacle (closed : Closed s) : ∃ reason, s.enlistObstacle = some reason := by
  rw [← Option.isSome_iff_exists, Option.isSome_iff_ne_none]
  intro hnone
  obtain ⟨hstate, -, hattempted⟩ := (Scope.enlistObstacle_eq_none_iff s).mp hnone
  rcases closed with hclosed | hclosed
  · cases hclosed.symm.trans hstate
  · cases hclosed.symm.trans hattempted

/-- A closed scope refuses every completion. -/
theorem Closed.completeObstacle (closed : Closed s) : ∃ reason, s.completeObstacle = some reason := by
  rw [← Option.isSome_iff_exists, Option.isSome_iff_ne_none]
  intro hnone
  obtain ⟨hstate, -, hattempted⟩ := (Scope.completeObstacle_eq_none_iff s).mp hnone
  rcases closed with hclosed | hclosed
  · cases hclosed.symm.trans hstate
  · cases hclosed.symm.trans hattempted

/-- A completion that is refused calls no connection. -/
theorem returns_complete_refused {reason : String} (obstacle : s.completeObstacle = some reason) :
    Returns (Scope.Blocking.complete host s) w fun r w' => r.2 = s ∧ w' = w := by
  simp only [Scope.Blocking.complete, Scope.beginComplete, obstacle]
  exact returns_pure ⟨rfl, rfl⟩

/-- A completion that is not refused ends the transaction of a running participant. -/
theorem returns_complete_running (laws : journal.Lawful) (obstacle : s.completeObstacle = none)
    (mode : s.mode = some .own) (holds : Holds c k (Running journal c d) s.participants w) :
    Returns (Scope.Blocking.complete host s) w fun r w' => Closed r.2 ∧
      Holds c k (Ended journal c (journal.undone d) (journal.content d)) r.2.participants w' := by
  simp only [Scope.Blocking.complete, Scope.beginComplete, obstacle, mode, if_true]
  refine Returns.bind ((returns_commitEach_running laws 0 holds).mono ?_)
  rintro ⟨failure, participants⟩ w' reached
  cases failure with
  | some e => exact returns_pure ⟨.inr rfl, reached.holds⟩
  | none => exact Returns.bind (returns_note (returns_pure ⟨.inr rfl, reached.holds⟩))

/-- The end of a disposal that leaves these participants. -/
theorem returns_close (failures : List RollbackFailure)
    (holds : Holds c k (Ended journal c base made) ps w) :
    Returns (do
      let s ← Scope.releaseAll host { s with participants := ps }
      host.note s .disposed
      pure (Scope.disposal failures, s.markDisposed)) w fun r w' => Closed r.2 ∧
        Holds c k (Ended journal c base made) r.2.participants w' := by
  exact Returns.bind ((returns_releaseAll_ended holds).mono
    fun after w' hafter => Returns.bind (returns_note (returns_pure ⟨.inl rfl, hafter⟩)))

/-- A disposal ends the transaction of a running participant, by a rollback. -/
theorem returns_dispose_running (laws : journal.Lawful) (made : C) (opened : s.state = .opened)
    (mode : s.mode = some .own) (holds : Holds c k (Running journal c d) s.participants w) :
    Returns (Scope.Blocking.dispose host s) w fun r w' => Closed r.2 ∧
      Holds c k (Ended journal c (journal.undone d) made) r.2.participants w' := by
  unfold Scope.Blocking.dispose
  rw [if_neg (Scope.not_disposed opened), if_pos ((Scope.needsRollback_iff s).mpr ⟨mode, opened⟩)]
  exact Returns.bind ((returns_rollBackEach_running laws made holds).mono
    fun r w₁ reached => returns_close r.1 reached.holds)

/-- A disposal changes nothing for a participant whose transaction has ended. -/
theorem returns_dispose_ended (closed : Closed s)
    (holds : Holds c k (Ended journal c base made) s.participants w) :
    Returns (Scope.Blocking.dispose host s) w fun r w' => Closed r.2 ∧
      Holds c k (Ended journal c base made) r.2.participants w' := by
  unfold Scope.Blocking.dispose
  by_cases hstate : s.state = .disposed
  · rw [if_pos hstate]
    exact returns_pure ⟨closed, holds⟩
  · rw [if_neg hstate]
    split
    · exact Returns.bind ((returns_rollBackEach_ended holds).mono
        fun r w₁ reached => returns_close r.1 reached.holds)
    · exact Returns.bind (returns_pure (returns_close [] holds))

end Target

end UnitOfWork.Sqlite
