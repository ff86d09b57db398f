import UnitOfWork.Proofs.Sqlite.Connections

/-!
# Whose transaction a handle ends

A connection hands out a handle with every transaction that it begins, and has one transaction open at
a time. The transaction may end behind the back of its handle: the caller runs a COMMIT or ROLLBACK of
its own, or the engine rolls back upon an error. The flag of the handle is then stale until the next call
on that handle, which looks at the flag before it asks the connection.

A handle `Strays` while its flag is stale. `call_on_handle` says what a call does to the connection, for
every history: on a handle that owns the open transaction it runs there; on a handle that strays it runs
in whatever transaction is open, which someone else has opened; on any other handle it changes nothing.
So a handle ends only its own transaction exactly as long as it does not stray, which it never does where
the caller leaves the ends to the handles (`not_strays`). `rollback_of_stray` is the smallest history
in which a handle ends a transaction that was begun later.

A history is a list of single statements and calls, newest first; several statements sent in one batch
are several deeds. Clones of a handle share its flag and are the same handle.
-/

set_option autoImplicit false

namespace UnitOfWork.Sqlite

/-- Outside a transaction a BEGIN opens one or fails, and nothing else has anything to end. -/
class Exclusive (D : Type) {S : Type} [Transactional D S] : Prop extends Flat D where
  begin_ok : ∀ {d : D} {immediate : Bool},
    (Transactional.execute d (Transactional.begin D immediate)).1 = .ok () →
      Transactional.inTransaction (Transactional.execute d (Transactional.begin D immediate)).2 = true
  begin_error : ∀ {d : D} {immediate : Bool} {fault : Driver.Fault},
    Transactional.inTransaction d = false →
    (Transactional.execute d (Transactional.begin D immediate)).1 = .error fault →
      Transactional.inTransaction (Transactional.execute d (Transactional.begin D immediate)).2 = false
  commit_outside : ∀ {d : D}, Transactional.inTransaction d = false →
    (Transactional.execute d (Transactional.commit D)).2 = d
  rollback_outside : ∀ {d : D}, Transactional.inTransaction d = false →
    (Transactional.execute d (Transactional.rollback D)).2 = d

/-! ## Histories -/

/-- The calls that end the transaction of a handle. -/
inductive Ending where
  | commit
  | rollback
  | release
deriving DecidableEq, Repr

/-- One thing that is done to the connections. -/
inductive Deed (S : Type) where
  | begin (c : Nat) (level : IsolationLevel)
  | execute (c : Nat) (statement : S)
  | call (h : Nat) (ending : Ending)
deriving DecidableEq, Repr

section Histories

variable {D S : Type} [Transactional D S]

/-- The statement that a call runs. -/
def Ending.statement (D : Type) {S : Type} [Transactional D S] : Ending → S
  | .commit => Transactional.commit D
  | .rollback => Transactional.rollback D
  | .release => Transactional.rollback D

/-- Call a handle. -/
def Ending.perform (h : Nat) : Ending → WorldM D Unit
  | .commit => do let _ ← host.commit h
  | .rollback => do let _ ← host.rollback h
  | .release => host.release h

/-- The handle that a deed calls. -/
def Deed.called? : Deed S → Option Nat
  | .call h _ => some h
  | _ => none

/-- Carry out a deed. -/
def Deed.perform : Deed S → WorldM D Unit
  | .begin c level => do let _ ← (adapter ((← get).name c) c).beginOwn level
  | .execute c statement => do let _ ← modifyGet fun w => w.execute c statement
  | .call h ending => ending.perform h

/-- The connections and the handles after a deed. Nothing of this depends on what was recorded. -/
def World.next (w : World D) (deed : Deed S) : World D := ((deed.perform.run w).run {}).1.2

/-- The connections and the handles after a history that started without handles. -/
def after (start : List (Connection D)) : List (Deed S) → World D
  | [] => { connections := start }
  | deed :: past => (after start past).next deed

/-- Who opened a transaction. -/
inductive Opener where
  | handle (h : Nat)
  /-- The caller, by a BEGIN of its own. -/
  | caller
deriving DecidableEq, Repr

/-- Who is behind a transaction that a deed opens. -/
def Deed.opener (w : World D) : Deed S → Opener
  | .begin _ _ => .handle w.handles.length
  | _ => .caller

/-- Who opened the transaction that is open on a connection, if one is. -/
def opener (start : List (Connection D)) (c : Nat) : List (Deed S) → Option Opener
  | [] => if (after start ([] : List (Deed S))).inTransaction c then some .caller else none
  | deed :: past =>
    if (after start (deed :: past)).inTransaction c then
      some ((opener start c past).getD (deed.opener (after start past)))
    else none

/-- The transaction that is open on a connection is the one that a handle was handed out with. -/
def Owns (start : List (Connection D)) (c h : Nat) (past : List (Deed S)) : Prop :=
  opener start c past = some (.handle h)

instance (start : List (Connection D)) (c h : Nat) (past : List (Deed S)) :
    Decidable (Owns start c h past) :=
  inferInstanceAs (Decidable (opener start c past = some (.handle h)))

/-- The transaction that is open on a connection is not the one that a handle was handed out with. -/
def Foreign (start : List (Connection D)) (c h : Nat) (past : List (Deed S)) : Prop :=
  ∃ other, opener start c past = some other ∧ other ≠ .handle h

/-- The transaction of a handle was not ended by a call on it, and every call on it since has left
a transaction open. -/
inductive Strays (start : List (Connection D)) (c h : Nat) : List (Deed S) → Prop where
  | ended {deed : Deed S} {past : List (Deed S)} (owned : Owns start c h past)
      (lost : ¬ Owns start c h (deed :: past)) (other : deed.called? ≠ some h) :
      Strays start c h (deed :: past)
  | still {deed : Deed S} {past : List (Deed S)} (strays : Strays start c h past)
      (within : deed.called? = some h → (after start (deed :: past)).inTransaction c = true) :
      Strays start c h (deed :: past)

end Histories

/-! ## One deed -/

namespace World

variable {D S : Type} [Transactional D S] [Exclusive D] {w : World D} {c : Nat}
  {level : IsolationLevel}

/-- A BEGIN that succeeds opens the transaction that its connection did not have. -/
theorem begun (succeeded : (w.execute c (Transactional.begin D (isImmediate level))).1 = .ok ()) :
    w.inTransaction c = false ∧
      (w.execute c (Transactional.begin D (isImmediate level))).2.inTransaction c = true := by
  constructor
  · rw [Bool.eq_false_iff]
    intro within
    obtain ⟨fault, hsent⟩ := execute_begin_within within (isImmediate level)
    rw [hsent] at succeeded
    cases succeeded
  · cases hd : w.database? c with
    | none =>
      rw [execute_unconnected hd] at succeeded
      cases succeeded
    | some d =>
      rw [execute_fst hd] at succeeded
      rw [inTransaction_eq, database?_execute, hd]
      exact Exclusive.begin_ok succeeded

/-- A BEGIN that fails opens nothing. -/
theorem not_begun {fault : Driver.Fault} (outside : w.inTransaction c = false)
    (failed : (w.execute c (Transactional.begin D (isImmediate level))).1 = .error fault) :
    (w.execute c (Transactional.begin D (isImmediate level))).2.inTransaction c = false := by
  cases hd : w.database? c with
  | none => rw [execute_unconnected hd, outside]
  | some d =>
    rw [inTransaction_of_database hd] at outside
    rw [execute_fst hd] at failed
    rw [inTransaction_eq, database?_execute, hd]
    exact Exclusive.begin_error outside failed

end World

section Next

variable {D S : Type} [Transactional D S] {w : World D} {c c' h : Nat} {level : IsolationLevel}
  {statement : S} {ending : Ending} {handle : Handle}

/-- What a computation leaves, whatever was recorded before. -/
theorem next_eq {deed : Deed S} {w' : World D}
    (h : Returns deed.perform w fun _ after => after = w') : w.next deed = w' := h {}

theorem next_begin : w.next (.begin c level : Deed S) = (w.begin c level).2 :=
  next_eq (Returns.bind (returns_get (Returns.bind (returns_beginOwn _ c level (returns_pure rfl)))))

theorem next_execute : w.next (.execute c statement) = (w.execute c statement).2 :=
  next_eq (Returns.bind (returns_modifyGet (returns_pure rfl)))

/-- A call on a handle that is not active does nothing. -/
theorem next_call_inactive (inactive : w.isActive h = false) :
    w.next (.call h ending : Deed S) = w := by
  have hcommit : (w.commit h).2 = w := by rw [World.commit, World.finish_of_inactive inactive]
  have hrollback : (w.rollback h).2 = w := by rw [World.rollback, World.finish_of_inactive inactive]
  refine next_eq ?_
  cases ending with
  | commit => exact Returns.bind (returns_commit (returns_pure hcommit))
  | rollback => exact Returns.bind (returns_rollback (returns_pure hrollback))
  | release => exact returns_release hrollback

/-- A call on an active handle sends its statement to the connection and keeps the flag while the
connection is inside a transaction. -/
theorem next_call_active (held : w.handles[h]? = some { connection := c }) :
    w.next (.call h ending : Deed S) =
      { (w.execute c (ending.statement D)).2 with
        handles := w.handles.set h
          { connection := c, active := (w.execute c (ending.statement D)).2.inTransaction c } } := by
  refine next_eq ?_
  cases ending with
  | commit =>
    refine Returns.bind (returns_commit (returns_pure ?_))
    rw [World.commit, World.finish_of_active held]
    rfl
  | rollback =>
    refine Returns.bind (returns_rollback (returns_pure ?_))
    rw [World.rollback, World.finish_of_active held]
    rfl
  | release =>
    refine returns_release ?_
    rw [World.rollback, World.finish_of_active held]
    rfl

/-- Everything that a deed can do. -/
inductive DeedStep (w : World D) : Deed S → World D → Prop where
  | begun {c : Nat} {level : IsolationLevel}
      (succeeded : (w.execute c (Transactional.begin D (isImmediate level))).1 = .ok ()) :
      DeedStep w (.begin c level)
        { (w.execute c (Transactional.begin D (isImmediate level))).2 with
          handles := w.handles ++ [{ connection := c }] }
  | notBegun {c : Nat} {level : IsolationLevel} {fault : Driver.Fault}
      (failed : (w.execute c (Transactional.begin D (isImmediate level))).1 = .error fault) :
      DeedStep w (.begin c level) (w.execute c (Transactional.begin D (isImmediate level))).2
  | executed (c : Nat) (statement : S) :
      DeedStep w (.execute c statement) (w.execute c statement).2
  | refused {h : Nat} {ending : Ending} (inactive : w.isActive h = false) :
      DeedStep w (.call h ending) w
  | called {c h : Nat} {ending : Ending} (held : w.handles[h]? = some { connection := c }) :
      DeedStep w (.call h ending)
        { (w.execute c (ending.statement D)).2 with
          handles := w.handles.set h
            { connection := c, active := (w.execute c (ending.statement D)).2.inTransaction c } }

theorem deedStep (w : World D) (deed : Deed S) : DeedStep w deed (w.next deed) := by
  cases deed with
  | begin c level =>
    rw [next_begin]
    cases hsent : (w.execute c (Transactional.begin D (isImmediate level))).1 with
    | ok =>
      rw [World.begin_ok hsent]
      exact .begun hsent
    | error fault =>
      rw [World.begin_error hsent]
      exact .notBegun hsent
  | execute c statement =>
    rw [next_execute]
    exact .executed c statement
  | call h ending =>
    cases hactive : w.isActive h with
    | false =>
      rw [next_call_inactive hactive]
      exact .refused hactive
    | true =>
      obtain ⟨⟨c, active⟩, held, rfl⟩ := Option.any_eq_true _ _ |>.mp hactive
      rw [next_call_active held]
      exact .called held

variable {w' : World D} {deed : Deed S}

/-- A handle stays on its connection. -/
theorem DeedStep.kept (step : DeedStep w deed w') (held : w.handles[h]? = some handle) :
    ∃ active, w'.handles[h]? = some { handle with active } ∧
      (deed.called? ≠ some h → active = handle.active) := by
  obtain ⟨hlt, hget⟩ := List.getElem?_eq_some_iff.mp held
  cases step with
  | begun =>
    refine ⟨handle.active, ?_, fun _ => rfl⟩
    rw [List.getElem?_append_left hlt, held]
  | notBegun => exact ⟨handle.active, by rw [World.handles_execute, held], fun _ => rfl⟩
  | executed => exact ⟨handle.active, by rw [World.handles_execute, held], fun _ => rfl⟩
  | refused => exact ⟨handle.active, held, fun _ => rfl⟩
  | @called c i ending hcalled =>
    by_cases hi : i = h
    · subst hi
      cases hcalled.symm.trans held
      exact ⟨_, List.getElem?_set_self hlt, fun other => absurd rfl other⟩
    · exact ⟨handle.active, by rw [List.getElem?_set_ne hi, held], fun _ => rfl⟩

/-- A call leaves a handle active just if it was active and the connection is in a transaction now. -/
theorem DeedStep.flag {before later : Bool} (step : DeedStep w deed w')
    (called : deed.called? = some h)
    (held : w.handles[h]? = some { connection := c, active := before })
    (hlater : w'.handles[h]? = some { connection := c, active := later }) :
    later = true ↔ before = true ∧ w'.inTransaction c = true := by
  cases step with
  | begun => cases called
  | notBegun => cases called
  | executed => cases called
  | refused inactive =>
    cases called
    cases held.symm.trans hlater
    rw [World.isActive_of_held held] at inactive
    subst inactive
    simp
  | called hcalled =>
    cases called
    cases hcalled.symm.trans held
    obtain ⟨hlt, -⟩ := List.getElem?_eq_some_iff.mp held
    cases (List.getElem?_set_self hlt).symm.trans hlater
    simp [World.inTransaction]

/-- A handle that a deed hands out is the next one, and its transaction is new. -/
theorem DeedStep.fresh [Exclusive D] (step : DeedStep w deed w')
    (held : w'.handles[h]? = some handle) (unknown : w.handles[h]? = none) :
    deed.opener w = .handle h ∧ handle.active = true ∧
      w.inTransaction handle.connection = false ∧ w'.inTransaction handle.connection = true := by
  have hle : w.handles.length ≤ h := List.getElem?_eq_none_iff.mp unknown
  cases step with
  | @begun c level succeeded =>
    obtain ⟨hlt, -⟩ := List.getElem?_eq_some_iff.mp held
    have hh : h = w.handles.length := by
      rw [List.length_append, List.length_singleton] at hlt
      omega
    subst hh
    simp only [List.getElem?_concat_length, Option.some.injEq] at held
    subst held
    exact ⟨rfl, rfl, World.begun succeeded⟩
  | notBegun => rw [World.handles_execute, unknown] at held; cases held
  | executed => rw [World.handles_execute, unknown] at held; cases held
  | refused => cases unknown.symm.trans held
  | called =>
    rw [List.getElem?_eq_none (by rwa [List.length_set])] at held
    cases held

/-- A transaction that a handle was handed out with is on the connection that the handle was asked of. -/
theorem DeedStep.opened [Exclusive D] (step : DeedStep w deed w')
    (outside : w.inTransaction c = false) (within : w'.inTransaction c = true)
    (hopener : deed.opener w = .handle h) : w'.handles[h]? = some { connection := c } := by
  have hother (statement : S) (c' : Nat) (hne : c' ≠ c) :
      (w.execute c' statement).2.inTransaction c = false := by
    rw [World.inTransaction_congr (World.database?_execute_ne w statement hne), outside]
  cases step with
  | @begun c' level succeeded =>
    cases hopener
    by_cases hc : c' = c
    · subst hc
      exact List.getElem?_concat_length
    · cases (hother _ c' hc).symm.trans within
  | @notBegun c' level fault failed =>
    by_cases hc : c' = c
    · subst hc
      cases (World.not_begun outside failed).symm.trans within
    · cases (hother _ c' hc).symm.trans within
  | executed => cases hopener
  | refused => cases hopener
  | called => cases hopener

end Next

/-! ## Who owns what -/

section Owners

variable {D S : Type} [Transactional D S] {start : List (Connection D)} {past : List (Deed S)}
  {deed : Deed S} {c h : Nat} {handle : Handle}

/-- A connection is in a transaction just if somebody opened one that is open. -/
theorem opener_isSome : (opener start c past).isSome = (after start past).inTransaction c := by
  cases past with
  | nil => cases h : (after start ([] : List (Deed S))).inTransaction c <;> simp [opener, h]
  | cons deed past => cases h : (after start (deed :: past)).inTransaction c <;> simp [opener, h]

/-- A connection has an opener just while it is inside a transaction. -/
theorem opener_eq_none_iff :
    opener start c past = none ↔ (after start past).inTransaction c = false := by
  rw [← opener_isSome, Option.isSome_eq_false_iff, Option.isNone_iff_eq_none]

/-- Whoever owns a transaction, its connection is inside one. -/
theorem Owns.within (owns : Owns start c h past) : (after start past).inTransaction c = true := by
  rw [← opener_isSome, owns]
  rfl

/-- A transaction that a deed leaves open was open before, or the deed opened it. -/
theorem owns_cons_iff : Owns start c h (deed :: past) ↔
    (after start (deed :: past)).inTransaction c = true ∧
      (Owns start c h past ∨
        (after start past).inTransaction c = false ∧ deed.opener (after start past) = .handle h) := by
  unfold Owns
  rw [← opener_eq_none_iff, opener]
  split
  · next within =>
    cases opener start c past <;> simp [within]
  · next outside => simp [outside]

/-- A transaction that is left open keeps its owner. -/
theorem Owns.still (owns : Owns start c h past)
    (within : (after start (deed :: past)).inTransaction c = true) :
    Owns start c h (deed :: past) :=
  owns_cons_iff.mpr ⟨within, .inl owns⟩

/-- A handle that is known owns no transaction but the one it owned before. -/
theorem Owns.before (owns : Owns start c h (deed :: past))
    (held : (after start past).handles[h]? = some handle) : Owns start c h past := by
  obtain ⟨-, hbefore | ⟨-, hopener⟩⟩ := owns_cons_iff.mp owns
  · exact hbefore
  · -- Only the next handle is handed out with a new transaction.
    obtain ⟨hlt, -⟩ := List.getElem?_eq_some_iff.mp held
    cases deed <;> cases hopener
    exact absurd hlt (Nat.lt_irrefl _)

/-- A deed that does not call a handle it finds leaves the handle owning or straying as it was. -/
theorem owns_or_strays_iff (held : (after start past).handles[h]? = some handle)
    (other : deed.called? ≠ some h) :
    Owns start c h (deed :: past) ∨ Strays start c h (deed :: past) ↔
      Owns start c h past ∨ Strays start c h past := by
  constructor
  · rintro (owns | strays)
    · exact .inl (owns.before held)
    · cases strays with
      | ended owned lost other => exact .inl owned
      | still strays within => exact .inr strays
  · rintro (owns | strays)
    · by_cases hlost : Owns start c h (deed :: past)
      · exact .inl hlost
      · exact .inr (.ended owns hlost other)
    · exact .inr (.still strays fun called => absurd called other)

/-- A call on a handle that owned or strayed leaves it so just if it leaves a transaction open. -/
theorem owns_or_strays_called_iff (held : (after start past).handles[h]? = some handle)
    (called : deed.called? = some h) :
    Owns start c h (deed :: past) ∨ Strays start c h (deed :: past) ↔
      (Owns start c h past ∨ Strays start c h past) ∧
        (after start (deed :: past)).inTransaction c = true := by
  constructor
  · rintro (owns | strays)
    · exact ⟨.inl (owns.before held), owns.within⟩
    · cases strays with
      | ended owned lost other => exact absurd called other
      | still strays within => exact ⟨.inr strays, within called⟩
  · rintro ⟨owns | strays, within⟩
    · exact .inl (owns.still within)
    · exact .inr (.still strays fun _ => within)

/-- A transaction that is open belongs to the handle, or to someone else. -/
theorem owns_or_foreign (within : (after start past).inTransaction c = true) :
    Owns start c h past ∨ Foreign start c h past := by
  rw [← opener_isSome, Option.isSome_iff_exists] at within
  obtain ⟨other, hopen⟩ := within
  by_cases hother : other = .handle h
  · subst hother
    exact .inl hopen
  · exact .inr ⟨other, hopen, hother⟩

variable [Exclusive D]

/-! ## The flag of a handle -/

/-- A handle is active just if it owns the open transaction or strays. -/
theorem active_iff {active : Bool}
    (held : (after start past).handles[h]? = some { connection := c, active }) :
    active = true ↔ Owns start c h past ∨ Strays start c h past := by
  induction past generalizing active with
  | nil => cases held
  | cons deed past ih =>
    have step := deedStep (after start past) deed
    cases hbefore : (after start past).handles[h]? with
    | none =>
      obtain ⟨hopener, hactive, outside, within⟩ := step.fresh held hbefore
      exact iff_of_true hactive (.inl (owns_cons_iff.mpr ⟨within, .inr ⟨outside, hopener⟩⟩))
    | some before =>
      obtain ⟨later, hlater, hsame⟩ := step.kept hbefore
      cases hlater.symm.trans held
      have hflag := ih hbefore
      by_cases hcalled : deed.called? = some h
      · rw [owns_or_strays_called_iff hbefore hcalled, ← hflag]
        exact step.flag hcalled hbefore held
      · rw [owns_or_strays_iff hbefore hcalled, ← hflag, hsame hcalled]

/-! ## What a call does -/

/-- Outside a transaction the statement of a call changes nothing. -/
theorem ending_outside {w : World D} (ending : Ending) (outside : w.inTransaction c = false) :
    (w.execute c (ending.statement D)).2 = w := by
  cases hd : w.database? c with
  | none => rw [World.execute_unconnected hd]
  | some d =>
    rw [World.inTransaction_of_database hd] at outside
    refine World.execute_same hd ?_
    cases ending with
    | commit => exact Exclusive.commit_outside outside
    | rollback => exact Exclusive.rollback_outside outside
    | release => exact Exclusive.rollback_outside outside

/-- What a call on a handle does to its connection. It runs in the transaction that the handle owns; in
a transaction of someone else it runs exactly if the handle strays; otherwise it changes nothing. -/
theorem call_on_handle (start : List (Connection D)) (past : List (Deed S)) {active : Bool}
    (held : (after start past).handles[h]? = some { connection := c, active }) (ending : Ending) :
    let w := after start past
    let ran := (w.execute c (ending.statement D)).2
    let w' := after start (.call h ending :: past)
    (Owns start c h past → w'.connections = ran.connections) ∧
    (Foreign start c h past → Strays start c h past → w'.connections = ran.connections) ∧
    (¬ Owns start c h past → ¬ (Foreign start c h past ∧ Strays start c h past) →
      w'.connections = w.connections) ∧
    (Foreign start c h past → (opener start c (.call h ending :: past) = none ↔
      Strays start c h past ∧ ran.inTransaction c = false)) := by
  intro w ran w'
  have hflag := active_iff held
  have runs (reaches : Owns start c h past ∨ Strays start c h past) :
      w'.connections = ran.connections ∧ w'.inTransaction c = ran.inTransaction c := by
    obtain rfl := hflag.mpr reaches
    have hnext : w' = _ := next_call_active held
    rw [hnext]
    exact ⟨rfl, rfl⟩
  have refused (hnot : ¬ (Owns start c h past ∨ Strays start c h past)) : w' = w := by
    have hactive : active = false := Bool.eq_false_iff.mpr (hnot ∘ hflag.mp)
    exact next_call_inactive (by rw [World.isActive_of_held held, hactive])
  refine ⟨fun owns => (runs (.inl owns)).1, fun _ strays => (runs (.inr strays)).1, ?_, ?_⟩
  · intro lost apart
    by_cases strays : Strays start c h past
    · -- The flag is stale, but nothing is open: the statement fails.
      have outside : w.inTransaction c = false := by
        rw [Bool.eq_false_iff]
        intro within
        rcases owns_or_foreign within with owns | foreign
        · exact lost owns
        · exact apart ⟨foreign, strays⟩
      rw [(runs (.inr strays)).1]
      exact congrArg World.connections (ending_outside ending outside)
    · rw [refused (not_or.mpr ⟨lost, strays⟩)]
  · rintro ⟨other, hopen, hother⟩
    have lost : ¬ Owns start c h past := fun owns => hother (Option.some.inj (hopen.symm.trans owns))
    rw [opener_eq_none_iff]
    by_cases strays : Strays start c h past
    · rw [(runs (.inr strays)).2]
      exact ⟨fun outside => ⟨strays, outside⟩, And.right⟩
    · have within : w.inTransaction c = true := by
        rw [← opener_isSome, hopen]
        rfl
      rw [show after start (.call h ending :: past) = w from refused (not_or.mpr ⟨lost, strays⟩)]
      simp [within, strays]

/-- Where every statement of the caller leaves an open transaction open, no handle ever strays. -/
theorem not_strays
    (left : ∀ c' statement earlier, .execute c' statement :: earlier <:+ past →
      (after start earlier).inTransaction c' = true →
        (after start (.execute c' statement :: earlier)).inTransaction c' = true) :
    ¬ Strays start c h past := by
  induction past generalizing h with
  | nil => exact fun strays => by cases strays
  | cons deed past ih =>
    have earlier {h' : Nat} : ¬ Strays start c h' past :=
      ih fun c' statement earlier hsuffix =>
        left c' statement earlier (hsuffix.trans (List.suffix_cons deed past))
    intro strays
    cases strays with
    | still strays within => exact earlier strays
    | ended owned lost other =>
      refine lost (owned.still ?_)
      have within := owned.within
      have hother {c' : Nat} (statement : S) (hc : c' ≠ c) :
          ((after start past).execute c' statement).2.inTransaction c = true := by
        rw [World.inTransaction_congr (World.database?_execute_ne _ statement hc), within]
      have step := deedStep (after start past) deed
      change ((after start past).next deed).inTransaction c = true
      generalize hnext : (after start past).next deed = w' at step
      cases step with
      | @begun c' level succeeded =>
        by_cases hc : c' = c
        · subst hc
          cases (World.begun succeeded).1.symm.trans within
        · exact hother _ hc
      | @notBegun c' level fault failed =>
        by_cases hc : c' = c
        · subst hc
          obtain ⟨fault, hsent⟩ := World.execute_begin_within within (isImmediate level)
          rw [hsent, within]
        · exact hother _ hc
      | executed c' statement =>
        by_cases hc : c' = c
        · subst hc
          rw [← hnext]
          exact left c' statement past List.suffix_rfl within
        · exact hother _ hc
      | refused => exact within
      | @called c' i ending held =>
        by_cases hc : c' = c
        · subst hc
          rcases (active_iff held).mp rfl with owns | strays
          · -- Two handles cannot own one transaction.
            cases owns.symm.trans owned
            exact absurd rfl other
          · exact absurd strays earlier
        · exact hother _ hc

end Owners

/-! ## Two histories of the small database -/

instance : Exclusive Database where
  begin_ok {db immediate} succeeded := by
    cases within : db.inTransaction with
    | true =>
      obtain ⟨fault, refused⟩ := Flat.begin_within (d := db) within immediate
      rw [refused] at succeeded
      cases succeeded
    | false =>
      change (db.execute (.begin immediate)).1 = _ at succeeded
      show (db.execute (.begin immediate)).2.inTransaction = true
      rcases Database.execute_begin within immediate with opened | refused
      · rw [opened]
        rfl
      · rw [refused] at succeeded
        cases succeeded
  begin_error {db immediate fault} outside failed := by
    change (db.execute (.begin immediate)).1 = _ at failed
    show (db.execute (.begin immediate)).2.inTransaction = false
    rcases Database.execute_begin outside immediate with opened | refused
    · rw [opened] at failed
      cases failed
    · rw [refused]
      exact outside
  commit_outside {db} outside := by
    obtain ⟨content, saved, locked⟩ := db
    cases saved with
    | none => rfl
    | some base => cases outside
  rollback_outside {db} outside := by
    obtain ⟨content, saved, locked⟩ := db
    cases saved with
    | none => rfl
    | some base => cases outside

/-- One connection to an empty database. -/
def oneConnection : List (Connection Database) := [{ name := "orders", database := {} }]

/-- The handle of the only transaction commits that transaction. -/
theorem call_on_handle_first :
    let past : List (Deed Statement) := [.execute 0 .insert, .begin 0 .readCommitted]
    (after oneConnection past).handles[0]? = some { connection := 0 } ∧
      Owns oneConnection 0 0 past ∧
      (after oneConnection (.call 0 .commit :: past)).connections =
        [{ name := "orders", database := { content := { good := 1 } } }] := by
  intro past
  have held : (after oneConnection past).handles[0]? = some { connection := 0 } := rfl
  have owns : Owns oneConnection 0 0 past := rfl
  obtain ⟨own, -, -, -⟩ := call_on_handle oneConnection past held .commit
  exact ⟨held, owns, own owns⟩

/-- The caller commits the first transaction by a statement of its own and begins another. A rollback
through the first handle then ends the second transaction, and what was written in it is gone. -/
theorem rollback_of_stray :
    let past : List (Deed Statement) :=
      [.execute 0 .insert, .begin 0 .readCommitted, .execute 0 .commit, .begin 0 .readCommitted]
    Strays oneConnection 0 0 past ∧ Owns oneConnection 0 1 past ∧
      opener oneConnection 0 (.call 0 .rollback :: past) = none ∧
      (after oneConnection past).connections =
        [{ name := "orders", database := { content := { good := 1 }, saved := some {} } }] ∧
      (after oneConnection (.call 0 .rollback :: past)).connections = oneConnection := by
  intro past
  have strays : Strays oneConnection 0 0 past := by
    refine .still (.still (.ended rfl ?_ ?_) ?_) ?_ <;> decide
  exact ⟨strays, rfl, rfl, rfl, rfl⟩

end UnitOfWork.Sqlite
