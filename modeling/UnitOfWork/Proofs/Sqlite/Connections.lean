import UnitOfWork.Proofs.Recording
import UnitOfWork.Sqlite.Participant

/-!
# Connections and the calls on handles

A statement touches the database of its own connection and no handle. A call on a handle that is not
active is refused and changes nothing; any other call runs one statement on the handle's connection and
sets the flag to what the connection says afterwards. These are all the ways in which the participants
reach a database, so the laws of later modules need nothing else of them.

Of the engine only `Flat` is assumed here. Whatever else a law needs of it is assumed where it is used.
-/

set_option autoImplicit false

namespace UnitOfWork.Sqlite

/-- Transactions do not nest: a BEGIN inside one fails and changes nothing. -/
class Flat (D : Type) {S : Type} [Transactional D S] : Prop where
  begin_within : ∀ {d : D}, Transactional.inTransaction d = true → ∀ immediate, ∃ fault,
    Transactional.execute d (Transactional.begin D immediate) = (.error fault, d)

instance : Flat Database where
  begin_within within _ := ⟨nestedBegin, if_pos within⟩

/-- Outside a transaction a BEGIN opens one on the content there, or finds the database locked and
changes nothing. -/
theorem Database.execute_begin {db : Database} (outside : db.inTransaction = false)
    (immediate : Bool) :
    db.execute (.begin immediate) = (.ok (), { db with saved := some db.content }) ∨
      db.execute (.begin immediate) = (.error busy, db) := by
  simp only [Database.execute, outside, Bool.false_eq_true, if_false]
  by_cases locked : (immediate && db.lockedElsewhere) = true
  · exact .inr (if_pos locked)
  · exact .inl (if_neg locked)

variable {D S : Type} [Transactional D S]

/-! ## Statements -/

namespace World

/-- The database of a connection. -/
def database? (w : World D) (c : Nat) : Option D := (w.connections[c]?).map Connection.database

variable {w : World D} {c c' : Nat} {d : D} {statement : S}

theorem inTransaction_eq (w : World D) (c : Nat) :
    w.inTransaction c = (w.database? c).any Transactional.inTransaction := by
  unfold inTransaction database?
  rw [Option.any_map]

/-- A connection is inside a transaction when its database is. -/
theorem inTransaction_of_database (hd : w.database? c = some d) :
    w.inTransaction c = Transactional.inTransaction d := by
  rw [inTransaction_eq, hd]
  rfl

/-- Only the database of a connection says whether it is inside a transaction. -/
theorem inTransaction_congr {w' : World D} (same : w'.database? c = w.database? c) :
    w'.inTransaction c = w.inTransaction c := by
  rw [inTransaction_eq, inTransaction_eq, same]

/-- Only a connection that does not exist has no database. -/
theorem database?_eq_none_iff : w.database? c = none ↔ w.connections[c]? = none :=
  Option.map_eq_none_iff

/-- Without a connection there is nothing to run a statement on. -/
theorem execute_unconnected (hd : w.database? c = none) :
    w.execute c statement = (.error malformedStatement, w) := by
  simp only [execute, database?_eq_none_iff.mp hd]

/-- On a connection that exists, the database answers and is what the statement leaves. -/
theorem execute_connected {conn : Connection D} (connected : w.connections[c]? = some conn) :
    w.execute c statement =
      ((Transactional.execute conn.database statement).1,
        { w with
          connections := w.connections.set c
            { conn with database := (Transactional.execute conn.database statement).2 } }) := by
  simp only [execute, connected]

/-- The connection behind a database. -/
theorem exists_connection (hd : w.database? c = some d) :
    ∃ conn, w.connections[c]? = some conn ∧ conn.database = d := Option.map_eq_some_iff.mp hd

/-- A statement is answered by the database that it runs on. -/
theorem execute_fst (hd : w.database? c = some d) :
    (w.execute c statement).1 = (Transactional.execute d statement).1 := by
  obtain ⟨conn, connected, rfl⟩ := exists_connection hd
  rw [execute_connected connected]

/-- A statement on a connection leaves every handle as it was. -/
@[simp] theorem handles_execute (w : World D) (c : Nat) (statement : S) :
    (w.execute c statement).2.handles = w.handles := by
  cases connected : w.connections[c]? with
  | none => rw [execute_unconnected (database?_eq_none_iff.mpr connected)]
  | some conn => rw [execute_connected connected]

/-- A statement leaves on its connection what the engine makes of the database there. -/
theorem database?_execute (w : World D) (c : Nat) (statement : S) :
    (w.execute c statement).2.database? c =
      (w.database? c).map fun d => (Transactional.execute d statement).2 := by
  cases connected : w.connections[c]? with
  | none =>
    have hnone := database?_eq_none_iff.mpr connected
    rw [execute_unconnected hnone, hnone]
    rfl
  | some conn =>
    obtain ⟨hlt, -⟩ := List.getElem?_eq_some_iff.mp connected
    rw [execute_connected connected]
    simp only [database?, connected, List.getElem?_set_self hlt, Option.map_some]

/-- A statement leaves the other connections alone. -/
theorem database?_execute_ne (w : World D) (statement : S) (hne : c ≠ c') :
    (w.execute c statement).2.database? c' = w.database? c' := by
  cases connected : w.connections[c]? with
  | none => rw [execute_unconnected (database?_eq_none_iff.mpr connected)]
  | some conn =>
    rw [execute_connected connected]
    simp only [database?, List.getElem?_set_ne hne]

/-- A statement that changes nothing in its database changes nothing at all. -/
theorem execute_same (hd : w.database? c = some d)
    (same : (Transactional.execute d statement).2 = d) : (w.execute c statement).2 = w := by
  obtain ⟨conn, connected, rfl⟩ := exists_connection hd
  obtain ⟨hlt, hget⟩ := List.getElem?_eq_some_iff.mp connected
  have hset : w.connections.set c conn = w.connections := by
    rw [← hget, List.set_getElem_self]
  rw [execute_connected connected, same]
  show { w with connections := w.connections.set c conn } = w
  rw [hset]

/-! ## Handing out a handle -/

variable {level : IsolationLevel} {h : Nat}

/-- A BEGIN that fails hands out nothing. -/
theorem begin_error {fault : Driver.Fault}
    (failed : (w.execute c (Transactional.begin D (isImmediate level))).1 = .error fault) :
    w.begin c level = (.error (.driver fault),
      (w.execute c (Transactional.begin D (isImmediate level))).2) := by
  unfold World.begin
  rcases hsent : w.execute c (Transactional.begin D (isImmediate level)) with ⟨outcome, w'⟩
  rw [hsent] at failed
  subst failed
  rfl

/-- A BEGIN that succeeds hands out the next handle. -/
theorem begin_ok (succeeded : (w.execute c (Transactional.begin D (isImmediate level))).1 = .ok ()) :
    w.begin c level = (.ok w.handles.length,
      { (w.execute c (Transactional.begin D (isImmediate level))).2 with
        handles := w.handles ++ [{ connection := c }] }) := by
  have hhandles := handles_execute w c (Transactional.begin D (isImmediate level))
  unfold World.begin
  rcases hsent : w.execute c (Transactional.begin D (isImmediate level)) with ⟨outcome, w'⟩
  rw [hsent] at succeeded hhandles
  subst succeeded
  rw [← hhandles]

/-- Inside a transaction a BEGIN fails and changes nothing. -/
theorem execute_begin_within [Flat D] (within : w.inTransaction c = true) (immediate : Bool) :
    ∃ fault, w.execute c (Transactional.begin D immediate) = (.error fault, w) := by
  rw [inTransaction_eq, Option.any_eq_true] at within
  obtain ⟨d, hd, within⟩ := within
  obtain ⟨fault, hsent⟩ := Flat.begin_within within immediate
  refine ⟨fault, Prod.ext ?_ (execute_same hd ?_)⟩
  · rw [execute_fst hd, hsent]
  · rw [hsent]

/-! ## Calls on handles -/

variable {phase : Phase}

/-- A handle that is not active is not found by a call. -/
theorem filter_of_inactive (inactive : w.isActive h = false) :
    (w.handles[h]?).filter Handle.active = none := by
  unfold isActive at inactive
  cases hheld : w.handles[h]? with
  | none => rfl
  | some handle =>
    rw [hheld] at inactive
    exact Option.filter_eq_none_iff.mpr fun other hother => by
      cases hother
      simpa using inactive

/-- An active handle is found by a call. -/
theorem filter_of_active (held : w.handles[h]? = some { connection := c }) :
    (w.handles[h]?).filter Handle.active = some { connection := c } := by
  rw [held]
  rfl

/-- A call on a handle that is not active is refused. -/
theorem finish_of_inactive (inactive : w.isActive h = false) :
    w.finish h statement phase = (.error (.noActiveTransaction phase), w) := by
  simp only [finish, filter_of_inactive inactive]

/-- A call on an active handle runs its statement, and asks the connection afterwards. -/
theorem finish_of_active (held : w.handles[h]? = some { connection := c }) :
    w.finish h statement phase =
      ((w.execute c statement).1.mapError .driver,
        { (w.execute c statement).2 with
          handles := w.handles.set h
            { connection := c, active := (w.execute c statement).2.inTransaction c } }) := by
  simp only [finish, filter_of_active held, handles_execute]

/-- A handle is active as its flag has it. -/
theorem isActive_of_held {handle : Handle} (held : w.handles[h]? = some handle) :
    w.isActive h = handle.active := by
  rw [isActive, held]
  rfl

end World

/-! ## The host, call by call -/

section Host

variable {w : World D} {s : Scope Nat} {h : Nat}

/-- A notice changes nothing. -/
theorem returns_note {notice : Scope.Notice} {Q : Unit → World D → Prop} (hQ : Q () w) :
    Returns (host.note s notice) w Q := fun _ => hQ

/-- A scope commits through the handle. -/
theorem returns_commit {Q : Except ParticipantError Unit → World D → Prop}
    (hQ : Q (w.commit h).1 (w.commit h).2) : Returns (host.commit h) w Q :=
  returns_modifyGet hQ

/-- A scope rolls back through the handle. -/
theorem returns_rollback {Q : Except ParticipantError Unit → World D → Prop}
    (hQ : Q (w.rollback h).1 (w.rollback h).2) : Returns (host.rollback h) w Q :=
  returns_modifyGet hQ

/-- Releasing a handle rolls back, which is refused to one that is not active. -/
theorem returns_release {Q : Unit → World D → Prop} (hQ : Q () (w.rollback h).2) :
    Returns (host.release h) w Q := by
  change Returns (release h) w Q
  unfold release
  refine Returns.bind (returns_get ?_)
  split
  · refine Returns.bind (returns_modifyGet ?_)
    cases (w.rollback h).1 with
    | ok => exact returns_pure hQ
    | error e => exact Returns.bind (returns_get fun _ => hQ)
  · next inactive =>
    rw [World.rollback, World.finish_of_inactive (Bool.eq_false_iff.mpr inactive)] at hQ
    exact returns_pure hQ

/-- An adapter opens its own transaction on its connection. -/
theorem returns_beginOwn (name : String) (c : Nat) (level : IsolationLevel)
    {Q : Except ParticipantError Nat → World D → Prop}
    (hQ : Q (w.begin c level).1 (w.begin c level).2) :
    Returns ((adapter name c).beginOwn level) w Q := by
  refine Returns.bind (returns_modifyGet ?_)
  cases hbegun : (w.begin c level).1 with
  | error e => exact returns_pure (hbegun ▸ hQ)
  | ok handle => exact Returns.bind (returns_record (returns_pure (hbegun ▸ hQ)))

end Host

end UnitOfWork.Sqlite
