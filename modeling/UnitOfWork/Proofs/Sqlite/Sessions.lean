import UnitOfWork.Proofs.Scope.Desks
import UnitOfWork.Proofs.Sqlite.Agreement
import UnitOfWork.Proofs.Sqlite.Ownership
import UnitOfWork.Sqlite.Session

/-!
# Sessions at a desk of SQLite connections

Whatever a session does to the connections is a history of single statements and calls: the scope at
the desk calls its handles and nothing else. So what is known of histories holds of the connections after
any session (`session_history`), and in particular whom a handle speaks for.

A session whose statements end no transaction leaves the ends to the handles. Then no handle strays, and
the flag of a handle says exactly whether its own transaction is the one that is open
(`session_active_iff`); so no connection has two active handles.
-/

set_option autoImplicit false

namespace UnitOfWork.Sqlite

/-! ## Where deeds lead -/

section Onward

variable {D S : Type} [Transactional D S]

/-- A deed says no statement but expected ones. -/
def Deed.Says (expected : S → Prop) : Deed S → Prop
  | .execute _ statement => expected statement
  | _ => True

/-- Deeds with expected statements lead from one world to another. The newest deed is the first. -/
def Onward (expected : S → Prop) (w w' : World D) : Prop :=
  ∃ deeds : List (Deed S), (∀ deed ∈ deeds, deed.Says expected) ∧
    deeds.foldr (fun deed w => w.next deed) w = w'

variable {expected : S → Prop} {w w' : World D}

/-- No deeds lead nowhere, and deeds may follow deeds. -/
theorem onward_leading : Leading (Onward (D := D) expected) where
  refl w := ⟨[], by simp, rfl⟩
  trans := by
    rintro w _ _ ⟨first, hfirst, rfl⟩ ⟨second, hsecond, rfl⟩
    refine ⟨second ++ first, ?_, List.foldr_append⟩
    simpa [or_imp, forall_and] using ⟨hsecond, hfirst⟩

/-- A request that does what a deed does leads on. -/
theorem moves_of_deed {α : Type} {x : WorldM D α} (deed : Deed S) (spoken : deed.Says expected)
    (same : ∀ w, Returns x w fun _ w' => w.next deed = w') :
    Logic.recording.Moves (Onward expected) x :=
  Logic.recording_moves fun w => (same w).mono fun _ _ h => ⟨[deed], by simpa using spoken, h⟩

/-- A history leads to where the deeds after it lead. -/
theorem after_append (start : List (Connection D)) (deeds past : List (Deed S)) :
    after start (deeds ++ past) = deeds.foldr (fun deed w => w.next deed) (after start past) := by
  induction deeds with
  | nil => rfl
  | cons deed deeds ih => exact congrArg (·.next deed) ih

/-- Releasing a handle rolls back. -/
theorem next_release (h : Nat) : w.next (.call h .release : Deed S) = (w.rollback h).2 :=
  next_eq (returns_release rfl)

/-- A scope calls its handles. -/
theorem host_moves : (host : Scope.Host (WorldM D) Nat).Moves .recording (Onward expected) where
  toLeading := onward_leading
  commit h := moves_of_deed (.call h .commit) trivial fun _ =>
    returns_commit (next_eq (Returns.bind (returns_commit (returns_pure rfl))))
  rollback h := moves_of_deed (.call h .rollback) trivial fun _ =>
    returns_rollback (next_eq (Returns.bind (returns_rollback (returns_pure rfl))))
  release h := moves_of_deed (.call h .release) trivial fun _ =>
    returns_release (next_release h)
  log _ := Logic.recording_moves fun w => returns_record (onward_leading.refl w)

/-- An adapter begins transactions, and joins none. -/
theorem adapter_moves (name : String) (c : Nat) :
    (adapter name c : Adapter (WorldM D) Nat).Moves .recording (Onward expected) where
  beginOwn isolation := moves_of_deed (.begin c isolation) trivial fun _ =>
    returns_beginOwn name c isolation next_begin
  joinAmbient _ := onward_leading.pure _

end Onward

/-! ## Sessions -/

section Sessions

variable {expected : Statement → Prop} {commands : List Command}

theorem engine_moves : Session.engine.Moves (Onward expected) expected where
  toMoves := host_moves
  adapter {w c found} hfound := by
    obtain ⟨conn, -, rfl⟩ := Option.map_eq_some_iff.mp hfound
    exact adapter_moves conn.name c
  execute c statement spoken :=
    moves_of_deed (.execute c statement) spoken fun _ => returns_modifyGet next_execute
  complete _ s := host_moves.complete s
  dispose _ s := host_moves.dispose s
  drop s := host_moves.drop s

/-- The connections that a desk starts with. -/
def idle (names : List String) : List (Connection Database) :=
  names.map fun name => { name, database := {} }

/-- A session leaves the connections where a history of single deeds leaves them, whose statements are
those of the session. -/
theorem session_history (names : List String) (log : Log)
    (spoken : ∀ command ∈ commands, command.Says expected) :
    ∃ past : List (Deed Statement), (∀ deed ∈ past, deed.Says expected) ∧
      (Desk.after Session.engine (Session.start names, log) commands).1.world =
        after (idle names) past := by
  obtain ⟨past, hpast, hlater⟩ := engine_moves.session (Session.start names, log) spoken
  refine ⟨past, hpast, hlater.symm.trans ?_⟩
  have happend := after_append (idle names) past []
  rw [List.append_nil] at happend
  exact happend.symm

/-- A statement that may end no transaction leaves an open one open. -/
theorem inTransaction_execute {w : World Database} {c : Nat} {statement : Statement}
    (lasting : statement.mayEnd = false) (within : w.inTransaction c = true) :
    (w.execute c statement).2.inTransaction c = true := by
  rw [World.inTransaction_eq, Option.any_eq_true] at within
  obtain ⟨db, hdb, within⟩ := within
  obtain ⟨base, opened⟩ := Option.isSome_iff_exists.mp within
  rw [World.inTransaction_eq, World.database?_execute, hdb]
  exact Option.isSome_iff_exists.mpr ⟨base, Database.saved_execute opened lasting⟩

/-- Where no statement of a session may end a transaction, a handle is active exactly if the transaction
that it was handed out with is the one that is open. -/
theorem session_active_iff (names : List String) (log : Log)
    (lasting : ∀ command ∈ commands, command.Says fun statement => statement.mayEnd = false) :
    let w := (Desk.after Session.engine (Session.start names, log) commands).1.world
    ∃ past : List (Deed Statement), w = after (idle names) past ∧
      ∀ h c active, w.handles[h]? = some { connection := c, active } →
        (active = true ↔ Owns (idle names) c h past) := by
  obtain ⟨past, spoken, hw⟩ := session_history names log lasting
  refine ⟨past, hw, fun h c active held => ?_⟩
  rw [hw] at held
  have stays : ¬ Strays (idle names) c h past := by
    refine not_strays fun c' statement earlier hsuffix within => ?_
    have hmem : .execute c' statement ∈ past := hsuffix.subset List.mem_cons_self
    show ((after (idle names) earlier).next (.execute c' statement)).inTransaction c' = true
    rw [next_execute]
    exact inTransaction_execute (spoken _ hmem) within
  rw [active_iff held]
  exact or_iff_left stays

/-- Then a connection has at most one active handle, and is in a transaction if it has one. -/
theorem session_handles (names : List String) (log : Log)
    (lasting : ∀ command ∈ commands, command.Says fun statement => statement.mayEnd = false) :
    let w := (Desk.after Session.engine (Session.start names, log) commands).1.world
    ∀ h c : Nat, w.handles[h]? = some { connection := c } → w.inTransaction c = true ∧
      ∀ h' : Nat, w.handles[h']? = some { connection := c } → h' = h := by
  intro w h c held
  obtain ⟨past, hw, hactive⟩ := session_active_iff names log lasting
  have owns := (hactive h c true held).mp rfl
  refine ⟨?_, fun h' held' => ?_⟩
  · rw [show w = after (idle names) past from hw]
    exact owns.within
  · cases ((hactive h' c true held').mp rfl).symm.trans owns
    rfl

end Sessions

end UnitOfWork.Sqlite
