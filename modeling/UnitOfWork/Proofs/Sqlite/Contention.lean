import UnitOfWork.Proofs.Retry.Rehearsal
import UnitOfWork.Proofs.Sqlite.Usage
import UnitOfWork.Sqlite.Contention

/-!
# What comes of a writer that is kept out

A writer that needs the lock fails as long as the holder keeps it, and succeeds at the first call after
the holder has let go. So its run is the run over a script (`Contention.script`), and the laws of
retries say the rest: the writer gets in exactly if it may try again after a refusal and the holder lets
go on a retry that is still made (`contended_ok_iff`). Then a single insert has left one row; a writer
that stays out has left none, and a unit of work leaves no row and no transaction (`contended_run`).

A unit of work at a level that does not take the lock up front, and writes nothing, never meets the
holder.
-/

set_option autoImplicit false

namespace UnitOfWork.Sqlite

open Retry

/-! ## A unit of work of one connection -/

section Single

variable {D S : Type} [Transactional D S] {w w₁ w₂ : World D} {name id : String} {c h : Nat}
  {level : IsolationLevel}

/-- A transaction that begins and commits is a whole unit of work. -/
theorem returns_attempt_single (begun : w.begin c level = (.ok h, w₁))
    (committed : w₁.commit h = (.ok (), w₂)) (inactive : w₂.isActive h = false) :
    Returns (Scope.Blocking.attempt host [adapter name c]
      ({ id, options := { isolation := level } } : Scope Nat)) w fun outcome w' =>
        outcome = .ok () ∧ w' = w₂ := by
  unfold Scope.Blocking.attempt
  -- The enlistment.
  refine Returns.bind (Returns.bind (Returns.bind (returns_beginOwn name c level ?_)))
  rw [begun]
  refine Returns.bind (returns_noteEnlisted (returns_pure (returns_pure ?_)))
  -- The completion.
  refine Returns.bind (Returns.bind (Returns.bind (returns_commit ?_)))
  rw [committed]
  refine Returns.bind (returns_note (Returns.bind (returns_pure (returns_pure ?_))))
  refine Returns.bind (returns_note (returns_pure ?_))
  -- The disposal, which finds nothing to roll back, and the drop.
  refine Returns.bind (Returns.bind (returns_pure ?_))
  refine Returns.bind (Returns.bind (Returns.bind (returns_release ?_)))
  rw [World.rollback, World.finish_of_inactive inactive]
  refine returns_pure (returns_pure (Returns.bind (returns_note (returns_pure ?_))))
  exact Returns.bind (Returns.bind (returns_pure (returns_pure (returns_pure ⟨rfl, rfl⟩))))

/-- A transaction that does not begin ends the unit of work. -/
theorem returns_attempt_barred {e : ParticipantError} (barred : w.begin c level = (.error e, w₁)) :
    Returns (Scope.Blocking.attempt host [adapter name c]
      ({ id, options := { isolation := level } } : Scope Nat)) w fun outcome w' =>
        outcome = .error (.begin name e) ∧ w' = w₁ := by
  unfold Scope.Blocking.attempt
  refine Returns.bind (Returns.bind (Returns.bind (returns_beginOwn name c level ?_)))
  rw [barred]
  refine Returns.bind (returns_note (returns_pure (returns_pure ?_)))
  refine Returns.bind (Returns.bind (Returns.bind (returns_pure ?_)))
  refine Returns.bind (Returns.bind (returns_pure (returns_pure ?_)))
  refine Returns.bind (returns_note (returns_pure ?_))
  exact returns_pure (returns_pure ⟨rfl, rfl⟩)

end Single

/-- Whether a level meets a holder of the lock when it begins. -/
def Database.bars (db : Database) (level : IsolationLevel) : Bool :=
  isImmediate level && db.lockedElsewhere

/-- Outside a transaction a BEGIN is up to the lock. -/
theorem Database.execute_begin_eq {db : Database} (outside : db.saved = none)
    (level : IsolationLevel) : db.execute (.begin (isImmediate level)) =
      if db.bars level then (.error busy, db) else (.ok (), { db with saved := some db.content }) := by
  have hidle : db.inTransaction = false := by rw [inTransaction, outside]; rfl
  simp only [execute, hidle, Bool.false_eq_true, if_false, bars]
  rfl

/-- A transaction without orphans commits to what it was. -/
theorem Database.execute_commit_idle {db : Database} (outside : db.saved = none)
    (keyed : db.content.orphans = 0) :
    { db with saved := some db.content }.execute .commit = (.ok (), db) := by
  obtain ⟨content, saved, locked⟩ := db
  obtain rfl : saved = none := outside
  have hkeyed : ¬ 0 < content.orphans := Nat.not_lt.mpr (Nat.le_of_eq keyed)
  exact if_neg hkeyed

section Idle

variable {w : World Database} {c : Nat} {conn : Connection Database} {level : IsolationLevel}
  (connected : w.connections[c]? = some conn) (outside : conn.database.saved = none)

include connected outside

/-- A transaction that needs a lock held elsewhere does not begin. -/
theorem begin_barred (bars : conn.database.bars level = true) :
    w.begin c level = (.error (.driver busy), w) := by
  have hd : w.database? c = some conn.database := by rw [World.database?, connected]; rfl
  have hsent : Transactional.execute conn.database
      (Transactional.begin Database (isImmediate level)) = (.error busy, conn.database) :=
    (Database.execute_begin_eq outside level).trans (if_pos bars)
  rw [World.begin_error ((World.execute_fst hd).trans (congrArg Prod.fst hsent)),
    World.execute_same hd (congrArg Prod.snd hsent)]

/-- A transaction that changes nothing leaves the connections as they were. -/
theorem begin_commit (bars : conn.database.bars level = false)
    (keyed : conn.database.content.orphans = 0) :
    ∃ w₁ w₂, w.begin c level = (.ok w.handles.length, w₁) ∧
      w₁.commit w.handles.length = (.ok (), w₂) ∧ w₂.isActive w.handles.length = false ∧
        w₂.connections = w.connections := by
  obtain ⟨hlt, hget⟩ := List.getElem?_eq_some_iff.mp connected
  have hd : w.database? c = some conn.database := by rw [World.database?, connected]; rfl
  let busied : Database := { conn.database with saved := some conn.database.content }
  let w₁ : World Database :=
    { connections := w.connections.set c { conn with database := busied }
      handles := w.handles ++ [{ connection := c }] }
  let w₂ : World Database :=
    { w with handles := w.handles ++ [{ connection := c, active := false }] }
  have hbegin : Transactional.execute conn.database
      (Transactional.begin Database (isImmediate level)) = (.ok (), busied) :=
    (Database.execute_begin_eq outside level).trans (if_neg (Bool.eq_false_iff.mp bars))
  have hcommit : Transactional.execute busied (Transactional.commit Database) =
      (.ok (), conn.database) := Database.execute_commit_idle outside keyed
  have begun : w.begin c level = (.ok w.handles.length, w₁) := by
    rw [World.begin_ok ((World.execute_fst hd).trans (congrArg Prod.fst hbegin)),
      World.execute_connected connected, hbegin]
  have executed : w₁.execute c (Transactional.commit Database) =
      (.ok (), { w₁ with connections := w.connections }) := by
    rw [World.execute_connected (List.getElem?_set_self hlt), hcommit, List.set_set, ← hget,
      List.set_getElem_self]
  have held : w₁.handles[w.handles.length]? = some { connection := c } :=
    List.getElem?_concat_length
  have idle : World.inTransaction { w₁ with connections := w.connections } c = false := by
    rw [World.inTransaction, connected]
    show Database.inTransaction conn.database = false
    rw [Database.inTransaction, outside]
    rfl
  have committed : w₁.commit w.handles.length = (.ok (), w₂) := by
    have reset : w₁.handles.set w.handles.length { connection := c, active := false } =
        w₂.handles := by simp [w₁, w₂]
    rw [World.commit, World.finish_of_active held, executed, idle, reset]
    rfl
  refine ⟨w₁, w₂, begun, committed, ?_, rfl⟩
  rw [World.isActive_of_held (List.getElem?_concat_length)]

end Idle

namespace Contention

variable (c : Contention)

/-! ## What a call is answered -/

/-- Whether the holder has let go after so many retries. -/
def free (retries : Nat) : Bool := c.releaseOn.any fun n => 1 ≤ n && n ≤ retries

/-- Whether the operation needs the lock. -/
def needsLock : Bool := c.isolation.all isImmediate

/-- How the operation fails while the database is locked. -/
def refusal : LayeredFailure :=
  match c.isolation with
  | none => .driver busy
  | some _ => .transaction (.begin "writer" (.driver busy))

/-- The outcome of a numbered call, every call before being told to the observer. -/
def script : Script LayeredFailure Unit := fun call =>
  if c.needsLock && !c.free (call - 1) then .error c.refusal else .ok ()

/-- The rows after so many calls: a single insert leaves one when it succeeds. -/
def rows (calls : Nat) : Nat :=
  if c.isolation.isNone then (List.range' 1 calls).countP fun call => c.free (call - 1) else 0

/-- The world is what the calls and the holder have made of it. -/
def InStep (events : List (Event LayeredFailure)) (w : World Database) : Prop :=
  w.connections = [⟨"writer",
    { content := { good := c.rows (operations events) }
      lockedElsewhere := !c.free (requests .observe events) }⟩]

variable {c} {events : List (Event LayeredFailure)} {w : World Database}

/-- One more call leaves a row if it is a single insert and the holder has let go. -/
theorem rows_succ (calls : Nat) :
    c.rows (calls + 1) = c.rows calls + if c.isolation.isNone && c.free calls then 1 else 0 := by
  unfold rows
  cases c.isolation.isNone with
  | false => rfl
  | true =>
    rw [List.range'_concat, List.countP_append, List.countP_singleton]
    simp

/-- The world that a call is to leave. -/
theorem inStep_operated (call : Nat) : c.InStep (events ++ [.operate call]) w ↔
    w.connections = [⟨"writer",
      { content := { good := c.rows (operations events + 1) }
        lockedElsewhere := !c.free (requests .observe events) }⟩] := by
  unfold InStep
  rw [operations_append, requests_append]
  rfl

/-- A single insert is refused or leaves one row. -/
theorem InStep.insert (step : c.InStep events w) (announced : Announced events)
    (single : c.isolation = none) :
    Returns c.operation w fun outcome w' => outcome = c.script (operations events + 1) ∧
      c.InStep (events ++ [.operate (operations events + 1)]) w' := by
  have connected := congrArg (·[0]?) step
  have hscript : c.script (operations events + 1) =
      if !c.free (operations events) then .error (.driver busy) else .ok () := by
    simp [script, needsLock, refusal, single]
  have hrows : c.rows (operations events + 1) =
      c.rows (operations events) + if c.free (operations events) then 1 else 0 := by
    rw [rows_succ, single]
    rfl
  unfold operation
  rw [single]
  refine Returns.bind (returns_modifyGet (returns_pure ?_))
  rw [World.execute_connected connected, inStep_operated, hscript, hrows]
  unfold InStep at step
  rw [announced] at step ⊢
  cases c.free (operations events) with
  | true => exact ⟨rfl, by rw [step]; rfl⟩
  | false => exact ⟨rfl, by rw [step]; rfl⟩

/-- A unit of work is refused when it begins, or leaves nothing behind. -/
theorem InStep.attempt (step : c.InStep events w) (announced : Announced events)
    {level : IsolationLevel} (unit : c.isolation = some level) :
    Returns c.operation w fun outcome w' => outcome = c.script (operations events + 1) ∧
      c.InStep (events ++ [.operate (operations events + 1)]) w' := by
  have connected := congrArg (·[0]?) step
  have hscript : c.script (operations events + 1) =
      if isImmediate level && !c.free (operations events) then
        .error (.transaction (.begin "writer" (.driver busy)))
      else .ok () := by
    simp [script, needsLock, refusal, unit]
  have hrows : c.rows (operations events + 1) = c.rows (operations events) := by
    rw [rows_succ, unit]
    rfl
  have left {w' : World Database} (same : w'.connections = w.connections) :
      c.InStep (events ++ [.operate (operations events + 1)]) w' := by
    rw [inStep_operated, hrows, same]
    exact step
  rw [announced] at connected
  unfold operation
  rw [unit, hscript]
  refine Returns.bind ?_
  cases bars : isImmediate level && !c.free (operations events) with
  | true =>
    refine (returns_attempt_barred (begin_barred connected rfl bars)).mono ?_
    rintro _ _ ⟨rfl, rfl⟩
    exact returns_pure ⟨rfl, left rfl⟩
  | false =>
    obtain ⟨w₁, w₂, begun, committed, inactive, same⟩ := begin_commit connected rfl bars rfl
    refine (returns_attempt_single begun committed inactive).mono ?_
    rintro _ _ ⟨rfl, rfl⟩
    exact returns_pure ⟨rfl, left same⟩

/-- A call answers as the script does. -/
theorem InStep.operate (step : c.InStep events w) (announced : Announced events) :
    Returns c.operation w fun outcome w' => outcome = c.script (operations events + 1) ∧
      c.InStep (events ++ [.operate (operations events + 1)]) w' := by
  cases kind : c.isolation with
  | none => exact step.insert announced kind
  | some level => exact step.attempt announced kind

/-- One more retry frees the database if it is the one that the holder waited for. -/
theorem free_succ (retries : Nat) :
    c.free (retries + 1) = (c.free retries || c.releaseOn == some (retries + 1)) := by
  unfold free
  cases c.releaseOn with
  | none => rfl
  | some n =>
    rw [Bool.eq_iff_iff]
    simp
    omega

/-- The holder lets go on the retry that it waited for. -/
theorem InStep.observe (step : c.InStep events w) (attempt : Attempt LayeredFailure) :
    Returns (c.observe (requests .observe events + 1)) w fun _ w' =>
      c.InStep (events ++ [.observe attempt]) w' := by
  have told : requests .observe (events ++ [.observe attempt]) = requests .observe events + 1 :=
    requests_append ..
  unfold InStep at step ⊢
  rw [told, operations_append, free_succ]
  unfold Contention.observe
  by_cases lets : c.releaseOn = some (requests .observe events + 1)
  · rw [if_pos lets]
    refine returns_modify ?_
    have freed : (unlock w).connections =
        [⟨"writer", { content := { good := c.rows (operations events) } }⟩] := by
      simp [unlock, step]
    rw [freed, lets, beq_self_eq_true, Bool.or_true]
    rfl
  · rw [if_neg lets, beq_eq_false_iff_ne.mpr lets, Bool.or_false]
    exact returns_pure step

/-- Requests that are no calls and no retries leave the world alone. -/
theorem InStep.append (step : c.InStep events w) {event : Event LayeredFailure}
    (quiet : event.isOperate = false) (unheard : event.kind ≠ .observe) :
    c.InStep (events ++ [event]) w := by
  unfold InStep
  rw [operations_concat events quiet, requests_concat events unheard]
  exact step

/-- How the run of a writer is rehearsed. -/
def rehearsal : Rehearsal := {}

/-- The calls of a writer's run answer as the script does. -/
theorem below : Bench.Below .recording c.InStep rehearsal c.script (fun _ => c.operation) c.observe
    (Log.record ·) LayeredFailure.message where
  operate announced step := step.operate announced
  observe attempt step := step.observe attempt
  report _ step := fun _ => step.append rfl nofun
  sleep _ step := step.append rfl nofun

/-! ## The run -/

section Run

variable (c)

/-- Whether the writer tries again after a refusal. -/
def persists : Bool := c.needsLock && c.retry.classifier.isTransient c.refusal

/-- How often the writer calls. Retries are numbered from one. -/
def attempts : Nat :=
  if c.persists then
    match c.releaseOn with
    | some (n + 1) => min (n + 2) c.retry.options.maxAttempts
    | _ => c.retry.options.maxAttempts
  else 1

theorem free_iff {retries : Nat} :
    c.free retries = true ↔ ∃ n, c.releaseOn = some (n + 1) ∧ n < retries := by
  simp only [free, Option.any_eq_true, Bool.and_eq_true, decide_eq_true_eq]
  constructor
  · rintro ⟨_ | n, h, hle, hlt⟩
    · omega
    · exact ⟨n, h, by omega⟩
  · rintro ⟨n, h, hlt⟩
    exact ⟨n + 1, h, by omega, by omega⟩

/-- The first call finds the holder. -/
theorem free_zero : c.free 0 = false := by
  rw [← Bool.not_eq_true, free_iff]
  rintro ⟨n, -, hlt⟩
  exact Nat.not_lt_zero n hlt

/-- Before the run nothing has been written and the holder has not let go. -/
theorem inStep_start : c.InStep [] world := by
  have hrows : c.rows 0 = 0 := by
    unfold rows
    split <;> rfl
  show _ = [_]
  rw [show operations ([] : List (Event LayeredFailure)) = 0 from rfl, hrows,
    show requests .observe ([] : List (Event LayeredFailure)) = 0 from rfl, free_zero]
  rfl

/-- A writer that tries again does so until the database is free or the attempts run out. -/
theorem ends_iff (persists : c.persists = true) (call : Nat) :
    Ends c.retry.options (.ofClassifier c.retry.classifier) c.script call ↔
      c.free (call - 1) = true ∨ call = c.retry.options.maxAttempts := by
  obtain ⟨needs, transient⟩ := Bool.and_eq_true_iff.mp persists
  have htransient : (Policy.ofClassifier c.retry.classifier).isTransient c.refusal = true := transient
  unfold Ends script
  cases c.free (call - 1) <;> simp [needs, htransient]

/-- A writer that does not try again calls once. -/
theorem ends_first (gives : c.persists = false) :
    Ends c.retry.options (.ofClassifier c.retry.classifier) c.script 1 := by
  unfold Ends script
  rw [Nat.sub_self, free_zero]
  cases needs : c.needsLock with
  | false => exact .inl ⟨(), rfl⟩
  | true =>
    rw [persists, needs, Bool.true_and] at gives
    exact .inr (.inl ⟨c.refusal, rfl, gives⟩)

/-- The writer stops at the first call that finds the database free or is the last. -/
theorem endsFirst_attempts :
    EndsFirst c.retry.options (.ofClassifier c.retry.classifier) c.script 1 c.attempts := by
  have hmax : 1 ≤ c.retry.options.maxAttempts := c.retry.options.least_le
  unfold attempts
  split
  case isFalse gives =>
    exact ⟨Nat.le_refl 1, c.ends_first (Bool.eq_false_iff.mpr gives), fun i hi hlt => by omega⟩
  case isTrue persists =>
    split
    case h_1 n lets =>
      have hfree (retries : Nat) : c.free retries = true ↔ n < retries := by
        simp [free_iff, lets]
      refine ⟨by omega, (c.ends_iff persists _).mpr ?_, fun i hi hlt hends => ?_⟩
      · rw [hfree]
        omega
      · rw [c.ends_iff persists, hfree] at hends
        omega
    case h_2 keeps =>
      have hfree (retries : Nat) : ¬ c.free retries = true := by
        rw [free_iff]
        rintro ⟨n, lets, -⟩
        exact keeps n lets
      refine ⟨hmax, (c.ends_iff persists _).mpr (.inr rfl), fun i hi hlt hends => ?_⟩
      rcases (c.ends_iff persists i).mp hends with hfreed | hlast
      · exact hfree _ hfreed
      · omega

/-- The writer calls until the database is free or it gives up, waits the delays of the attempts in
between, and returns the outcome of its last call. The holder has let go if a retry that it waited for was
made, and one row is left by a single insert that succeeded. -/
theorem contended_run (log : Log) :
    let run := (c.run.run log).1
    run.1.1 = c.script c.attempts ∧ run.1.2.calls = c.attempts ∧
      run.1.2.requested.delays = (List.range' 1 (c.attempts - 1)).map c.retry.options.delayFor ∧
      run.2.connections = [⟨"writer",
        { content := { good := c.rows c.attempts }
          lockedElsewhere := !c.free (c.attempts - 1) }⟩] := by
  have hrun : Follows (Logic.above .recording)
      (fun events s => Bench.Kept rehearsal .never events s.1 ∧ c.InStep events s.2)
      (c.retry.runBlocking (Bench.blockingHost (fun _ => c.operation) c.observe (Log.record ·)
        LayeredFailure.message))
      (Blocking.run c.retry.options (.ofClassifier c.retry.classifier) c.script.host) []
      (.ready .recording .never, world) :=
    Logic.spanned_recording.above.within (((below (c := c)).blocking rfl).run ⟨.ready rfl, c.inStep_start⟩)
  obtain ⟨k, hk, htrace⟩ := run_trace c.retry.options (.ofClassifier c.retry.classifier) c.script
  obtain rfl : k = c.attempts := hk.unique c.endsFirst_attempts
  have hcalls := operations_through hk (sleptThrough c.retry.options 1 c.attempts .zero)
  have hpaced := paced_through hk (sleptThrough c.retry.options 1 c.attempts .zero)
  unfold Follows at hrun
  rw [htrace] at hrun
  obtain ⟨hresult, kept, hstep⟩ := hrun log
  generalize rounds c.retry.options (.ofClassifier c.retry.classifier) c.script 1 c.attempts ++
    .operate c.attempts :: closing c.retry.options (.ofClassifier c.retry.classifier) c.script
      c.attempts (sleptThrough c.retry.options 1 c.attempts .zero) = events
    at hresult kept hstep hcalls hpaced
  have htold : requests .observe events = c.attempts - 1 := by
    rw [← length_told, ← List.length_map, hpaced.told, List.length_map, List.length_range']
  unfold InStep at hstep
  rw [hcalls, htold] at hstep
  exact ⟨hresult, kept.calls.trans hcalls, kept.requested.trans hpaced.asked, hstep⟩

theorem attempts_of_release {n : Nat} (persists : c.persists = true)
    (lets : c.releaseOn = some (n + 1)) : c.attempts = min (n + 2) c.retry.options.maxAttempts := by
  simp [attempts, persists, lets]

/-- The database is free at the last call if the holder lets go on a retry before it. -/
theorem free_attempts : c.free (c.attempts - 1) = true ↔
    c.persists = true ∧ ∃ n, c.releaseOn = some (n + 1) ∧ n + 1 < c.retry.options.maxAttempts := by
  rw [free_iff]
  constructor
  · rintro ⟨n, lets, hlt⟩
    have persists : c.persists = true := by
      by_contra gives
      rw [attempts, if_neg gives] at hlt
      omega
    rw [c.attempts_of_release persists lets] at hlt
    exact ⟨persists, n, lets, by omega⟩
  · rintro ⟨persists, n, lets, hlt⟩
    refine ⟨n, lets, ?_⟩
    rw [c.attempts_of_release persists lets]
    omega

/-- On SQLite's own list a locked database is worth another attempt, whichever layer reports it. -/
theorem persists_of_own (own : c.retry.classifier = Provider.sqlite.classifier) :
    c.persists = c.needsLock := by
  have transient : Provider.sqlite.classifier.isTransient c.refusal = true := by
    unfold refusal
    split <;> decide
  rw [persists, own, transient, Bool.and_true]

/-- A writer gets in exactly if it need not wait, or if it tries again and the holder lets go on a retry
that is still made. Otherwise it returns the refusal. -/
theorem contended_ok_iff (log : Log) :
    let result := (c.run.run log).1.1.1
    (result = .ok () ↔ c.needsLock = false ∨ c.persists = true ∧
      ∃ n, c.releaseOn = some (n + 1) ∧ n + 1 < c.retry.options.maxAttempts) ∧
    (result = .ok () ∨ result = .error c.refusal) := by
  intro result
  have hresult : result = c.script c.attempts := (c.contended_run log).1
  rw [hresult, ← free_attempts, script]
  cases c.needsLock with
  | false => simp
  | true => cases c.free (c.attempts - 1) <;> simp

end Run

end Contention

end UnitOfWork.Sqlite
