import UnitOfWork.Proofs.Sqlite.Usage

/-!
# The record of a scope agrees with the databases

A scope is used over connections to any engine whose transactions behave as `Journal.Lawful` says. Each
connection has a database of its own, which nothing done on another connection changes. In the end the
scope is disposed of or dropped. `standing_agrees`: whatever the COMMITs come to, every connection that
was enlisted is then outside a transaction, and its content is what its participant stands for.

Two things are asked of the holder. It leaves the connections to the scope once it has called the end of
the scope (`Timely`), and nothing that it does on an enlisted connection ends the transaction there
(`Plain`). The second is more than leaving COMMIT and ROLLBACK to the scope, for a statement that fails
may roll back on its own. The handle does not notice, what is run next is kept, and in the end the scope
records a rollback that was refused (`lost_transaction_disagrees`). The second half of `standing_agrees`
says what is left in such a case by an engine that has nothing to end outside a transaction (`Inert`), if
nobody opens another one there (`Shut`); record and content agree just when nothing was kept.
-/

set_option autoImplicit false

namespace UnitOfWork.Sqlite

open Scope (Participant)

variable {D C S : Type} [Transactional D S]

/-! ## What is asked of the holder and of the engine -/

/-- What an act runs on a connection leaves an open transaction open, on the content it began with. -/
def Act.Plain (journal : Journal D C) (c : Nat) (now : Work D) (act : Act S) : Prop :=
  ∀ d base, now.world.database? c = some d → journal.saved d = some base →
    journal.saved (replay d (changes c now [act])) = some base

/-- No act of these ends a transaction of a connection by what it runs there. -/
def Plain (journal : Journal D C) (c : Nat) (now : Work D) : List (Act S) → Prop
  | [] => True
  | act :: rest => act.Plain journal c now ∧ Plain journal c (now.next act) rest

/-- No act of these opens a transaction on a connection that is outside one. -/
def Shut (c : Nat) (now : Work D) : List (Act S) → Prop
  | [] => True
  | act :: rest =>
    (now.world.inTransaction c = false → (now.next act).world.inTransaction c = false) ∧
      Shut c (now.next act) rest

/-- Outside a transaction there is nothing to end, and a BEGIN that fails changes nothing. -/
structure Inert (D : Type) {S : Type} [Transactional D S] : Prop where
  refuses : ∀ {d : D}, Transactional.inTransaction d = false → Refuses d
  begin_error : ∀ {d d' : D} {immediate : Bool} {fault : Driver.Fault},
    Transactional.execute d (Transactional.begin D immediate) = (.error fault, d') → d' = d

/-! ## A scope that is open -/

/-- A connection outside a transaction has no participant. -/
def Occupied (c : Nat) (s : Scope Nat) (w : World D) : Prop :=
  w.inTransaction c = false → Apart w c s.participants

/-- The participant at a place is running in an open scope, over a database. -/
structure Open (journal : Journal D C) (c k : Nat) (d : D) (s : Scope Nat) (w : World D) : Prop where
  opened : s.state = .opened
  mode : s.mode = some .own
  holds : Holds c k (Running journal c d) s.participants w

/-- The transaction of the participant at a place has ended with the scope. -/
structure Over (journal : Journal D C) (c k : Nat) (base made : C) (s : Scope Nat) (w : World D) :
    Prop where
  closed : Closed s
  holds : Holds c k (Ended journal c base made) s.participants w

/-- What an act has to keep for a participant on a connection to run on: a transaction that is over
stays over, with nothing to end, and an enlistment does not reach the connection. -/
structure Act.Keeps (journal : Journal D C) (c : Nat) (now : Work D) (d : D) (act : Act S) : Prop where
  outside : journal.saved d = none → journal.saved (replay d (changes c now [act])) = none
  refuses : journal.saved (replay d (changes c now [act])) = none →
    Refuses (replay d (changes c now [act]))
  enlist : ∀ {c' : Nat} {offered : Option AmbientRef} {ambients : Ambients},
    act = .enlist c' offered ambients → Spares c now.world (now.next act).world

section Steps

variable {journal : Journal D C} {c c' k h : Nat} {base made : C} {d : D} {w w' : World D}
  {s s' : Scope Nat} {level : IsolationLevel} {outcome : Except TransactionError (Option Nat)}
  {now : Work D} {act : Act S} {acts rest : List (Act S)}

/-- A connection is inside a transaction while there is a content to go back to. -/
theorem Journal.Lawful.inTransaction_of_saved (laws : journal.Lawful) (hd : w.database? c = some d) :
    w.inTransaction c = (journal.saved d).isSome := by
  rw [World.inTransaction_of_database hd, laws.inTransaction_eq]

/-- A connection in a transaction has a database with something to go back to. -/
theorem Journal.Lawful.exists_saved (laws : journal.Lawful) (within : w.inTransaction c = true) :
    ∃ d base, w.database? c = some d ∧ journal.saved d = some base := by
  rw [World.inTransaction_eq, Option.any_eq_true] at within
  obtain ⟨d, hd, within⟩ := within
  rw [laws.inTransaction_eq, Option.isSome_iff_exists] at within
  obtain ⟨base, hsaved⟩ := within
  exact ⟨d, base, hd, hsaved⟩

/-- An act past the scope moves no handle to another connection. -/
theorem Direct.keepsAway {next : Work D} (direct : Direct now next act) :
    KeepsAway c now.world next.world := by
  rintro h ⟨handle, held, hne⟩
  obtain ⟨active, hlater, -⟩ := direct.handles held
  exact ⟨_, hlater, hne⟩

/-- What spares a connection or finds it outside a transaction keeps it free of participants. -/
theorem Occupied.later (occupied : Occupied c s w) (keeps : KeepsAway c w w')
    (within : w.inTransaction c = true → w'.inTransaction c = true) : Occupied c s w' := by
  intro outside
  refine (occupied ?_).later keeps
  rw [Bool.eq_false_iff] at outside ⊢
  exact fun hwithin => outside (within hwithin)

/-- An enlistment spares every connection in a transaction. -/
theorem EnlistStep.spares [Flat D] (step : EnlistStep s w c outcome s' w')
    (within : w.inTransaction c' = true) : Spares c' w w' := by
  cases step with
  | refused e => exact .refl c' w
  | @notBegun level source _ _ failed e =>
    have spares := begin_within_spares within c level
    rwa [failed] at spares
  | @begun level h _ name obstacle mode succeeded =>
    have spares := begin_within_spares within c level
    rwa [succeeded] at spares

/-- An enlistment moves no handle to another connection. -/
theorem EnlistStep.keepsAway (step : EnlistStep s w c outcome s' w') : KeepsAway c' w w' := by
  cases step with
  | refused e => exact (Spares.refl c' w).keepsAway
  | @notBegun level source _ _ failed e =>
    have keeps : KeepsAway c' w (w.begin c level).2 := keepsAway_begin
    rwa [failed] at keeps
  | @begun level h _ name obstacle mode succeeded =>
    have keeps : KeepsAway c' w (w.begin c level).2 := keepsAway_begin
    rwa [succeeded] at keeps

/-- A BEGIN that fails on an engine where that changes nothing. -/
theorem Inert.begin_same (inert : Inert D) {e : ParticipantError}
    (failed : w.begin c level = (.error e, w')) : w' = w := by
  cases houtcome : (w.execute c (Transactional.begin D (isImmediate level))).1 with
  | ok =>
    rw [World.begin_ok houtcome] at failed
    cases failed
  | error fault =>
    rw [World.begin_error houtcome] at failed
    cases failed
    cases hd : w.database? c with
    | none => rw [World.execute_unconnected hd]
    | some d =>
      rw [World.execute_fst hd] at houtcome
      exact World.execute_same hd (inert.begin_error (Prod.ext houtcome rfl))

/-- An enlistment that opens no transaction on a connection spares it. -/
theorem EnlistStep.spares_shut [Flat D] (laws : journal.Lawful) (inert : Inert D)
    (step : EnlistStep s w c outcome s' w')
    (shut : w.inTransaction c' = false → w'.inTransaction c' = false) : Spares c' w w' := by
  cases within : w.inTransaction c' with
  | true => exact step.spares within
  | false =>
    cases step with
    | refused e => exact .refl c' w
    | notBegun obstacle failed e =>
      rw [inert.begin_same failed]
      exact .refl c' w
    | @begun level h _ name obstacle mode succeeded =>
      have hne : c ≠ c' := by
        rintro rfl
        obtain ⟨-, -, idle, d, -, hd, -, hsaved⟩ := begin_ok_running laws succeeded
        have opened := laws.inTransaction_of_saved hd
        rw [shut within, hsaved] at opened
        cases opened
      have spares : Spares c' w (w.begin c level).2 := spares_begin hne
      rwa [succeeded] at spares

/-- A connection that is taken stays taken while others enlist. -/
theorem Occupied.enlist [Flat D] (laws : journal.Lawful) (occupied : Occupied c' s w)
    (step : EnlistStep s w c outcome s' w') : Occupied c' s' w' := by
  have others : Occupied c' s w' := by
    refine occupied.later step.keepsAway fun within => ?_
    rw [World.inTransaction_congr (step.spares within).database, within]
  cases step with
  | refused e => exact others
  | notBegun obstacle failed e => exact others
  | @begun level h _ name obstacle mode succeeded =>
    obtain ⟨-, held, idle, d, -, hd, -, hsaved⟩ := begin_ok_running laws succeeded
    intro outside
    refine List.forall_mem_append.mpr ⟨others outside, List.forall_mem_singleton.mpr fun i hi => ?_⟩
    cases hi
    refine ⟨_, held, ?_⟩
    rintro rfl
    have opened := laws.inTransaction_of_saved hd
    rw [outside, hsaved] at opened
    cases opened

/-- An act past the scope that ends no transaction of a connection keeps it free of participants. -/
theorem Occupied.direct (laws : journal.Lawful) (occupied : Occupied c now.scope now.world)
    (direct : act.isDirect = true) (plain : act.Plain journal c now) :
    Occupied c (now.next act).scope (now.next act).world := by
  have leaves := next_direct now direct
  rw [leaves.scope]
  refine occupied.later leaves.keepsAway fun within => ?_
  obtain ⟨d, base, hd, hsaved⟩ := laws.exists_saved within
  have hlater := leaves.database c
  rw [hd] at hlater
  rw [laws.inTransaction_of_saved hlater, plain d base hd hsaved]
  rfl

/-- An enlistment that succeeds adds a running participant, on a connection that nobody else has. -/
theorem Occupied.open [Flat D] (laws : journal.Lawful) (occupied : Occupied c s w)
    {handle : Option Nat} (step : EnlistStep s w c (.ok handle) s' w') :
    ∃ idle d, w.database? c = some idle ∧ w'.database? c = some d ∧
      journal.content d = journal.content idle ∧ journal.saved d = some (journal.content idle) ∧
      Open journal c s.participants.length d s' w' := by
  cases step with
  | @begun level h _ name obstacle mode succeeded =>
    obtain ⟨outside, held, idle, d, hidle, hd, hcontent, hsaved⟩ := begin_ok_running laws succeeded
    obtain ⟨opened, -, -⟩ := (Scope.enlistObstacle_eq_none_iff s).mp obstacle
    refine ⟨idle, d, hidle, hd, hcontent, hsaved, opened, ?_, ?_⟩
    · rcases mode with hmode | hmode <;> simp only [Scope.withOwn, hmode, Option.getD_none,
        Option.getD_some]
    · have before : Apart w' c s.participants := by
        have keeps : KeepsAway c w (w.begin c level).2 := keepsAway_begin
        rw [succeeded] at keeps
        exact (occupied outside).later keeps
      refine .mk rfl rfl before (fun _ hq => absurd hq List.not_mem_nil)
        { standing := rfl
          handle := ⟨h, true, rfl, held, Bool.noConfusion⟩
          database := hd
          refuses := ?_ }
      intro outside
      cases outside.symm.trans hsaved

/-- What spares the connection of a participant spares the participant. -/
theorem Holds.spared {said : Participant Nat → World D → Prop} {ps : List (Participant Nat)}
    (holds : Holds c k said ps w) (spares : Spares c w w')
    (hsaid : ∀ p, said p w → said p w') : Holds c k said ps w' := by
  obtain ⟨rfl, rfl, before, behind, holds⟩ := holds
  exact .mk rfl rfl (before.spared spares) (behind.spared spares) (hsaid _ holds)

/-- The database that a running participant is over. -/
theorem Open.database (still : Open journal c k d s w) : w.database? c = some d := by
  obtain ⟨-, -, -, -, running⟩ := still.holds
  exact running.database

/-- Enlistments that spare its connection leave a running participant alone. -/
theorem Open.enlist [Flat D] (laws : journal.Lawful) (still : Open journal c k d s w)
    (step : EnlistStep s w c' outcome s' w') (spares : Spares c w w') : Open journal c k d s' w' := by
  have holds : Holds c k (Running journal c d) s.participants w' :=
    still.holds.spared spares fun p running => running.spared spares
  cases step with
  | refused e => exact still
  | notBegun obstacle failed e => exact ⟨still.opened, still.mode, holds⟩
  | @begun level h _ name obstacle mode succeeded =>
    obtain ⟨outside, held, idle, d', -, hd, -, hsaved⟩ := begin_ok_running laws succeeded
    have hne : c' ≠ c := by
      rintro rfl
      have opened := laws.inTransaction_of_saved hd
      rw [World.inTransaction_congr spares.database, outside, hsaved] at opened
      cases opened
    refine ⟨still.opened, by simp only [Scope.withOwn, still.mode, Option.getD_some], ?_⟩
    obtain @⟨front, back, p, split, rfl, before, behind, running⟩ := holds
    have hsplit : (s.withOwn name level h).participants =
        front ++ p :: (back ++ [⟨s.participants.length, name, level, .enlisted, some h⟩]) := by
      rw [Scope.withOwn, split, List.append_assoc, List.cons_append]
    refine .mk hsplit rfl before (List.forall_mem_append.mpr ⟨behind, ?_⟩) running
    refine List.forall_mem_singleton.mpr fun i hi => ?_
    cases hi
    exact ⟨_, held, hne⟩

/-- What is done past the scope goes to the transaction of a running participant, or is kept where that
is over. -/
theorem Open.direct (laws : journal.Lawful) (still : Open journal c k d now.scope now.world)
    (direct : act.isDirect = true) (keeps : act.Keeps journal c now d) :
    Open journal c k (replay d (changes c now [act])) (now.next act).scope (now.next act).world := by
  have leaves := next_direct now direct
  have hlater := leaves.database c
  rw [still.database, Option.map_some] at hlater
  rw [leaves.scope]
  refine ⟨still.opened, still.mode, ?_⟩
  obtain ⟨split, rfl, before, behind, running⟩ := still.holds
  obtain ⟨h, active, hh, held, lost⟩ := running.handle
  obtain ⟨active', held', cause⟩ := leaves.handles held
  refine .mk split rfl (before.later leaves.keepsAway) (behind.later leaves.keepsAway)
    ⟨running.standing, ⟨h, active', hh, held', fun inactive => ?_⟩, hlater, keeps.refuses⟩
  rcases cause with same | asked
  · exact keeps.outside (lost (same.symm.trans inactive))
  · rw [inactive, laws.inTransaction_of_saved hlater] at asked
    exact Option.isSome_eq_false_iff.mp asked.symm |> Option.isNone_iff_eq_none.mp

/-- In a transaction that no act ends, nothing ends a participant but its scope. -/
theorem Act.Plain.keeps [Flat D] (laws : journal.Lawful) (plain : act.Plain journal c now)
    (hd : now.world.database? c = some d) (opened : journal.saved d = some base) :
    act.Keeps journal c now d where
  outside hover := by cases hover.symm.trans opened
  refuses hover := by cases hover.symm.trans (plain d base hd opened)
  enlist := by
    rintro c' offered ambients rfl
    have within : now.world.inTransaction c = true := by
      rw [laws.inTransaction_of_saved hd, opened]
      rfl
    exact (now.enlistStep c' offered ambients).spares within

/-- In an engine that has nothing to end outside a transaction, nothing else does either. -/
theorem Inert.keeps [Flat D] (laws : journal.Lawful) (inert : Inert D)
    (shut : now.world.inTransaction c = false → (now.next act).world.inTransaction c = false)
    (hd : now.world.database? c = some d) : act.Keeps journal c now d where
  outside hover := by
    cases direct : act.isDirect with
    | false =>
      rw [changes_single, Act.statement?_of_quiet direct]
      exact hover
    | true =>
      have hlater := (next_direct now direct).database c
      rw [hd, Option.map_some] at hlater
      have outside : now.world.inTransaction c = false := by
        rw [laws.inTransaction_of_saved hd, hover]
        rfl
      have later := shut outside
      rw [laws.inTransaction_of_saved hlater] at later
      exact Option.isNone_iff_eq_none.mp (Option.isSome_eq_false_iff.mp later)
  refuses hover := inert.refuses (by rw [laws.inTransaction_eq, hover]; rfl)
  enlist := by
    rintro c' offered ambients rfl
    exact (now.enlistStep c' offered ambients).spares_shut laws inert shut

/-! ## A run -/

/-- As long as a scope takes participants, a connection outside a transaction has none. -/
theorem occupied_next [Flat D] (laws : journal.Lawful) (plain : act.Plain journal c now)
    (occupied : now.scope.enlistObstacle = none → Occupied c now.scope now.world)
    (obstacle : (now.next act).scope.enlistObstacle = none) :
    Occupied c (now.next act).scope (now.next act).world := by
  have closed {s : Scope Nat} (hclosed : Closed s) : s.enlistObstacle ≠ none := by
    obtain ⟨reason, hreason⟩ := hclosed.enlistObstacle
    rw [hreason]
    exact Option.some_ne_none reason
  cases direct : act.isDirect with
  | true =>
    rw [(next_direct now direct).scope] at obstacle
    exact (occupied obstacle).direct laws direct plain
  | false =>
    cases act with
    | enlist c' offered ambients =>
      have step := now.enlistStep c' offered ambients
      exact (occupied (step.obstacle obstacle)).enlist laws step
    | complete =>
      rcases Work.next_complete now (fun s w => s = now.scope ∧ w = now.world ∨ Closed s)
        returns_complete_closes with ⟨hscope, hworld⟩ | hclosed
      · rw [hscope] at obstacle ⊢
        rw [hworld]
        exact occupied obstacle
      · exact absurd obstacle (closed hclosed)
    | dispose =>
      exact absurd obstacle
        (closed (Work.next_dispose now (fun s _ => Closed s) returns_dispose_closes))
    | _ => cases direct

/-- While the scope takes participants, a connection outside a transaction has none, after any
number of acts. -/
theorem occupied_after [Flat D] (laws : journal.Lawful) (plain : Plain journal c now acts)
    (occupied : now.scope.enlistObstacle = none → Occupied c now.scope now.world) :
    (now.after acts).scope.enlistObstacle = none →
      Occupied c (now.after acts).scope (now.after acts).world := by
  induction acts generalizing now with
  | nil => exact occupied
  | cons act rest ih => exact ih plain.2 (occupied_next laws plain.1 occupied)

/-- What is done to a scope after its end changes nothing for a participant. -/
theorem over_next (quiet : act.isDirect = false)
    (hover : Over journal c k base made now.scope now.world) :
    Over journal c k base made (now.next act).scope (now.next act).world := by
  cases act with
  | enlist c offered ambients =>
    have step := now.enlistStep c offered ambients
    obtain ⟨reason, hreason⟩ := hover.closed.enlistObstacle
    simp only [Work.next]
    generalize (now.enlist c offered ambients).2 = later, (now.enlist c offered ambients).1 = outcome
      at step
    obtain ⟨scope, world, log⟩ := later
    cases step with
    | refused => exact hover
    | notBegun obstacle => cases hreason.symm.trans obstacle
    | begun _ obstacle => cases hreason.symm.trans obstacle
  | complete =>
    obtain ⟨reason, hreason⟩ := hover.closed.completeObstacle
    obtain ⟨hscope, hworld⟩ := Work.next_complete now (fun s w => s = now.scope ∧ w = now.world)
      (returns_complete_refused hreason)
    rw [hscope, hworld]
    exact hover
  | dispose =>
    obtain ⟨closed, holds⟩ := Work.next_dispose now
      (fun s w => Closed s ∧ Holds c k (Ended journal c base made) s.participants w)
      (returns_dispose_ended hover.closed hover.holds)
    exact ⟨closed, holds⟩
  | _ => cases quiet

/-- A transaction that has ended with its scope stays ended while nothing goes to a connection past
the scope. -/
theorem over_after (quiet : ∀ act ∈ acts, act.isDirect = false)
    (hover : Over journal c k base made now.scope now.world) :
    Over journal c k base made (now.after acts).scope (now.after acts).world := by
  induction acts generalizing now with
  | nil => exact hover
  | cons act rest ih =>
    obtain ⟨hact, hrest⟩ := List.forall_mem_cons.mp quiet
    exact ih hrest (over_next hact hover)

/-- A participant runs on as long as its scope is open, over the database that the statements make; what
closes the scope ends its transaction. -/
theorem open_next [Flat D] (laws : journal.Lawful) (keeps : act.Keeps journal c now d)
    (still : Open journal c k d now.scope now.world) :
    Open journal c k (replay d (changes c now [act])) (now.next act).scope (now.next act).world ∨
      act.closes = true ∧ changes c now [act] = [] ∧
        Over journal c k (journal.undone d) (journal.content d) (now.next act).scope
          (now.next act).world := by
  cases direct : act.isDirect with
  | true => exact .inl (still.direct laws direct keeps)
  | false =>
    have nothing : changes c now [act] = [] := by
      rw [changes_single, Act.statement?_of_quiet direct]
      rfl
    rw [nothing]
    cases act with
    | enlist c' offered ambients =>
      exact .inl (still.enlist laws (now.enlistStep c' offered ambients) (keeps.enlist rfl))
    | complete =>
      cases obstacle : now.scope.completeObstacle with
      | some reason =>
        obtain ⟨hscope, hworld⟩ := Work.next_complete now (fun s w => s = now.scope ∧ w = now.world)
          (returns_complete_refused obstacle)
        rw [hscope, hworld]
        exact .inl still
      | none =>
        obtain ⟨closed, holds⟩ := Work.next_complete now
          (fun s w => Closed s ∧
            Holds c k (Ended journal c (journal.undone d) (journal.content d)) s.participants w)
          (returns_complete_running laws obstacle still.mode still.holds)
        exact .inr ⟨rfl, rfl, closed, holds⟩
    | dispose =>
      obtain ⟨closed, holds⟩ := Work.next_dispose now
        (fun s w => Closed s ∧
          Holds c k (Ended journal c (journal.undone d) (journal.content d)) s.participants w)
        (returns_dispose_running laws _ still.opened still.mode still.holds)
      exact .inr ⟨rfl, rfl, closed, holds⟩
    | _ => cases direct

/-- Whatever is done, a participant runs on or its transaction has ended over the database that the
statements since have made. What lets it run on is kept from act to act: something about the database
(`Q`) and about what is still to come (`R`). -/
theorem open_after [Flat D] (laws : journal.Lawful) {Q : D → Prop}
    {R : Work D → List (Act S) → Prop}
    (step : ∀ {d : D} {now : Work D} {act : Act S} {rest : List (Act S)}, Q d →
      R now (act :: rest) → now.world.database? c = some d →
        act.Keeps journal c now d ∧ Q (replay d (changes c now [act])) ∧ R (now.next act) rest)
    (timely : Timely acts) (fit : Q d) (ahead : R now acts)
    (still : Open journal c k d now.scope now.world) :
    let last := now.after acts
    let ready := replay d (changes c now acts)
    Q ready ∧ (Open journal c k ready last.scope last.world ∨
      Over journal c k (journal.undone ready) (journal.content ready) last.scope last.world) := by
  induction acts generalizing now d with
  | nil => exact ⟨fit, .inl still⟩
  | cons act rest ih =>
    obtain ⟨hclosing, htimely⟩ := List.pairwise_cons.mp timely
    obtain ⟨keeps, hfit, hahead⟩ := step fit ahead still.database
    intro last ready
    have hready : ready = replay (replay d (changes c now [act])) (changes c (now.next act) rest) := by
      rw [← replay_append, ← changes_cons]
    rcases open_next laws keeps still with hopen | ⟨hcloses, hnone, hover⟩
    · rw [hready]
      exact ih htimely hfit hahead hopen
    · -- The scope was closed, so nothing more is done past it.
      have quiet : ∀ later ∈ rest, later.isDirect = false :=
        fun later hlater => hclosing later hlater hcloses
      have ended := over_after quiet hover
      rw [hready, hnone, changes_of_quiet quiet]
      exact ⟨fit, .inr ended⟩

/-- A participant that was running when its scope was closed for good, or whose transaction had ended,
is outside a transaction with its record and its content in step. -/
theorem close_ended (laws : journal.Lawful) (closing : Closing)
    (last : Open journal c k d now.scope now.world ∨
      Over journal c k (journal.undone d) (journal.content d) now.scope now.world) :
    Holds c k (Ended journal c (journal.undone d) (journal.content d))
      (now.close closing).scope.participants (now.close closing).world := by
  refine Work.close_returns now
    (fun s w => Holds c k (Ended journal c (journal.undone d) (journal.content d)) s.participants w)
    closing ?_
  rcases last with still | hover
  · exact (returns_dispose_running laws _ still.opened still.mode still.holds).mono
      fun _ _ => And.right
  · exact (returns_dispose_ended hover.closed hover.holds).mono fun _ _ => And.right

/-- Where a participant and its database are in the end: BEGIN left the content as it was, the
participant is at the place it was given, and the database is outside a transaction. -/
structure Traced (journal : Journal D C) (c : Nat) (asked begun last : Work D) (d₀ d : D)
    (p : Participant Nat) : Prop where
  begun : ∃ idle, asked.world.database? c = some idle ∧ begun.world.database? c = some d₀ ∧
    journal.content d₀ = journal.content idle
  place : last.scope.participants[asked.scope.participants.length]? = some p
  database : last.world.database? c = some d
  outside : Transactional.inTransaction d = false

/-- A participant that runs on after its enlistment is traced to the end of its scope. -/
theorem traced_close (laws : journal.Lawful) {asked begun : Work D} {idle d₀ ready : D}
    (hidle : asked.world.database? c = some idle) (hd₀ : begun.world.database? c = some d₀)
    (hcontent : journal.content d₀ = journal.content idle) (closing : Closing)
    (last : Open journal c asked.scope.participants.length ready now.scope now.world ∨
      Over journal c asked.scope.participants.length (journal.undone ready)
        (journal.content ready) now.scope now.world) :
    ∃ d p, Traced journal c asked begun (now.close closing) d₀ d p ∧
      Agrees p (journal.undone ready) (journal.content ready) (journal.content d) := by
  obtain @⟨front, back, p, split, place, -, -, ended⟩ := close_ended laws closing last
  obtain ⟨d, hd, hsaved, agrees⟩ := ended.database
  refine ⟨d, p, ⟨⟨idle, hidle, hd₀, hcontent⟩, ?_, hd, ?_⟩, agrees⟩
  · rw [split, ← place, List.getElem?_append_right (Nat.le_refl _), Nat.sub_self]
    rfl
  · rw [laws.inTransaction_eq, hsaved]
    rfl

/-- A record that goes with one base goes with another just when it is a commit or the bases are the
same. -/
theorem Agrees.agrees_iff {p : Participant Nat} {found : C} (agrees : Agrees p base made found)
    (other : C) : Agrees p other made found ↔ p.standing = .committed ∨ base = other := by
  rcases agrees with ⟨hstanding, hfound⟩ | ⟨hstanding, hfound⟩
  · exact ⟨fun _ => .inl hstanding, fun _ => .inl ⟨hstanding, hfound⟩⟩
  · constructor
    · rintro (⟨hcommitted, -⟩ | ⟨-, hother⟩)
      · cases hcommitted.symm.trans hstanding
      · exact .inr (hfound.symm.trans hother)
    · rintro (hcommitted | hother)
      · cases hcommitted.symm.trans hstanding
      · exact .inr ⟨hstanding, hfound.trans hother⟩

/-- Every connection has a database of its own. A connection that was enlisted ends outside a
transaction; its content is the one at BEGIN with the changes of the statements since if its participant
is committed, and the one at BEGIN if it is rolled back, and one of the two is the case. The condition is
that nothing done past the scope ends its transaction.

Where something does, and nothing opens another, the connection still ends outside a transaction, but a
participant that is rolled back has the content that a rollback could restore in the end, which may be
another one than that at BEGIN. -/
theorem standing_agrees [Flat D] (laws : journal.Lawful) (id : String) (options : ScopeOptions)
    (world : World D) (log : Log) (before after : List (Act S)) (c : Nat)
    (offered : Option AmbientRef) (ambients : Ambients) (closing : Closing) {handle : Option Nat}
    (timely : Timely (before ++ .enlist c offered ambients :: after))
    (plain : Plain journal c (Work.start id options world log) before)
    (accepted : (((Work.start id options world log).after before).enlist c offered ambients).1 =
      .ok handle) :
    let asked := (Work.start id options world log).after before
    let begun := (asked.enlist c offered ambients).2
    let last := (begun.after after).close closing
    (Plain journal c begun after → ∃ d₀ d p, Traced journal c asked begun last d₀ d p ∧
      Agrees p (journal.content d₀) (journal.content (replay d₀ (changes c begun after)))
        (journal.content d)) ∧
    (Inert D → Shut c begun after → ∃ d₀ d p, Traced journal c asked begun last d₀ d p ∧
      let ready := replay d₀ (changes c begun after)
      Agrees p (journal.undone ready) (journal.content ready) (journal.content d) ∧
        (Agrees p (journal.content d₀) (journal.content ready) (journal.content d) ↔
          p.standing = .committed ∨ journal.undone ready = journal.content d₀)) := by
  intro asked begun last
  have step := asked.enlistStep c offered ambients
  rw [accepted] at step
  have fresh : Occupied c (Work.start id options world log).scope world :=
    fun _ p hp => absurd hp List.not_mem_nil
  obtain ⟨idle, d₀, hidle, hd₀, hcontent, hsaved, still⟩ :=
    (occupied_after laws plain (fun _ => fresh) step.accepted).open laws step
  have htimely : Timely after := (List.pairwise_cons.mp (List.pairwise_append.mp timely).2.1).2
  constructor
  · intro hplain
    obtain ⟨hkept, hlast⟩ := open_after laws
      (fun opened ahead hd =>
        ⟨ahead.1.keeps laws hd opened, ahead.1 _ _ hd opened, ahead.2⟩)
      htimely hsaved hplain still
    obtain ⟨d, p, traced, agrees⟩ := traced_close laws hidle hd₀ hcontent closing hlast
    rw [Journal.undone_of_saved hkept, ← hcontent] at agrees
    exact ⟨d₀, d, p, traced, agrees⟩
  · intro inert shut
    obtain ⟨-, hlast⟩ := open_after laws (Q := fun _ => True)
      (fun _ ahead hd => ⟨inert.keeps laws ahead.1 hd, trivial, ahead.2⟩)
      htimely trivial shut still
    obtain ⟨d, p, traced, agrees⟩ := traced_close laws hidle hd₀ hcontent closing hlast
    exact ⟨d₀, d, p, traced, agrees, agrees.agrees_iff _⟩

end Steps

/-! ## The small database -/

/-- The transactions of the small database. -/
def Database.journal : Journal Database Content where
  content := Database.content
  saved := Database.saved

/-- A COMMIT inside a transaction fails over orphans, and else closes it. -/
theorem Database.execute_commit {db : Database} {base : Content} (opened : db.saved = some base) :
    db.execute .commit = if 0 < db.content.orphans then (.error foreignKeyFailed, db)
      else (.ok (), { db with saved := none }) := by
  have within : db.inTransaction = true := by
    rw [Database.inTransaction, opened]
    rfl
  simp only [Database.execute, within, Bool.not_true, Bool.false_eq_true, if_false]

theorem Database.journal_lawful : Database.journal.Lawful where
  inTransaction_eq _ := rfl
  begin_ok {db _ immediate} ran := by
    change db.execute (.begin immediate) = _ at ran
    cases within : db.inTransaction with
    | true =>
      obtain ⟨fault, refused⟩ := Flat.begin_within (d := db) within immediate
      cases refused.symm.trans ran
    | false =>
      rcases Database.execute_begin within immediate with opened | refused
      · cases opened.symm.trans ran
        exact ⟨rfl, rfl⟩
      · cases refused.symm.trans ran
  commit_ok {db _ base} opened ran := by
    have hran := (Database.execute_commit opened).symm.trans ran
    split at hran <;> cases hran
    exact ⟨rfl, rfl⟩
  commit_error {db _ base fault} opened ran := by
    have hran := (Database.execute_commit opened).symm.trans ran
    split at hran <;> cases hran
    exact opened
  rollback {db base} opened := by
    obtain ⟨content, saved, locked⟩ := db
    cases opened
    exact ⟨_, rfl, rfl, rfl⟩

/-- The small database has nothing to end outside a transaction. -/
theorem Database.inert : Inert Database where
  refuses {db} outside :=
    { commit := ⟨nothingToCommit, by
        change db.inTransaction = false at outside
        change db.execute .commit = _
        simp only [Database.execute, outside, Bool.not_false, if_true]⟩
      rollback := ⟨nothingToRollBack, by
        have hsaved : db.saved = none := Option.isNone_iff_eq_none.mp
          (Option.isSome_eq_false_iff.mp outside)
        change db.execute .rollback = _
        simp only [Database.execute, hsaved]⟩ }
  begin_error {db _ immediate fault} ran := by
    change db.execute (.begin immediate) = _ at ran
    cases within : db.inTransaction with
    | true =>
      obtain ⟨nested, refused⟩ := Flat.begin_within (d := db) within immediate
      cases refused.symm.trans ran
      rfl
    | false =>
      rcases Database.execute_begin within immediate with opened | refused
      · cases opened.symm.trans ran
      · cases refused.symm.trans ran
        rfl

/-- Whether a statement is transaction control. -/
def Statement.isControl : Statement → Bool
  | .begin _ => true
  | .commit => true
  | .rollback => true
  | _ => false

/-- Whether a statement may end the transaction that it runs in. -/
def Statement.mayEnd : Statement → Bool
  | .commit => true
  | .rollback => true
  | .insertNullOrRollback => true
  | _ => false

/-- Every other statement leaves the transaction as it is, whether it fails or not. -/
theorem Database.saved_execute {db : Database} {statement : Statement} {base : Content}
    (opened : db.saved = some base) (lasting : statement.mayEnd = false) :
    (db.execute statement).2.saved = some base := by
  have touched {run : Except Driver.Fault Unit × Database} (h : run.2.saved = db.saved) :
      (db.touch run).2.saved = some base := by
    unfold Database.touch
    split
    · exact opened
    · exact h.trans opened
  cases statement with
  | begin immediate =>
    have within : db.inTransaction = true := by
      rw [Database.inTransaction, opened]
      rfl
    obtain ⟨fault, refused⟩ := Flat.begin_within (d := db) within immediate
    change db.execute (.begin immediate) = _ at refused
    rw [refused]
    exact opened
  | commit => cases lasting
  | rollback => cases lasting
  | insertNullOrRollback => cases lasting
  | insert => exact touched rfl
  | insertOrphan =>
    refine touched ?_
    split <;> rfl
  | insertNull => exact touched rfl
  | deleteOrphans => exact touched rfl
  | malformed => exact opened

/-- The statement of an act; disposing of a handle rolls back. -/
def Act.said? : Act Statement → Option Statement
  | .execute _ statement => some statement
  | .executeOn _ statement => some statement
  | .release _ => some .rollback
  | _ => none

/-- What an act says is the statement that it runs. -/
theorem Act.said?_of_statement {act : Act Statement} {w : World Database} {c : Nat}
    {statement : Statement} (said : act.statement? w = some (c, statement)) :
    act.said? = some statement := by
  cases act with
  | execute =>
    cases said
    rfl
  | executeOn h other =>
    obtain ⟨handle, -, heq⟩ := Option.map_eq_some_iff.mp said
    cases heq
    rfl
  | release h =>
    obtain ⟨handle, -, heq⟩ := Option.map_eq_some_iff.mp said
    cases heq
    rfl
  | _ => cases said

/-- Acts whose statements end no transaction. -/
theorem Database.plain {c : Nat} {now : Work Database} {acts : List (Act Statement)}
    (lasting : ∀ act ∈ acts, act.said?.any Statement.mayEnd = false) :
    Plain Database.journal c now acts := by
  induction acts generalizing now with
  | nil => trivial
  | cons act rest ih =>
    obtain ⟨hact, hrest⟩ := List.forall_mem_cons.mp lasting
    refine ⟨fun db base _ hsaved => ?_, ih hrest⟩
    rw [changes_single]
    cases hsaid : act.statement? now.world with
    | none => exact hsaved
    | some said =>
      obtain ⟨c', statement⟩ := said
      by_cases hc : c' = c
      · subst hc
        rw [ranOn_self]
        rw [Act.said?_of_statement hsaid] at hact
        exact Database.saved_execute hsaved hact
      · rw [ranOn_ne hc]
        exact hsaved

/-- A scope over two empty databases. -/
def twoDatabases : Work Database :=
  Work.start "unit" {} { connections := [⟨"orders", {}⟩, ⟨"billing", {}⟩] } {}

/-- The second database is enlisted after the first. -/
def secondEnlisted : Except TransactionError (Option Nat) × Work Database :=
  (twoDatabases.after [.enlist 0 none []]).enlist 1 none []

/-- An insertion into the first database, and a deferred violation in the second. -/
def violation : List (Act Statement) := [.executeOn 0 .insert, .executeOn 1 .insertOrphan, .complete]

/-- A failure in the second database that rolls back there, and a row inserted after it. -/
def lostTransaction : List (Act Statement) :=
  [.executeOn 1 .insertNullOrRollback, .executeOn 1 .insert, .complete]

/-- The scope commits the first database and rolls the second back, to nothing after a violation, and
with the row kept after a transaction was lost. -/
theorem standing_agrees_violation :
    secondEnlisted.1 = .ok (some 1) ∧
      (∃ d p, Traced Database.journal 1 (twoDatabases.after [.enlist 0 none []]) secondEnlisted.2
          ((secondEnlisted.2.after violation).close .drop) { saved := some {} } d p ∧
        Agrees p {} { orphans := 1 } d.content) ∧
      ∃ d p, Traced Database.journal 1 (twoDatabases.after [.enlist 0 none []]) secondEnlisted.2
          ((secondEnlisted.2.after lostTransaction).close .drop) { saved := some {} } d p ∧
        Agrees p { good := 1 } { good := 1 } d.content := by
  have accepted : secondEnlisted.1 = .ok (some 1) := rfl
  have begun : secondEnlisted.2.world.database? 1 = some { saved := some {} } := rfl
  have plain : Plain Database.journal 1 twoDatabases [.enlist 0 none []] :=
    Database.plain (by decide)
  have timely (acts : List (Act Statement)) (hacts : acts = violation ∨ acts = lostTransaction) :
      Timely ([.enlist 0 none []] ++ .enlist 1 none [] :: acts) := by
    unfold Timely
    rcases hacts with rfl | rfl <;> decide
  refine ⟨accepted, ?_, ?_⟩
  · obtain ⟨agrees, -⟩ := standing_agrees Database.journal_lawful "unit" {} _ {} [.enlist 0 none []]
      violation 1 none [] .drop (timely _ (.inl rfl)) plain accepted
    obtain ⟨d₀, d, p, traced, found⟩ := agrees (Database.plain (by decide))
    obtain ⟨idle, -, hd₀, -⟩ := traced.begun
    obtain rfl := Option.some.inj (begun.symm.trans hd₀)
    exact ⟨d, p, traced, found⟩
  · obtain ⟨-, lost⟩ := standing_agrees Database.journal_lawful "unit" {} _ {} [.enlist 0 none []]
      lostTransaction 1 none [] .drop (timely _ (.inr rfl)) plain accepted
    have shut : Shut 1 secondEnlisted.2 lostTransaction := by
      refine ⟨?_, ?_, ?_, trivial⟩ <;> decide
    obtain ⟨d₀, d, p, traced, found, -⟩ := lost Database.inert shut
    obtain ⟨idle, -, hd₀, -⟩ := traced.begun
    obtain rfl := Option.some.inj (begun.symm.trans hd₀)
    exact ⟨d, p, traced, found⟩

/-- A scope over one empty database. -/
def oneDatabase : Work Database := Work.start "unit" {} { connections := [⟨"orders", {}⟩] } {}

/-- The database is enlisted. -/
def firstEnlisted : Except TransactionError (Option Nat) × Work Database :=
  oneDatabase.enlist 0 none []

/-- Record and content part without any transaction control by the holder. The transaction is lost, to a
failure that rolls back or with the handle disposed of, and the row inserted next is kept. The scope is
disposed of and records a rollback, and the row is still there. -/
theorem lost_transaction_disagrees :
    Database.journal.Lawful ∧ Statement.insertNullOrRollback.isControl = false ∧
      Statement.insert.isControl = false ∧ firstEnlisted.1 = .ok (some 0) ∧
      ∀ losing ∈ [Act.executeOn 0 .insertNullOrRollback, Act.release 0],
        let acts := [losing, .executeOn 0 .insert]
        Timely (.enlist 0 none [] :: acts) ∧
          ∃ d p, Traced Database.journal 0 oneDatabase firstEnlisted.2
              ((firstEnlisted.2.after acts).close .dispose) { saved := some {} } d p ∧
            p.standing = .rolledBack ∧ d.content = { good := 1 } := by
  refine ⟨Database.journal_lawful, rfl, rfl, rfl, ?_⟩
  refine List.forall_mem_cons.mpr ⟨?_, List.forall_mem_singleton.mpr ?_⟩
  all_goals
    refine ⟨?_, { content := { good := 1 } }, _, ⟨⟨{}, rfl, rfl, rfl⟩, rfl, rfl, rfl⟩, rfl, rfl⟩
    unfold Timely
    decide

end UnitOfWork.Sqlite
