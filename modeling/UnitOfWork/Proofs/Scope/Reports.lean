import UnitOfWork.Proofs.Scope.Orderly

/-!
# What the disposals of a suspending scope report

A disposal that gets through reports every rollback of its own that failed, with the participant, its
index and what the driver said. A disposal that the token stops reports nothing of the rollbacks it
called before: their participants count as rolled back, so the disposal that resumes does not call them
again and does not know of them either.

`lossless_iff` says when a sequence of disposals loses no failure: exactly when none was stopped after
a rollback of its own had failed. The blocking scope, which no token stops, is not spoken of here.
-/

set_option autoImplicit false

namespace UnitOfWork.Scope

open Participant (rollbackCall rollbackFailure)

/-! ## The statement -/

/-- What a disposal came to. -/
structure Disposal where
  outcome : Except TransactionError Unit
  /-- The calls it made. -/
  calls : List Call
  /-- Whether it is the one that disposed of the scope. -/
  closing : Bool

namespace Disposal

/-- The token stopped it. -/
def Stopped (d : Disposal) : Prop :=
  ∃ name index outcomeUnknown, d.outcome = .error (.cancelled name index .rollback outcomeUnknown)

/-- It rolled a transaction back, and that failed. -/
def Fails (d : Disposal) (i : Nat) (source : ParticipantError) : Prop :=
  .rollback i (.finished (.error source)) ∈ d.calls

/-- It reports a failure. -/
def Reports (d : Disposal) (failure : RollbackFailure) : Prop :=
  ∃ failures, d.outcome = .error (.rollback failures) ∧ failure ∈ failures

end Disposal

namespace Usage

/-- One disposal of a suspending scope. -/
def disposal (u : Usage) (answers : Answers) (token : Option Token) : Disposal :=
  let r := u.dispose .suspending answers token
  { outcome := r.1
    calls := r.2.calls.drop u.calls.length
    closing := u.scope.state ≠ .disposed ∧ r.2.scope.state = .disposed }

/-- Dispose again and again. -/
def disposeEach (u : Usage) : List (Answers × Option Token) → List Disposal × Usage
  | [] => ([], u)
  | (answers, token) :: rest =>
    let (disposals, last) := (u.dispose .suspending answers token).2.disposeEach rest
    (u.disposal answers token :: disposals, last)

/-- The names of the participants. -/
def names (u : Usage) : List String := u.scope.participants.map Participant.name

end Usage

/-- Disposals that lose no failure of a rollback. -/
structure Lossless (names : List String) (disposals : List Disposal) : Prop where
  reported : ∀ d ∈ disposals, ∀ i source, d.Fails i source →
    ∃ other ∈ disposals, ∃ name, names[i]? = some name ∧ other.Reports ⟨name, i, source⟩
  clean : ∀ d ∈ disposals, d.closing = true → d.outcome = .ok () →
    ∀ other ∈ disposals, ∀ i source, ¬ other.Fails i source

/-! ## The failures of a round -/

section Round

variable {answers : Answers} {ps : List (Participant Nat)}

/-- A round calls the rollback of a transaction when its participant is pending. -/
theorem mem_rollbackCalls_iff {i : Nat} {outcome : Except ParticipantError Unit} :
    .rollback i (.finished outcome) ∈ ps.flatMap (rollbackCall answers) ↔
      ∃ p ∈ ps, p.isPending = true ∧ p.handle = some i ∧ answers.rollback i = outcome := by
  rw [List.mem_flatMap]
  refine exists_congr fun p => and_congr_right fun _ => ?_
  cases hp : p.isPending with
  | false => simp only [rollbackCall_of_not_pending answers hp, List.not_mem_nil, Bool.false_eq_true,
      false_and]
  | true =>
    obtain ⟨j, hj⟩ := exists_handle_of_pending hp
    rw [rollbackCall_of_pending answers hp hj, List.mem_singleton, hj]
    constructor
    · intro h
      cases h
      exact ⟨rfl, rfl, rfl⟩
    · rintro ⟨-, h, rfl⟩
      cases h
      rfl

/-- A round reports the participants whose rollback failed, by name and index. -/
theorem mem_rollbackFailures_iff {failure : RollbackFailure} :
    failure ∈ ps.flatMap (rollbackFailure answers) ↔
      ∃ p ∈ ps, p.isPending = true ∧ ∃ i, p.handle = some i ∧
        answers.rollback i = .error failure.source ∧ failure = ⟨p.name, p.index, failure.source⟩ := by
  rw [List.mem_flatMap]
  refine exists_congr fun p => and_congr_right fun _ => ?_
  cases hp : p.isPending with
  | false => simp only [rollbackFailure_of_not_pending answers hp, List.not_mem_nil,
      Bool.false_eq_true, false_and]
  | true =>
    obtain ⟨j, hj⟩ := exists_handle_of_pending hp
    simp only [rollbackFailure, hp, hj, if_true, Option.toList_some, List.flatMap_cons,
      List.flatMap_nil, List.append_nil, true_and, Option.some.injEq, exists_eq_left']
    cases answers.rollback j with
    | ok _ => simp only [List.not_mem_nil, reduceCtorEq, false_and]
    | error source =>
      rw [List.mem_singleton]
      constructor
      · rintro rfl
        exact ⟨rfl, rfl⟩
      · rintro ⟨hsource, hfailure⟩
        cases hsource
        exact hfailure

end Round

/-! ## One disposal -/

section One

variable {u : Usage} (answers : Answers) (token : Option Token)

/-- Disposals only add calls. -/
theorem calls_dispose :
    (u.dispose .suspending answers token).2.calls = u.calls ++ (u.disposal answers token).calls := by
  have happend := prefix_dispose u .suspending answers token
  exact (List.prefix_iff_eq_append.mp happend).symm

/-- A disposal renames nobody. -/
theorem names_dispose : (u.dispose .suspending answers token).2.names = u.names := by
  have hstep := disposeStep u .suspending answers token
  generalize u.dispose .suspending answers token = r at hstep ⊢
  cases hstep with
  | again disposed => rfl
  | quiet state needs =>
    simp only [Usage.names, closed, List.map_map]
    rfl
  | through needs =>
    simp only [Usage.names, closed, List.map_map, Function.comp_def, Participant.released,
      Participant.settled_name]
  | stopped needs split pending handle stops =>
    simp only [Usage.names, split, List.map_append, List.map_map, Function.comp_def,
      Participant.settled_name]

/-- Everything that matters of a disposal: it called no rollback, or it rolled back whoever was
pending, or it was stopped. -/
inductive Came (u : Usage) (answers : Answers) : Disposal → State → Prop where
  | again (disposed : u.scope.state = .disposed) :
      Came u answers { outcome := .ok (), calls := [], closing := false } .disposed
  | through {ps : List (Participant Nat)} (state : u.scope.state ≠ .disposed)
      (kept : ∀ p ∈ ps, p ∈ u.scope.participants) {released : List Call}
      (idle : ∀ c ∈ released, c.rank = 3) :
      Came u answers
        { outcome := Scope.disposal (ps.flatMap (rollbackFailure answers))
          calls := ps.flatMap (rollbackCall answers) ++ released
          closing := true }
        .disposed
  | stopped {name : String} {index : Nat} {outcomeUnknown : Bool} {calls : List Call}
      (state : u.scope.state = .opened) :
      Came u answers
        { outcome := .error (.cancelled name index .rollback outcomeUnknown)
          calls
          closing := false }
        .opened

/-- A disposal is one of the three that are told apart. -/
theorem came : Came u answers (u.disposal answers token)
    (u.dispose .suspending answers token).2.scope.state := by
  have hstep := disposeStep u .suspending answers token
  unfold Usage.disposal
  generalize u.dispose .suspending answers token = r at hstep ⊢
  cases hstep with
  | again disposed =>
    simp only [List.drop_length, disposed, ne_eq, not_true, false_and, decide_false]
    exact .again disposed
  | quiet state needs =>
    simp only [List.drop_left, closed, ne_eq, state, not_false_eq_true, and_true, decide_true]
    have hnone : ∀ p ∈ ([] : List (Participant Nat)), p ∈ u.scope.participants :=
      fun p hp => absurd hp List.not_mem_nil
    exact .through state hnone rank_releaseCalls
  | through needs =>
    obtain ⟨-, hstate⟩ := (needsRollback_iff _).mp needs
    have hopen := not_disposed hstate
    simp only [List.append_assoc, List.drop_left, closed, ne_eq, hopen, not_false_eq_true, and_true,
      decide_true]
    exact .through hopen (fun _ hp => hp) rank_releaseCalls
  | stopped needs split pending handle stops =>
    obtain ⟨-, hstate⟩ := (needsRollback_iff _).mp needs
    simp only [hstate, reduceCtorEq, and_false, decide_false]
    exact .stopped hstate

end One

section Came

variable {u : Usage} {answers : Answers} {d : Disposal} {state : State}

/-- A disposal that was stopped reports no failure. -/
theorem Disposal.Stopped.not_reports {failure : RollbackFailure} (h : d.Stopped) :
    ¬ d.Reports failure := by
  rintro ⟨failures, houtcome, -⟩
  obtain ⟨name, index, outcomeUnknown, hstopped⟩ := h
  cases hstopped.symm.trans houtcome

/-- A disposal that no token stopped has disposed of the scope. -/
theorem Came.disposed (h : Came u answers d state) (hd : ¬ d.Stopped) : state = .disposed := by
  cases h with
  | again disposed => rfl
  | through state kept idle => rfl
  | stopped state => exact absurd ⟨_, _, _, rfl⟩ hd

/-- Nothing is left to do once the scope is disposed of. -/
theorem Came.idle (h : Came u answers d state) (hstate : u.scope.state = .disposed) :
    state = .disposed ∧ d.calls = [] ∧ d.closing = false := by
  cases h with
  | again disposed => exact ⟨rfl, rfl, rfl⟩
  | through state kept idle => exact absurd hstate state
  | stopped state => cases hstate.symm.trans state

theorem not_mem_released {released : List Call} (idle : ∀ c ∈ released, c.rank = 3) {i : Nat}
    {ended : Race (Except ParticipantError Unit)} : .rollback i ended ∉ released := by
  intro hmem
  cases idle _ hmem

/-- A disposal that no token stopped reports what failed of it, and nothing else. -/
theorem Came.fails_iff (h : Came u answers d state) (hsound : Sound u)
    (haccounts : Accounts u.scope.participants u.calls) (hd : ¬ d.Stopped) {i : Nat}
    {source : ParticipantError} :
    d.Fails i source ↔ ∃ name, u.names[i]? = some name ∧ d.Reports ⟨name, i, source⟩ := by
  cases h with
  | again disposed =>
    refine ⟨fun hmem => absurd hmem List.not_mem_nil, ?_⟩
    rintro ⟨name, -, failures, houtcome, -⟩
    cases houtcome
  | stopped state => exact absurd ⟨_, _, _, rfl⟩ hd
  | @through ps state kept released idle =>
    have hplace {p : Participant Nat} (hp : p ∈ ps) :
        u.scope.participants[p.index]? = some p := by
      obtain ⟨k, hk⟩ := List.mem_iff_getElem?.mp (kept p hp)
      rwa [hsound.coherent.index k p hk]
    have hnumber {p : Participant Nat} (hp : p ∈ ps) {j : Nat} (hj : p.handle = some j) :
        j = p.index := haccounts.number p.index p (hplace hp) j hj
    have hname {p : Participant Nat} (hp : p ∈ ps) : u.names[p.index]? = some p.name := by
      rw [Usage.names, List.getElem?_map, hplace hp]
      rfl
    constructor
    · intro hmem
      rcases List.mem_append.mp hmem with hmem | hmem
      · obtain ⟨p, hp, hpending, hi, hfailed⟩ := mem_rollbackCalls_iff.mp hmem
        obtain rfl := hnumber hp hi
        have hfailure : ⟨p.name, p.index, source⟩ ∈ ps.flatMap (rollbackFailure answers) :=
          mem_rollbackFailures_iff.mpr ⟨p, hp, hpending, p.index, hi, hfailed, rfl⟩
        refine ⟨p.name, hname hp, _, disposal_eq_error.mpr ⟨?_, rfl⟩, hfailure⟩
        exact List.ne_nil_of_mem hfailure
      · exact absurd hmem (not_mem_released idle)
    · rintro ⟨name, hi, failures, houtcome, hfailure⟩
      obtain ⟨-, rfl⟩ := disposal_eq_error.mp houtcome
      obtain ⟨p, hp, hpending, j, hj, hfailed, hsame⟩ := mem_rollbackFailures_iff.mp hfailure
      cases hsame
      obtain rfl := hnumber hp hj
      exact List.mem_append_left released
        (mem_rollbackCalls_iff.mpr ⟨p, hp, hpending, hj, hfailed⟩)

/-- A disposal that no token stopped returns success exactly when nothing of it failed. -/
theorem Came.ok_iff (h : Came u answers d state) (hd : ¬ d.Stopped) :
    d.outcome = .ok () ↔ ∀ i source, ¬ d.Fails i source := by
  cases h with
  | again disposed => exact ⟨fun _ i source => List.not_mem_nil, fun _ => rfl⟩
  | stopped state => exact absurd ⟨_, _, _, rfl⟩ hd
  | @through ps state kept released idle =>
    refine disposal_eq_ok.trans ⟨?_, ?_⟩
    · intro hnone i source hmem
      rcases List.mem_append.mp hmem with hmem | hmem
      · obtain ⟨p, hp, hpending, hi, hfailed⟩ := mem_rollbackCalls_iff.mp hmem
        have hfailure : ⟨p.name, p.index, source⟩ ∈ ps.flatMap (rollbackFailure answers) :=
          mem_rollbackFailures_iff.mpr ⟨p, hp, hpending, i, hi, hfailed, rfl⟩
        rw [hnone] at hfailure
        cases hfailure
      · exact absurd hmem (not_mem_released idle)
    · intro hnone
      refine List.eq_nil_iff_forall_not_mem.mpr fun failure hfailure => ?_
      obtain ⟨p, hp, hpending, i, hi, hfailed, -⟩ := mem_rollbackFailures_iff.mp hfailure
      exact hnone i failure.source (List.mem_append_left released
        (mem_rollbackCalls_iff.mpr ⟨p, hp, hpending, hi, hfailed⟩))

end Came

/-! ## A sequence of disposals -/

section Each

variable {u : Usage}

/-- Every disposal of a sequence is one of a scope as sound as the first, with the same names. -/
theorem mem_disposeEach {disposals : List (Answers × Option Token)} (hsound : Sound u)
    (h : Ledger .suspending u) {d : Disposal} (hd : d ∈ (u.disposeEach disposals).1) :
    ∃ v answers state, Sound v ∧ Ledger .suspending v ∧ v.names = u.names ∧
      Came v answers d state := by
  induction disposals generalizing u with
  | nil => cases hd
  | cons disposal rest ih =>
    obtain ⟨answers, token⟩ := disposal
    rcases List.mem_cons.mp hd with rfl | hd
    · exact ⟨u, answers, _, hsound, h, rfl, came answers token⟩
    · obtain ⟨v, others, state, hv, hledger, hnames, hcame⟩ :=
        ih (sound_dispose hsound .suspending answers token) (ledger_dispose hsound h answers token) hd
      exact ⟨v, others, state, hv, hledger, hnames.trans (names_dispose answers token), hcame⟩

/-- Disposals one after another keep the ledger, and their calls are those of each. -/
theorem ledger_disposeEach (disposals : List (Answers × Option Token)) (hsound : Sound u)
    (h : Ledger .suspending u) : Ledger .suspending (u.disposeEach disposals).2 ∧
      (u.disposeEach disposals).2.calls =
        u.calls ++ (u.disposeEach disposals).1.flatMap Disposal.calls := by
  induction disposals generalizing u with
  | nil => exact ⟨h, (List.append_nil _).symm⟩
  | cons disposal rest ih =>
    obtain ⟨answers, token⟩ := disposal
    obtain ⟨hlast, hcalls⟩ :=
      ih (sound_dispose hsound .suspending answers token) (ledger_dispose hsound h answers token)
    refine ⟨hlast, hcalls.trans ?_⟩
    rw [calls_dispose, Usage.disposeEach, List.flatMap_cons, List.append_assoc]

/-- After a disposal that no token stopped, the others do nothing. -/
theorem pairwise_idle (disposals : List (Answers × Option Token)) :
    (u.disposeEach disposals).1.Pairwise fun d e =>
      ¬ d.Stopped → e.calls = [] ∧ e.closing = false := by
  have hdisposed (rest : List (Answers × Option Token)) :
      ∀ v : Usage, v.scope.state = .disposed → ∀ e ∈ (v.disposeEach rest).1,
        e.calls = [] ∧ e.closing = false := by
    induction rest with
    | nil => exact fun _ _ _ he => by cases he
    | cons disposal rest ih =>
      obtain ⟨answers, token⟩ := disposal
      intro v hv e he
      obtain ⟨hstate, hidle⟩ := (came answers token).idle hv
      rcases List.mem_cons.mp he with rfl | he
      · exact hidle
      · exact ih _ hstate e he
  induction disposals generalizing u with
  | nil => exact .nil
  | cons disposal rest ih =>
    obtain ⟨answers, token⟩ := disposal
    refine List.pairwise_cons.mpr ⟨fun e he hd => ?_, ih⟩
    exact hdisposed rest _ ((came answers token).disposed hd) e he

/-- No two disposals of a sequence roll a transaction back to the end. -/
theorem pairwise_finished (disposals : List (Answers × Option Token)) (hsound : Sound u)
    (h : Ledger .suspending u) :
    (u.disposeEach disposals).1.Pairwise fun d e => ∀ i x y,
      .rollback i (.finished x) ∈ d.calls → .rollback i (.finished y) ∉ e.calls := by
  obtain ⟨hlast, hcalls⟩ := ledger_disposeEach disposals hsound h
  have hagain := hlast.orderly.again
  rw [hcalls] at hagain
  obtain ⟨-, hmade, -⟩ := List.pairwise_append.mp hagain
  obtain ⟨-, hpairs⟩ := List.pairwise_flatMap.mp hmade
  refine hpairs.imp fun hde i x y hx hy => ?_
  cases hde _ hx _ hy i _ _ rfl rfl

section Sequence

variable {disposals : List (Answers × Option Token)} {d : Disposal} {i : Nat}
  {source : ParticipantError}

/-- A disposal that was not stopped reports exactly the rollbacks that failed in it. -/
theorem reported_of_not_stopped (hsound : Sound u) (h : Ledger .suspending u)
    (hd : d ∈ (u.disposeEach disposals).1) (hstopped : ¬ d.Stopped) :
    d.Fails i source ↔ ∃ name, u.names[i]? = some name ∧ d.Reports ⟨name, i, source⟩ := by
  obtain ⟨v, answers, state, hv, hledger, hnames, hcame⟩ := mem_disposeEach hsound h hd
  rw [← hnames]
  exact hcame.fails_iff hv hledger.accounts hstopped

/-- What failed before the token stopped a disposal, nobody reports. -/
theorem not_reported_of_stopped (hsound : Sound u) (h : Ledger .suspending u)
    (hd : d ∈ (u.disposeEach disposals).1) (hstopped : d.Stopped) (hfails : d.Fails i source)
    {other : Disposal} (hother : other ∈ (u.disposeEach disposals).1) {name : String}
    (hname : u.names[i]? = some name) : ¬ other.Reports ⟨name, i, source⟩ := by
  intro hreports
  have hthrough : ¬ other.Stopped := fun hother => hother.not_reports hreports
  -- Whoever reports the failure called the rollback too, and a finished one is called once.
  have hsame := (reported_of_not_stopped hsound h hother hthrough).mpr ⟨name, hname, hreports⟩
  have hpairs := pairwise_finished disposals hsound h
  have hapart := List.Pairwise.forall_of_forall_of_flip
    (R := fun d e => d.Stopped → ¬ e.Stopped → d.Fails i source → ¬ e.Fails i source)
    (fun _ _ hx hy => absurd hx hy)
    (hpairs.imp fun hde _ _ hx hy => hde i _ _ hx hy)
    (hpairs.imp fun hde _ _ hx hy => hde i _ _ hy hx)
  exact hapart hd hother hstopped hthrough hfails hsame

/-- A disposal that disposed of the scope and returned success leaves no failure behind, unless a
disposal was stopped. -/
theorem clean_of_closing (hsound : Sound u) (h : Ledger .suspending u)
    (hd : d ∈ (u.disposeEach disposals).1) (hclosing : d.closing = true)
    (hok : d.outcome = .ok ()) {other : Disposal} (hother : other ∈ (u.disposeEach disposals).1)
    (hthrough : ¬ other.Stopped) : ¬ other.Fails i source := by
  have hpairs := pairwise_idle (u := u) disposals
  -- By where the other stands: at the closing disposal itself, after it, or before it.
  have hclean := List.Pairwise.forall_of_forall_of_flip
    (R := fun d e => d.closing = true → d.outcome = .ok () → ¬ e.Stopped → ¬ e.Fails i source)
    (l := (u.disposeEach disposals).1) ?_ ?_ ?_
  · exact hclean hd hother hclosing hok hthrough
  · intro x hx _ hok hx'
    obtain ⟨v, answers, state, hv, hledger, -, hcame⟩ := mem_disposeEach hsound h hx
    exact (hcame.ok_iff hx').mp hok i source
  · refine hpairs.imp fun {x y} hxy _ hok _ hfails => ?_
    have hx : ¬ x.Stopped := by
      rintro ⟨_, _, _, hstopped⟩
      cases hok.symm.trans hstopped
    rw [Disposal.Fails, (hxy hx).1] at hfails
    cases hfails
  · refine hpairs.imp fun hyx hclosing _ hy _ => ?_
    cases hclosing.symm.trans (hyx hy).2

end Sequence

end Each

/-- A sequence of disposals loses no failure exactly when none was stopped after a rollback of its own
had failed. A failure is reported exactly when the disposal it belongs to was not stopped, and a
disposal that was not stopped returns success exactly when nothing of its own failed. -/
theorem lossless_iff (id : String) (options : ScopeOptions) (ambients : Ambients)
    (uses : List Use) (disposals : List (Answers × Option Token)) :
    let u := (Usage.start id options ambients).run .suspending uses
    let ds := (u.disposeEach disposals).1
    (Lossless u.names ds ↔ ∀ d ∈ ds, d.Stopped → ∀ i source, ¬ d.Fails i source) ∧
      (∀ d ∈ ds, ∀ i source, d.Fails i source →
        ((∃ other ∈ ds, ∃ name, u.names[i]? = some name ∧ other.Reports ⟨name, i, source⟩) ↔
          ¬ d.Stopped)) ∧
      ∀ d ∈ ds, ¬ d.Stopped → (d.outcome = .ok () ↔ ∀ i source, ¬ d.Fails i source) := by
  intro u ds
  have hsound := sound_run .suspending id options ambients uses
  have h := ledger_run .suspending id options ambients uses
  have hreported : ∀ d ∈ ds, ∀ i source, d.Fails i source →
      ((∃ other ∈ ds, ∃ name, u.names[i]? = some name ∧ other.Reports ⟨name, i, source⟩) ↔
        ¬ d.Stopped) := by
    intro d hd i source hfails
    constructor
    · rintro ⟨other, hother, name, hname, hreports⟩ hstopped
      exact not_reported_of_stopped hsound h hd hstopped hfails hother hname hreports
    · intro hstopped
      exact ⟨d, hd, (reported_of_not_stopped hsound h hd hstopped).mp hfails⟩
  refine ⟨⟨?_, ?_⟩, hreported, ?_⟩
  · intro hlossless d hd hstopped i source hfails
    exact (hreported d hd i source hfails).mp (hlossless.reported d hd i source hfails) hstopped
  · intro hclean
    exact
      { reported := fun d hd i source hfails =>
          (hreported d hd i source hfails).mpr fun hstopped => hclean d hd hstopped i source hfails
        clean := fun d hd hclosing hok other hother i source hfails =>
          clean_of_closing hsound h hd hclosing hok hother
            (fun hstopped => hclean other hother hstopped i source hfails) hfails }
  · intro d hd hstopped
    obtain ⟨v, answers, state, hv, hledger, -, hcame⟩ := mem_disposeEach hsound h hd
    exact hcame.ok_iff hstopped

/-- The rollback of the first of two connections fails and the token interrupts that of the second: the
disposal that resumes returns success, and nobody is told of the failure. -/
theorem interrupted_disposal_loses :
    let u := (Usage.start "unit" {} []).run .suspending
      [.enlist { name := "orders" } none, .enlist { name := "stock" } none]
    let answers : Answers := { rollback := fun _ => .error (.noActiveTransaction .rollback) }
    let token : Token := ⟨fun _ => false, fun calls => !(rollbacks calls).isEmpty⟩
    let r := u.disposeEach [(answers, some token), ({}, none)]
    r.2.scope.state = .disposed ∧ ¬ Lossless u.names r.1 := by
  intro u answers token r
  refine ⟨rfl, fun hlossless => ?_⟩
  have hfirst : Disposal.Fails
      { outcome := .error (.cancelled "stock" 1 .rollback true)
        calls := [.rollback 0 (.finished (.error (.noActiveTransaction .rollback))),
          .rollback 1 .interrupted]
        closing := false } 0 (.noActiveTransaction .rollback) := List.mem_cons_self
  exact hlossless.clean
    { outcome := .ok ()
      calls := [.rollback 1 (.finished (.ok ())), .release 0, .release 1]
      closing := true }
    (List.mem_cons_of_mem _ List.mem_cons_self) rfl rfl _ List.mem_cons_self _ _ hfirst

end UnitOfWork.Scope
