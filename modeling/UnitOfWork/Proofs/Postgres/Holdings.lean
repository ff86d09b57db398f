import Mathlib.Data.List.Pairwise
import UnitOfWork.Proofs.Postgres.Rounds

/-!
# What a scope over PostgreSQL connections holds

A PostgreSQL connection joins no ambient transaction, so every participant holds a handle of its own
until the scope is disposed of, and no two hold the same (`Held`). A call of the scope touches no handle
behind the participant at which it stops; so of the pending participants only the first can have lost its
transaction, as long as handles are ended by the scope alone (`Ready`).

`ScopeStep` is everything that a call of the scope can do to participants and connections. `DisposeStep`
keeps the outcome as well.
-/

set_option autoImplicit false

namespace UnitOfWork.Postgres

open Scope (Participant)

/-! ## The steps -/

/-- What one call of a scope makes of it and of the connections. -/
inductive ScopeStep (s : Scope Nat) (w : World) : Scope Nat → World → Prop where
  /-- Nobody was added and nobody passed. -/
  | idle {s' : Scope Nat} {w' : World} (participants : s'.participants = s.participants)
      (state : s.state = .disposed → s'.state = .disposed) (later : World.Later [] w w') :
      ScopeStep s w s' w'
  | enlisted {w' : World} {name : String} {isolation : IsolationLevel} {c : Nat}
      (later : World.Later [] w w') (fresh : w'.handles = w.handles ++ [{ connection := c }]) :
      ScopeStep s w (s.withOwn name isolation w.handles.length) w'
  | completed {s' : Scope Nat} {w' : World} (opened : s.state = .opened)
      (passed : List.Forall₂ Passed s.participants s'.participants)
      (later : World.Later (Scope.handles s.participants) w w') : ScopeStep s w s' w'
  /-- A disposal stopped at a pending participant. -/
  | stopped {front rest : List (Participant Nat)} {p : Participant Nat} {s' : Scope Nat} {w' : World}
      (opened : s.state = .opened) (split : s.participants = front ++ p :: rest)
      (pending : p.isPending = true)
      (after : s'.participants = front.map Participant.settled ++ p :: rest)
      (later : World.Later (Scope.handles (front ++ [p])) w w') : ScopeStep s w s' w'
  | disposed {s' : Scope Nat} {w' : World} (state : s'.state = .disposed)
      (index : s'.participants.map Participant.index = s.participants.map Participant.index)
      (released : ∀ p ∈ s'.participants, p.handle = none)
      (later : World.Later (Scope.handles s.participants) w w') : ScopeStep s w s' w'

/-- What a disposal comes to. -/
inductive DisposeStep (s : Scope Nat) (w : World) :
    Except TransactionError Unit × Scope Nat → World → Prop where
  | again (disposed : s.state = .disposed) : DisposeStep s w (.ok (), s) w
  | through {failures : List RollbackFailure} {ps : List (Participant Nat)} {w' : World}
      (index : ps.map Participant.index = s.participants.map Participant.index)
      (later : World.Later (Scope.handles s.participants) w w') :
      DisposeStep s w (Scope.disposal failures, Scope.closed s ps true) w'
  | stopped {front rest : List (Participant Nat)} {p : Participant Nat} {h : Nat}
      {outcomeUnknown : Bool} {between w' : World} (needs : s.needsRollback = true)
      (split : s.participants = front ++ p :: rest) (pending : p.isPending = true)
      (handle : p.handle = some h) (before : World.Later (Scope.handles front) w between)
      (later : World.Later [h] between w')
      (sent : outcomeUnknown = true → between.rollbackRacing h = (.interrupted, w')) :
      DisposeStep s w
        (.error (.cancelled p.name p.index .rollback outcomeUnknown),
          { s with
            disposing := true
            participants := front.map Participant.settled ++ p :: rest }) w'

theorem index_settled (ps : List (Participant Nat)) :
    (ps.map Participant.settled).map Participant.index = ps.map Participant.index := by
  simp only [List.map_map, Function.comp_def, Participant.settled_index]

/-- A disposal is one of the steps that a scope can take. -/
theorem DisposeStep.scopeStep {s : Scope Nat} {w w' : World}
    {r : Except TransactionError Unit × Scope Nat} (h : DisposeStep s w r w') :
    ScopeStep s w r.2 w' := by
  cases h with
  | again disposed => exact .idle rfl id (.refl _ w)
  | @through failures ps _ index later =>
    have hindex : (ps.map Participant.released).map Participant.index =
        s.participants.map Participant.index := by
      rw [← index, List.map_map]
      rfl
    exact .disposed rfl hindex (List.forall_mem_map.mpr fun p _ => rfl) later
  | @stopped front rest p h _ _ _ needs split pending handle before later sent =>
    have hopened := ((Scope.needsRollback_iff s).mp needs).2
    have happend : Scope.handles (front ++ [p]) = Scope.handles front ++ [h] := by
      rw [← Scope.handles_singleton handle]
      exact List.filterMap_append
    refine .stopped hopened split pending rfl ?_
    rw [happend]
    exact before.append later

section Returns

variable {racing : Scope.RacingHost WorldM Nat} {s : Scope Nat} {w : World}

/-- A participant that joins gets a handle that was not there before, on its own connection. -/
theorem returns_beginOwn (name : String) (c : Nat) (isolation : IsolationLevel) :
    Returns ((adapter name c).beginOwn isolation) w fun began w' =>
      World.Later [] w w' ∧ ∀ h, began = .ok h →
        h = w.handles.length ∧ w'.handles = w.handles ++ [{ connection := c }] := by
  have hlater : World.Later [] w (w.begin c isolation).2 := World.later_begin
  rcases hbegun : w.begin c isolation with ⟨outcome, w'⟩
  rw [hbegun] at hlater
  refine Returns.bind (returns_modifyGet ?_)
  rw [hbegun]
  cases outcome with
  | error e => exact returns_pure ⟨hlater, fun h hh => by cases hh⟩
  | ok h =>
    refine Returns.bind (returns_record (returns_pure ⟨hlater, fun i hi => ?_⟩))
    cases hi
    exact World.begin_ok hbegun

/-- The lines about an enlistment touch no connection. -/
theorem returns_noteEnlisted {resolved : Scope.Notice} {name : String} {isolation : IsolationLevel}
    {Q : Unit → World → Prop} (hQ : Q () w) :
    Returns (Scope.noteEnlisted host s resolved name isolation) w Q := by
  unfold Scope.noteEnlisted
  cases s.mode.isNone with
  | true => exact Returns.bind (returns_note (returns_note hQ))
  | false => exact Returns.bind (returns_pure (returns_note hQ))

/-- An enlistment adds a participant with a handle of its own, or nobody. -/
theorem returns_enlist (name : String) (c : Nat) (offered : Option AmbientRef) (ambients : Ambients) :
    Returns (Scope.enlist host (adapter name c) offered ambients s) w fun e w' =>
      ScopeStep s w e.scope w' := by
  unfold Scope.enlist Scope.carryOut
  cases s.plan ambients (adapter name c).name offered with
  | error e => exact returns_pure (.idle rfl id (.refl _ w))
  | ok plan =>
    cases plan with
    | ambient place found =>
      exact Returns.bind (returns_pure (returns_pure (.idle rfl id (.refl _ w))))
    | own isolation =>
      refine Returns.bind ((returns_beginOwn name c isolation).mono fun began w₁ hbegan => ?_)
      obtain ⟨later, fresh⟩ := hbegan
      cases began with
      | error source => exact Returns.bind (returns_note (returns_pure (.idle rfl id later)))
      | ok h =>
        obtain ⟨rfl, hhandles⟩ := fresh h rfl
        exact Returns.bind (returns_noteEnlisted (returns_pure (.enlisted later hhandles)))

/-- A scope closed to enlistment calls no connection. -/
theorem returns_enlist_refused {reason : String} (obstacle : s.enlistObstacle = some reason)
    (adapter : Adapter WorldM Nat) (offered : Option AmbientRef) (ambients : Ambients) :
    Returns (Scope.enlist host adapter offered ambients s) w fun e w' => e.scope = s ∧ w' = w := by
  have hplan : s.plan ambients adapter.name offered = .error (.state "enlist" reason) := by
    simp only [Scope.plan, obstacle]
  simp only [Scope.enlist, hplan]
  exact returns_pure ⟨rfl, rfl⟩

/-- A completion passes every participant, or leaves them all alone. -/
theorem returns_complete (faithful : Faithful racing) :
    Returns (Scope.Suspending.complete racing s) w fun r w' => ScopeStep s w r.2 w' := by
  unfold Scope.Suspending.complete Scope.beginComplete
  cases hobstacle : s.completeObstacle with
  | some reason => exact returns_pure (.idle rfl id (.refl _ w))
  | none =>
    obtain ⟨hopened, -, -⟩ := (Scope.completeObstacle_eq_none_iff s).mp hobstacle
    rw [faithful.toHost]
    simp only
    split
    · refine Returns.bind ((returns_commitEach faithful 0 s.participants).mono ?_)
      rintro ⟨stop, participants⟩ w₁ ⟨passed, later⟩
      cases stop with
      | some e => exact returns_pure (.completed hopened passed later)
      | none => exact Returns.bind (returns_note (returns_pure (.completed hopened passed later)))
    · have hstate : s.state = .disposed → Scope.State.completed = .disposed := by
        rw [hopened]
        intro hdisposed
        cases hdisposed
      exact Returns.bind (returns_note (returns_pure (.idle rfl hstate (.refl _ w))))

/-- A scope closed to completion calls no connection. -/
theorem returns_complete_refused {reason : String} (obstacle : s.completeObstacle = some reason) :
    Returns (Scope.Suspending.complete racing s) w fun r w' => r.2 = s ∧ w' = w := by
  simp only [Scope.Suspending.complete, Scope.beginComplete, obstacle]
  exact returns_pure ⟨rfl, rfl⟩

/-- A disposal ends as `DisposeStep` says, under every faithful host. -/
theorem returns_dispose (faithful : Faithful racing) :
    Returns (Scope.Suspending.dispose racing s) w (DisposeStep s w) := by
  unfold Scope.Suspending.dispose
  by_cases hstate : s.state = .disposed
  · rw [if_pos hstate]
    exact returns_pure (.again hstate)
  · rw [if_neg hstate, faithful.toHost]
    have hneeds : s.beginDispose.needsRollback = s.needsRollback := rfl
    simp only [hneeds]
    split
    · next needs =>
      refine Returns.bind ((returns_rollBackEach_racing faithful [] s.participants).mono ?_)
      intro r w₁ round
      cases round with
      | through later =>
        refine Returns.bind (returns_releaseAll (Returns.bind (returns_note (returns_pure ?_))))
        exact .through (index_settled _) later
      | stopped split pending handle before later sent =>
        exact returns_pure (.stopped needs split pending handle before later sent)
    · refine Returns.bind (returns_pure ?_)
      refine Returns.bind (returns_releaseAll (Returns.bind (returns_note (returns_pure ?_))))
      exact .through rfl (.refl _ w)

/-- A disposal without a token rolls back everyone who is pending, and closes the scope. -/
theorem returns_dispose_uncancelled (needs : s.needsRollback = true) :
    Returns (Scope.Suspending.dispose host.uncancelled s) w fun r w' =>
      r = (Scope.disposal (w.rollbackAll s.participants).1,
        Scope.closed s (s.participants.map Participant.settled) true) ∧
      w' = (w.rollbackAll s.participants).2 := by
  have hstate : s.state ≠ .disposed :=
    Scope.not_disposed ((Scope.needsRollback_iff s).mp needs).2
  rw [Scope.suspending_dispose_uncancelled host s hstate]
  unfold Scope.Blocking.dispose
  rw [if_neg hstate, if_pos needs]
  refine Returns.map (Returns.bind ((returns_rollBackEach s.participants).mono ?_))
  rintro _ _ ⟨rfl, rfl⟩
  exact Returns.bind (returns_releaseAll (Returns.bind (returns_note (returns_pure ⟨rfl, rfl⟩))))

end Returns

/-! ## The invariants -/

/-- How a scope holds its participants' handles. -/
structure Held (s : Scope Nat) (w : World) : Prop where
  index : s.participants.map Participant.index = List.range s.participants.length
  known : ∀ h ∈ Scope.handles s.participants, h < w.handles.length
  distinct : (Scope.handles s.participants).Nodup
  owned : s.state ≠ .disposed → ∀ p ∈ s.participants, p.handle.isSome = true

/-- Every pending participant behind the first still has its transaction. -/
def Ready (s : Scope Nat) (w : World) : Prop :=
  s.participants.Pairwise fun p q =>
    p.isPending = true → q.isPending = true → ∀ h, q.handle = some h → w.isActive h = true

section Facts

variable {s s' : Scope Nat} {w w' : World} {ps qs : List (Participant Nat)} {ended : List Nat}
  {h : Nat}

theorem World.isActive_iff : w.isActive h = true ↔
    ∃ c, w.handles[h]? = some { connection := c, active := true } := by
  rw [World.isActive, Option.any_eq_true]
  constructor
  · rintro ⟨⟨c, active⟩, hheld, rfl⟩
    exact ⟨c, hheld⟩
  · rintro ⟨c, hheld⟩
    exact ⟨_, hheld, rfl⟩

/-- A handle that was not ended meanwhile is still active. -/
theorem World.Later.isActive (later : World.Later ended w w') (hspared : h ∉ ended)
    (hactive : w.isActive h = true) : w'.isActive h = true := by
  obtain ⟨c, hheld⟩ := World.isActive_iff.mp hactive
  exact World.isActive_iff.mpr ⟨c, later.spared hspared hheld⟩

/-- A handle that was handed out is never lost. -/
theorem World.Later.known (later : World.Later ended w w') (hknown : h < w.handles.length) :
    h < w'.handles.length := by
  obtain ⟨_, hthen, -⟩ := later.kept (List.getElem?_eq_getElem hknown)
  exact (List.getElem?_eq_some_iff.mp hthen).1

/-- What a scope holds is known from the handles of its participants. -/
theorem handles_of_map_handle
    (hsame : qs.map Participant.handle = ps.map Participant.handle) :
    Scope.handles qs = Scope.handles ps := by
  have hread (rs : List (Participant Nat)) :
      Scope.handles rs = (rs.map Participant.handle).filterMap id := by
    rw [List.filterMap_map]
    rfl
  rw [hread, hread, hsame]

/-- What no passing changes is the same for all participants after a walk. -/
theorem passed_map {α : Type} {f : Participant Nat → α} (hf : ∀ p q, Passed p q → f q = f p)
    (passed : List.Forall₂ Passed ps qs) : qs.map f = ps.map f := by
  induction passed with
  | nil => rfl
  | cons hpq _ ih => rw [List.map_cons, List.map_cons, hf _ _ hpq, ih]

/-- Nobody is pending behind a walk. -/
theorem passed_not_pending (passed : List.Forall₂ Passed ps qs) :
    ∀ q ∈ qs, q.isPending = false := by
  induction passed with
  | nil => exact fun q hq => by cases hq
  | cons hpq _ ih => exact List.forall_mem_cons.mpr ⟨hpq.pending, ih⟩

/-- A scope without participants holds nothing. -/
theorem held_of_nil (hs : s.participants = []) : Held s w := by
  refine ⟨?_, ?_, ?_, ?_⟩ <;> simp [hs, Scope.handles]

/-- A scope without participants has nobody whose transaction could be lost. -/
theorem ready_of_nil (hs : s.participants = []) : Ready s w := by
  unfold Ready
  rw [hs]
  exact .nil

/-- Nor has a scope in which nobody is pending. -/
theorem ready_of_not_pending (hps : ∀ p ∈ s.participants, p.isPending = false) : Ready s w :=
  List.pairwise_of_forall_mem_list fun p hp _ _ hpending => by
    cases (hps p hp).symm.trans hpending

/-- What keeps the handles and the numbers of everyone keeps how they are held. -/
theorem Held.same (held : Held s w) (later : World.Later ended w w')
    (hhandle : s'.participants.map Participant.handle = s.participants.map Participant.handle)
    (hindex : s'.participants.map Participant.index = s.participants.map Participant.index)
    (hstate : s'.state ≠ .disposed → s.state ≠ .disposed) : Held s' w' where
  index := by
    have hlength := congrArg List.length hindex
    rw [List.length_map, List.length_map] at hlength
    rw [hindex, hlength]
    exact held.index
  known h hh := later.known (held.known h (handles_of_map_handle hhandle ▸ hh))
  distinct := handles_of_map_handle hhandle ▸ held.distinct
  owned hs p hp := by
    have hmem : p.handle ∈ s.participants.map Participant.handle := by
      rw [← hhandle]
      exact List.mem_map_of_mem hp
    obtain ⟨q, hq, hpq⟩ := List.mem_map.mp hmem
    rw [← hpq]
    exact held.owned (hstate hs) q hq

/-- Time passes over what a scope holds. -/
theorem Held.later (held : Held s w) (later : World.Later ended w w') : Held s w' :=
  held.same later rfl rfl id

/-- Nobody becomes less ready while no handle is ended. -/
theorem Ready.later (ready : Ready s w) (later : World.Later [] w w') : Ready s w' :=
  List.Pairwise.imp (fun hpq hp hq h hh => later.isActive List.not_mem_nil (hpq hp hq h hh)) ready

/-- The next handle is nobody's yet. -/
theorem Held.enlist (held : Held s w) (later : World.Later [] w w') {name : String}
    {isolation : IsolationLevel} {c : Nat}
    (fresh : w'.handles = w.handles ++ [{ connection := c }]) :
    Held (s.withOwn name isolation w.handles.length) w' := by
  have hhandles : Scope.handles (s.withOwn name isolation w.handles.length).participants =
      Scope.handles s.participants ++ [w.handles.length] := List.filterMap_append
  refine ⟨?_, ?_, ?_, ?_⟩
  · simp only [Scope.withOwn, List.map_append, List.map_cons, List.map_nil, held.index,
      List.length_append, List.length_cons, List.length_nil, List.range_succ]
  · rw [hhandles]
    refine List.forall_mem_append.mpr ⟨fun h hh => later.known (held.known h hh), ?_⟩
    simp [fresh]
  · rw [hhandles]
    refine List.nodup_append.mpr ⟨held.distinct, List.pairwise_singleton _ _, ?_⟩
    intro h hh _ hnext
    rw [List.mem_singleton.mp hnext]
    exact Nat.ne_of_lt (held.known h hh)
  · intro hs
    exact List.forall_mem_append.mpr ⟨held.owned hs, List.forall_mem_singleton.mpr rfl⟩

theorem Held.dispose (held : Held s w) (hstate : s'.state = .disposed)
    (hindex : s'.participants.map Participant.index = s.participants.map Participant.index)
    (hreleased : ∀ p ∈ s'.participants, p.handle = none) : Held s' w' := by
  have hhandles : Scope.handles s'.participants = [] := List.filterMap_eq_nil_iff.mpr hreleased
  have hlength := congrArg List.length hindex
  rw [List.length_map, List.length_map] at hlength
  refine ⟨?_, ?_, ?_, fun hs => absurd hstate hs⟩
  · rw [hindex, hlength]
    exact held.index
  · rw [hhandles]
    exact fun h hh => by cases hh
  · rw [hhandles]
    exact List.nodup_nil

/-- Every call of a scope keeps how it holds its handles. -/
theorem Held.step (held : Held s w) (step : ScopeStep s w s' w') : Held s' w' := by
  cases step with
  | idle participants state later =>
    exact held.same later (by rw [participants]) (by rw [participants]) (mt state)
  | enlisted later fresh => exact held.enlist later fresh
  | completed opened passed later =>
    exact held.same later (passed_map (fun _ _ => Passed.handle) passed)
      (passed_map (fun _ _ => Passed.index) passed) fun _ => Scope.not_disposed opened
  | stopped opened split pending after later =>
    refine held.same later ?_ ?_ fun _ => Scope.not_disposed opened <;>
      simp [after, split]
  | disposed state index released later => exact held.dispose state index released

/-- A disposal that stops touches no handle behind the participant where it stops. -/
theorem Held.behind (held : Held s w) {front rest : List (Participant Nat)} {p q : Participant Nat}
    (split : s.participants = front ++ p :: rest) (hq : q ∈ rest) (hh : q.handle = some h) :
    h ∉ Scope.handles (front ++ [p]) := by
  have hsplit : s.participants = (front ++ [p]) ++ rest := by
    rw [split, List.append_assoc, List.singleton_append]
  have hdistinct := held.distinct
  rw [hsplit, Scope.handles, List.filterMap_append] at hdistinct
  obtain ⟨-, -, hapart⟩ := List.nodup_append.mp hdistinct
  intro hmem
  exact hapart h hmem h (List.mem_filterMap.mpr ⟨q, hq, hh⟩) rfl

/-- After a walk that stopped, only the participant at which it stopped can have lost its transaction. -/
theorem Ready.stop (held : Held s w) (ready : Ready s w) {front rest : List (Participant Nat)}
    {p : Participant Nat} (split : s.participants = front ++ p :: rest)
    (later : World.Later (Scope.handles (front ++ [p])) w w')
    (after : s'.participants = front.map Participant.settled ++ p :: rest) : Ready s' w' := by
  unfold Ready at ready ⊢
  rw [split] at ready
  obtain ⟨-, hready, -⟩ := List.pairwise_append.mp ready
  rw [after]
  have hsettled : ∀ q ∈ front.map Participant.settled, q.isPending = false :=
    List.forall_mem_map.mpr fun q _ => (passed_settled q).pending
  refine List.pairwise_append.mpr ⟨?_, ?_, ?_⟩
  · refine List.pairwise_of_forall_mem_list fun q hq _ _ hpending => ?_
    cases (hsettled q hq).symm.trans hpending
  · obtain ⟨hfirst, hrest⟩ := List.pairwise_cons.mp hready
    refine List.pairwise_cons.mpr ⟨fun q hq hp hpending h hh => ?_, ?_⟩
    · exact later.isActive (held.behind split hq hh) (hfirst q hq hp hpending h hh)
    · refine List.Pairwise.imp_of_mem (fun _ hq hpq hp hpending h hh => ?_) hrest
      exact later.isActive (held.behind split hq hh) (hpq hp hpending h hh)
  · intro q hq _ _ hpending
    cases (hsettled q hq).symm.trans hpending

theorem Ready.enlist (ready : Ready s w) (later : World.Later [] w w') {name : String}
    {isolation : IsolationLevel} {c : Nat}
    (fresh : w'.handles = w.handles ++ [{ connection := c }]) :
    Ready (s.withOwn name isolation w.handles.length) w' := by
  refine List.pairwise_append.mpr ⟨ready.later later, List.pairwise_singleton _ _, ?_⟩
  intro _ _ q hq _ _ h hh
  rw [List.mem_singleton.mp hq] at hh
  cases hh
  exact World.isActive_iff.mpr ⟨c, by simp [fresh]⟩

/-- Every call of a scope leaves nobody but the first pending participant without its transaction.
-/
theorem Ready.step (held : Held s w) (ready : Ready s w) (step : ScopeStep s w s' w') :
    Ready s' w' := by
  cases step with
  | idle participants state later =>
    unfold Ready
    rw [participants]
    exact ready.later later
  | enlisted later fresh => exact ready.enlist later fresh
  | completed opened passed later => exact ready_of_not_pending (passed_not_pending passed)
  | stopped opened split pending after later => exact ready.stop held split later after
  | disposed state index released later =>
    exact ready_of_not_pending fun p hp => by simp [Participant.isPending, released p hp]

end Facts

end UnitOfWork.Postgres
