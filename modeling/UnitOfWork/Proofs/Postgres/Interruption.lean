import UnitOfWork.Proofs.Postgres.Sessions
import UnitOfWork.Proofs.Scope.Resumption

/-!
# The rollback that was interrupted

A disposal that is interrupted while the server works on a ROLLBACK leaves the participant pending, and
the next disposal begins there. Its handle, however, gave up the transaction before the statement was
sent. So the next disposal sends nothing for that participant, reports it as failed for want of a
transaction, and goes on to the others: `dispose_after_interrupted`. It never succeeds, also where every
server accepts every statement; `interrupted_rollback_unsent` is the smallest such session.
-/

set_option autoImplicit false

namespace UnitOfWork.Postgres

open Scope (Participant handles_cons)

/-! ## Servers that accept -/

namespace World

/-- The servers accept every ROLLBACK that a round over these participants sends. -/
def AcceptsRollbacks (w : World) : List (Participant Nat) → Prop
  | [] => True
  | p :: rest =>
    (∀ h handle, p.isPending = true → p.handle = some h → w.activeHandle? h = some handle →
      (w.execute handle.connection "ROLLBACK").1 = .ok ()) ∧
    (w.rollbackOf p).2.AcceptsRollbacks rest

section Rounds

variable {w : World} {ps : List (Participant Nat)} {c : Nat}

/-- Where everyone pending has a transaction and the servers accept, no rollback fails. -/
theorem rollbackAll_accepted (accepts : w.AcceptsRollbacks ps) (hdistinct : (Scope.handles ps).Nodup)
    (hactive : ∀ p ∈ ps, p.isPending = true → ∀ h, p.handle = some h → w.isActive h = true) :
    (w.rollbackAll ps).1 = [] := by
  induction ps generalizing w with
  | nil => rfl
  | cons p rest ih =>
    obtain ⟨hfirst, hrest⟩ := accepts
    obtain ⟨hp, hothers⟩ := List.forall_mem_cons.mp hactive
    rw [handles_cons] at hdistinct
    obtain ⟨-, hdistinct, hapart⟩ := List.nodup_append.mp hdistinct
    have hkept : ∀ q ∈ rest, q.isPending = true → ∀ h, q.handle = some h →
        (w.rollbackOf p).2.isActive h = true := by
      intro q hq hpending h hh
      refine later_rollbackOf.isActive (fun hmem => ?_) (hothers q hq hpending h hh)
      exact hapart h hmem h (List.mem_filterMap.mpr ⟨q, hq, hh⟩) rfl
    have hown : (w.rollbackOf p).1 = [] := by
      cases hpending : p.isPending with
      | false => rw [rollbackOf_of_not_pending hpending]
      | true =>
        obtain ⟨h, hh⟩ := Scope.exists_handle_of_pending hpending
        obtain ⟨c, hheld⟩ := isActive_iff.mp (hp hpending h hh)
        have hhandle := activeHandle_eq_some_iff.mpr ⟨hheld, rfl⟩
        rw [rollbackOf_of_pending hpending hh, rollback_of_active hhandle,
          hfirst h _ hpending hh hhandle]
        rfl
    rw [rollbackAll_cons, hown, ih hrest hdistinct hkept]
    rfl

theorem received_rollback_ne {h : Nat}
    (helsewhere : ∃ handle, w.handles[h]? = some handle ∧ handle.connection ≠ c) :
    (w.rollback h).2.received c = w.received c := by
  obtain ⟨handle, hheld, hne⟩ := helsewhere
  cases hactive : w.activeHandle? h with
  | none => rw [rollback_of_inactive hactive]
  | some found =>
    obtain ⟨hfound, -⟩ := activeHandle_eq_some_iff.mp hactive
    cases hheld.symm.trans hfound
    rw [rollback_of_active hactive]
    exact received_send_ne hne

/-- A round over participants on other connections sends nothing here. -/
theorem received_rollbackAll (helsewhere : ∀ p ∈ ps, ∀ h, p.handle = some h →
    ∃ handle, w.handles[h]? = some handle ∧ handle.connection ≠ c) :
    (w.rollbackAll ps).2.received c = w.received c := by
  induction ps generalizing w with
  | nil => rfl
  | cons p rest ih =>
    obtain ⟨hp, hrest⟩ := List.forall_mem_cons.mp helsewhere
    have hown : (w.rollbackOf p).2.received c = w.received c := by
      cases hpending : p.isPending with
      | false => rw [rollbackOf_of_not_pending hpending]
      | true =>
        obtain ⟨h, hh⟩ := Scope.exists_handle_of_pending hpending
        rw [rollbackOf_of_pending hpending hh]
        exact received_rollback_ne (hp h hh)
    rw [rollbackAll_cons, ← hown]
    refine ih fun q hq h hh => ?_
    obtain ⟨handle, hheld, hne⟩ := hrest q hq h hh
    obtain ⟨active, hthen, -⟩ := later_rollbackOf.kept hheld
    exact ⟨_, hthen, hne⟩

end Rounds

end World

/-! ## The two disposals -/

/-- A disposal that was interrupted while the ROLLBACK of a participant was in flight, and what it
leaves: the participants before that one are settled, and it is pending still, although its handle has
given up the transaction. -/
structure Interrupted (before stopped : Desk World) (name : String) (k : Nat) (s : Scope Nat)
    (front : List (Participant Nat)) (p : Participant Nat) (rest : List (Participant Nat)) (h c : Nat) :
    Prop where
  scope : stopped.scope = some s
  disposing : s.disposing = true
  needs : s.needsRollback = true
  split : s.participants = front ++ p :: rest
  place : front.length = k
  name : p.name = name
  settled : ∀ q ∈ front, q.isPending = false
  pending : p.isPending = true
  handle : p.handle = some h
  active : before.world.handles[h]? = some { connection := c }
  sent : ∃ said, stopped.world.received c = before.world.received c ++ said ++ ["ROLLBACK"]
  ended : stopped.world.handles[h]? = some { connection := c, active := false }

/-- What the next disposal does without a token. Nothing is sent for the participant, which is the first
to be reported; the others are rolled back as ever, and the scope is closed with nobody left enlisted. -/
structure Abandoned (resumed closed : Desk World) (answer : Option Desk.Answer) (name : String)
    (k : Nat) (s : Scope Nat) (rest : List (Participant Nat)) (c : Nat) : Prop where
  answer : answer = some (.transaction (.error (.rollback
    (⟨name, k, .noActiveTransaction .rollback⟩ :: (resumed.world.rollbackAll rest).1))))
  world : closed.world = (resumed.world.rollbackAll rest).2
  silent : (∀ q ∈ rest, ∀ i, q.handle = some i →
      ∃ handle, resumed.world.handles[i]? = some handle ∧ handle.connection ≠ c) →
    closed.world.received c = resumed.world.received c
  scope : closed.scope = some (Scope.closed s (s.participants.map Participant.settled) true)
  standing : ∀ q ∈ s.participants.map Participant.settled,
    q.standing = .committed ∨ q.standing = .rolledBack

section Disposals

variable {d : Desk World} {s : Scope Nat} {w : World} {front rest : List (Participant Nat)}
  {p : Participant Nat} {name : String} {h c k : Nat}

/-- A participant is reported by its place. -/
theorem Held.index_eq (held : Held s w) (split : s.participants = front ++ p :: rest) :
    p.index = front.length := by
  have hplace : s.participants[front.length]? = some p := by
    rw [split, List.getElem?_append_right (Nat.le_refl _), Nat.sub_self, List.getElem?_cons_zero]
  obtain ⟨hlt, -⟩ := List.getElem?_eq_some_iff.mp hplace
  have hindex := congrArg (·[front.length]?) held.index
  simp only [List.getElem?_map, hplace, Option.map_some, List.getElem?_range hlt] at hindex
  exact Option.some.inj hindex

/-- Behind a pending participant no rollback fails that its server accepts. -/
theorem Ready.rollbackAll_rest (ready : Ready s w) (held : Held s w)
    (split : s.participants = front ++ p :: rest) (pending : p.isPending = true)
    (accepts : w.AcceptsRollbacks rest) : (w.rollbackAll rest).1 = [] := by
  unfold Ready at ready
  rw [split] at ready
  obtain ⟨-, hbehind, -⟩ := List.pairwise_append.mp ready
  have hdistinct := held.distinct
  rw [split, Scope.handles, List.filterMap_append, ← Scope.handles, ← Scope.handles, handles_cons]
    at hdistinct
  obtain ⟨-, hdistinct, -⟩ := List.nodup_append.mp hdistinct
  refine World.rollbackAll_accepted accepts (List.nodup_append.mp hdistinct).2.1 fun q hq => ?_
  exact (List.pairwise_cons.mp hbehind).1 q hq pending

theorem returns_interrupted (held : Session.OfScope Held d)
    (cancellation : Option Cancellation) :
    Returns (Session.step (.desk (.disposeScope cancellation))) d fun answer d' =>
      answer = some (.transaction (.error (.cancelled name k .rollback true))) →
        ∃ s front p rest h c, Interrupted d d' name k s front p rest h c := by
  cases hs : d.scope with
  | none => exact returns_stepScope_none hs fun hanswer => by cases hanswer
  | some s =>
    refine returns_called hs fun racing w faithful token => (returns_dispose faithful).mono ?_
    intro r w' step hanswer
    simp only [Option.some.injEq, Desk.Answer.transaction.injEq] at hanswer
    cases step with
    | again disposed => cases hanswer
    | through index later => exact absurd hanswer (Scope.disposal_ne_cancelled _ _ _ _ _)
    | @stopped front rest p h outcomeUnknown between _ needs split pending handle before later sent =>
      simp only [Except.error.injEq, TransactionError.cancelled.injEq] at hanswer
      obtain ⟨hname, hindex, -, rfl⟩ := hanswer
      have hlater : World.Later (Scope.handles front) d.world between :=
        (token.mono fun _ hh => absurd hh List.not_mem_nil).trans before
      have hknown : h < d.world.handles.length := by
        refine (held s hs).known h (List.mem_filterMap.mpr ⟨p, ?_, handle⟩)
        rw [split]
        exact List.mem_append_right _ List.mem_cons_self
      obtain ⟨c, hactive, hended, hreceived⟩ :=
        World.rollbackRacing_interrupted (congrArg Prod.fst (sent rfl))
      rw [sent rfl] at hended hreceived
      let stopped : Scope Nat :=
        { s with disposing := true, participants := front.map Participant.settled ++ p :: rest }
      refine ⟨stopped, front.map Participant.settled, p, rest, h, c, ?_⟩
      exact {
        scope := rfl
        disposing := rfl
        needs
        split := rfl
        place := by rw [List.length_map, ← (held s hs).index_eq split, hindex]
        name := hname
        settled := List.forall_mem_map.mpr fun q _ => (passed_settled q).pending
        pending
        handle
        active := hlater.active_before hknown hactive
        sent := by
          obtain ⟨said, hsaid⟩ := hlater.received c
          exact ⟨said, hreceived.trans (hsaid ▸ rfl)⟩
        ended := hended }

/-- A disposal that begins at a participant whose handle has ended. -/
theorem returns_abandoned (held : Held s d.world) (hs : d.scope = some s)
    (needs : s.needsRollback = true) (split : s.participants = front ++ p :: rest)
    (settled : ∀ q ∈ front, q.isPending = false) (pending : p.isPending = true)
    (handle : p.handle = some h)
    (ended : d.world.handles[h]? = some { connection := c, active := false }) :
    Returns (Session.step (.desk (.disposeScope none))) d fun answer d' =>
      Abandoned d d' answer p.name p.index s rest c := by
  have hround : d.world.rollbackAll s.participants =
      (⟨p.name, p.index, .noActiveTransaction .rollback⟩ :: (d.world.rollbackAll rest).1,
        (d.world.rollbackAll rest).2) := by
    rw [split, World.rollbackAll_append_of_not_pending settled, World.rollbackAll_cons,
      World.rollbackOf_ended pending handle ended]
    rfl
  refine returns_stepScope hs ((returns_dispose_uncancelled needs).mono ?_)
  rintro _ _ ⟨rfl, rfl⟩
  rw [hround]
  exact {
    answer := rfl
    world := rfl
    silent := World.received_rollbackAll
    scope := rfl
    standing := by
      have hopened := Scope.not_disposed ((Scope.needsRollback_iff s).mp needs).2
      refine List.forall_mem_map.mpr fun q hq => ?_
      have hstanding := Scope.Participant.settled_ne_enlisted (held.owned hopened q hq)
      cases hnow : q.settled.standing with
      | enlisted => exact absurd hnow hstanding
      | committed => exact .inl rfl
      | rolledBack => exact .inr rfl }

end Disposals

/-! ## The law -/

open Session (next after opening)

/-- A disposal was interrupted while the ROLLBACK of a participant was in flight, and the next one runs
without a token. The statement had been sent, and it is not sent again: the next disposal reports the
participant and closes the scope. Where the caller leaves the handles to the scope and the servers accept
what they are sent, that participant is the only one reported. -/
theorem dispose_after_interrupted (names : List String) (commands between : List Command)
    (cancellation : Cancellation) (name : String) (k : Nat)
    (interrupted : (next (.desk (.disposeScope (some cancellation)))
        (after commands (opening names))).1 =
      some (.transaction (.error (.cancelled name k .rollback true))))
    (keeps : ∀ command ∈ between, command.keepsScope = true) :
    let before := after commands (opening names)
    let stopped := (next (.desk (.disposeScope (some cancellation))) before).2
    let resumed := after between stopped
    let last := next (.desk (.disposeScope none)) resumed
    ∃ s front p rest h c,
      Interrupted before.1 stopped.1 name k s front p rest h c ∧
      Abandoned resumed.1 last.2.1 last.1 name k s rest c ∧
      ((∀ command ∈ commands ++ between, command.ended = []) →
        resumed.1.world.AcceptsRollbacks rest → (resumed.1.world.rollbackAll rest).1 = []) := by
  intro before stopped resumed last
  obtain ⟨s, front, p, rest, h, c, hint⟩ :=
    returns_interrupted (Session.held_after names commands) (some cancellation) before.2 interrupted
  have hstopped : stopped.1.scope = some s := hint.scope
  obtain ⟨hscope, hlater⟩ := Session.disposing_after hstopped hint.disposing keeps
  let all : List Command := commands ++ .desk (.disposeScope (some cancellation)) :: between
  have hall : after all (opening names) = resumed := List.foldl_append
  have hheld : Held s resumed.1.world := by
    have hafter := Session.held_after names all s
    rw [hall] at hafter
    exact hafter hscope
  have habandoned := returns_abandoned hheld hscope hint.needs hint.split hint.settled hint.pending
    hint.handle (hlater.stays_ended hint.ended) resumed.2
  rw [hint.name, hheld.index_eq hint.split, hint.place] at habandoned
  refine ⟨s, front, p, rest, h, c, hint, habandoned, fun hspare accepts => ?_⟩
  have hspared : ∀ command ∈ all, command.ended = [] := by
    obtain ⟨hcommands, hbetween⟩ := List.forall_mem_append.mp hspare
    exact List.forall_mem_append.mpr ⟨hcommands, List.forall_mem_cons.mpr ⟨rfl, hbetween⟩⟩
  have hready := Session.ready_after names hspared s
  rw [hall] at hready
  exact (hready hscope).rollbackAll_rest hheld hint.split hint.pending accepts

/-! ## Two connections -/

/-- A scope over two connections, the first of which will see the token fire. -/
def firingFirst : List Command :=
  [.desk (.newScope {}), .desk (.enlist 0 false), .desk (.enlist 1 false), .script 0 [.fireToken]]

/-- The caller tries to complete the scope in between, which is refused. -/
theorem dispose_after_interrupted_first :
    let before := after firingFirst (opening ["orders", "stock"])
    let stopped := (next (.desk (.disposeScope (some .byReplies))) before).2
    let resumed := after [.desk (.complete none)] stopped
    let last := next (.desk (.disposeScope none)) resumed
    (next (.desk (.disposeScope (some .byReplies))) before).1 =
        some (.transaction (.error (.cancelled "orders" 0 .rollback true))) ∧
      (∀ command ∈ [Command.desk (.complete none)], command.keepsScope = true) ∧
      ∃ s front p rest h c,
        Interrupted before.1 stopped.1 "orders" 0 s front p rest h c ∧
        Abandoned resumed.1 last.2.1 last.1 "orders" 0 s rest c ∧
        ((∀ command ∈ firingFirst ++ [.desk (.complete none)], command.ended = []) →
          resumed.1.world.AcceptsRollbacks rest → (resumed.1.world.rollbackAll rest).1 = []) := by
  intro before stopped resumed last
  have keeps : ∀ command ∈ [Command.desk (.complete none)], command.keepsScope = true :=
    List.forall_mem_singleton.mpr rfl
  exact ⟨rfl, keeps, dispose_after_interrupted ["orders", "stock"] firingFirst _ .byReplies "orders" 0
    rfl keeps⟩

/-- Both servers are open and accept whatever they are sent. The next disposal fails all the same, and
the first server has received one ROLLBACK. -/
theorem interrupted_rollback_unsent :
    let stopped := next (.desk (.disposeScope (some .byReplies)))
      (after firingFirst (opening ["orders", "stock"]))
    let last := next (.desk (.disposeScope none)) stopped.2
    stopped.1 = some (.transaction (.error (.cancelled "orders" 0 .rollback true))) ∧
      (∀ connection ∈ stopped.2.1.world.connections,
        connection.server.replies = [] ∧ connection.server.closed = false) ∧
      last.1 = some (.transaction (.error (.rollback
        [⟨"orders", 0, .noActiveTransaction .rollback⟩]))) ∧
      last.2.1.world.received 0 = stopped.2.1.world.received 0 ∧
      last.2.1.world.received 1 = stopped.2.1.world.received 1 ++ ["ROLLBACK"] := by
  refine ⟨rfl, ?_, rfl, rfl, rfl⟩
  decide

end UnitOfWork.Postgres
