import UnitOfWork.Postgres.Session
import UnitOfWork.Proofs.Postgres.Conversation

/-!
# What becomes of a handle

Whatever is done to the connections, a handle that was handed out stays on its connection, and a flag
that was cleared is never set again. `Later` says so of two worlds, together with the handles that may
have been ended in between; each operation on the connections has one lemma about it.

A rollback clears the flag before its statement is sent. So an interrupted rollback has sent its
statement and leaves a handle whose rollback, from then on, fails without sending anything
(`rollbackRacing_interrupted`, `rollback_ended`).
-/

set_option autoImplicit false

namespace UnitOfWork.Postgres

namespace World

/-- The statements that a connection's server has received. -/
def received (w : World) (c : Nat) : List String :=
  ((w.connections[c]?).map fun connection => connection.server.received).getD []

/-- What a later world keeps of an earlier one. -/
structure Later (ended : List Nat) (w w' : World) : Prop where
  /-- No handle is lost or moved, and none becomes active again. -/
  kept : ∀ {h : Nat} {handle : Handle}, w.handles[h]? = some handle →
    ∃ active, w'.handles[h]? = some { handle with active } ∧ (active = true → handle.active = true)
  /-- All but the handles ended meanwhile are as they were. -/
  spared : ∀ {h : Nat} {handle : Handle}, h ∉ ended → w.handles[h]? = some handle →
    w'.handles[h]? = some handle
  received : ∀ c, w.received c <+: w'.received c

section Later

variable {w w' w'' : World} {ended : List Nat} {h c : Nat} {handle : Handle}

theorem Later.refl (ended : List Nat) (w : World) : Later ended w w where
  kept hheld := ⟨_, hheld, id⟩
  spared _ hheld := hheld
  received _ := List.prefix_rfl

/-- What is ended on either of two ways is ended on the whole way, and nothing else. -/
theorem Later.trans (first : Later ended w w') (second : Later ended w' w'') :
    Later ended w w'' where
  kept hheld := by
    obtain ⟨_, hnow, hback⟩ := first.kept hheld
    obtain ⟨active, hthen, hback'⟩ := second.kept hnow
    exact ⟨active, hthen, hback ∘ hback'⟩
  spared hspared hheld := second.spared hspared (first.spared hspared hheld)
  received c := (first.received c).trans (second.received c)

/-- More handles may be counted as ended than were. -/
theorem Later.mono {more : List Nat} (later : Later ended w w') (hmore : ∀ h ∈ ended, h ∈ more) :
    Later more w w' where
  kept := later.kept
  spared hspared := later.spared (hspared ∘ hmore _)
  received := later.received

/-- Two ways after one another end what either ends. -/
theorem Later.append {first second : List Nat} (earlier : Later first w w')
    (later : Later second w' w'') : Later (first ++ second) w w'' :=
  (earlier.mono fun _ => List.mem_append_left _).trans (later.mono fun _ => List.mem_append_right _)

/-- A handle without an active transaction never has one again. -/
theorem Later.stays_ended (later : Later ended w w')
    (hheld : w.handles[h]? = some { connection := c, active := false }) :
    w'.handles[h]? = some { connection := c, active := false } := by
  obtain ⟨active, hthen, hback⟩ := later.kept hheld
  cases active with
  | false => exact hthen
  | true => cases hback rfl

/-- A transaction that a handle has later, it had before. -/
theorem Later.active_before (later : Later ended w w') (hknown : h < w.handles.length)
    (hactive : w'.handles[h]? = some { connection := c }) :
    w.handles[h]? = some { connection := c } := by
  obtain ⟨⟨d, before⟩, hheld⟩ : ∃ handle, w.handles[h]? = some handle :=
    ⟨_, List.getElem?_eq_getElem hknown⟩
  obtain ⟨active, hthen, hback⟩ := later.kept hheld
  cases hactive.symm.trans hthen
  cases hback rfl
  exact hheld

/-- Where the handles are the same, nothing was ended. -/
theorem later_of_handles (hhandles : w'.handles = w.handles)
    (hreceived : ∀ c, w.received c <+: w'.received c) : Later ended w w' where
  kept hheld := ⟨_, hhandles ▸ hheld, id⟩
  spared _ hheld := hhandles ▸ hheld
  received := hreceived

end Later

/-! ## Statements -/

section Send

variable {w : World} {ended : List Nat} {h c : Nat} {statement : String}

/-- A server keeps what it received, and adds the statement that it is sent, if that arrives. -/
theorem received_send (server : Server) (statement : String) :
    (server.send statement).server.received =
      server.received ++ if server.takes statement then [statement] else [] := by
  cases htakes : server.takes statement with
  | false =>
    obtain ⟨-, -, hserver⟩ := send_of_not_takes htakes
    simp only [hserver, Bool.false_eq_true, if_false, List.append_nil]
  | true =>
    obtain ⟨hsendable, hopen⟩ := takes_iff.mp htakes
    simp only [Server.send, hsendable, hopen, Bool.false_eq_true, if_false, if_true]
    cases server.replies.head?.getD .accept <;> rfl

/-- Nothing is sent without a connection, and that is an error. -/
theorem send_unconnected (unconnected : w.connections[c]? = none) :
    w.send c statement = ((.error connectionLost, false), w) := by
  simp only [send, unconnected]

/-- A statement that is sent changes the server at its own connection, and no other. -/
theorem send_connected {connection : Connection} (connected : w.connections[c]? = some connection) :
    w.send c statement =
      (((connection.server.send statement).outcome, (connection.server.send statement).fired),
        { w with
          connections :=
            w.connections.set c { connection with server := (connection.server.send statement).server }
          tokenFired := w.tokenFired || (connection.server.send statement).fired }) := by
  simp only [send, connected]

/-- Sending a statement touches no handle. -/
theorem handles_send : (w.send c statement).2.handles = w.handles := by
  cases connected : w.connections[c]? with
  | none => rw [send_unconnected connected]
  | some connection => rw [send_connected connected]

/-- What arrives on a connection, its server adds to what it received. -/
theorem received_send_self {connection : Connection}
    (connected : w.connections[c]? = some connection) :
    (w.send c statement).2.received c =
      w.received c ++ if connection.server.takes statement then [statement] else [] := by
  obtain ⟨hlt, -⟩ := List.getElem?_eq_some_iff.mp connected
  simp only [send_connected connected, received, connected, List.getElem?_set_self hlt,
    Option.map_some, Option.getD_some, received_send]

/-- A server hears nothing of what is sent to another one. -/
theorem received_send_ne {d : Nat} (hd : c ≠ d) :
    (w.send c statement).2.received d = w.received d := by
  cases connected : w.connections[c]? with
  | none => rw [send_unconnected connected]
  | some connection =>
    rw [send_connected connected]
    simp only [received, List.getElem?_set_ne hd]

/-- A statement that is sent ends no handle, whatever it says. -/
theorem later_send : Later ended w (w.send c statement).2 := by
  refine later_of_handles handles_send fun d => ?_
  by_cases hd : c = d
  · subst hd
    cases connected : w.connections[c]? with
    | none => simp only [send_unconnected connected, List.prefix_rfl]
    | some connection =>
      rw [received_send_self connected]
      exact List.prefix_append ..
  · simp only [received_send_ne hd, List.prefix_rfl]

theorem later_execute : Later ended w (w.execute c statement).2 := later_send

/-- Whether a handle is active is nothing to a statement. -/
theorem send_setActive (active : Bool) : (w.setActive h active).send c statement =
    ((w.send c statement).1, (w.send c statement).2.setActive h active) := by
  have hconnections : (w.setActive h active).connections = w.connections := rfl
  cases connected : w.connections[c]? with
  | none => rw [send_unconnected connected, send_unconnected (hconnections ▸ connected)]
  | some connection =>
    rw [send_connected connected, send_connected (hconnections ▸ connected)]
    rfl

/-- A handle's flag is set, and it stays on its connection. -/
theorem handles_setActive {active : Bool} {handle : Handle} (hheld : w.handles[h]? = some handle) :
    (w.setActive h active).handles[h]? = some { handle with active } := by
  simp only [setActive, List.getElem?_modify_eq, hheld]
  rfl

/-- Clearing a flag ends that handle alone. -/
theorem later_setActive : Later [h] w (w.setActive h false) where
  kept {i handle} hheld := by
    by_cases hi : h = i
    · subst hi
      exact ⟨false, handles_setActive hheld, fun hfalse => by cases hfalse⟩
    · refine ⟨handle.active, ?_, id⟩
      rw [← hheld]
      exact List.getElem?_modify_ne _ _ hi
  spared {i handle} hspared hheld := by
    have hi : h ≠ i := fun hi => hspared (hi ▸ List.mem_singleton_self h)
    rw [← hheld]
    exact List.getElem?_modify_ne _ _ hi
  received _ := List.prefix_rfl

end Send

/-! ## Transactions -/

section Transactions

variable {w : World} {ended : List Nat} {h c : Nat} {level : IsolationLevel}

/-- An active handle is one that was handed out and whose flag is set. -/
theorem activeHandle_eq_some_iff {handle : Handle} :
    w.activeHandle? h = some handle ↔ w.handles[h]? = some handle ∧ handle.active = true :=
  Option.filter_eq_some_iff

/-- A transaction that begins has the next handle. -/
theorem begin_ok {w' : World} (begun : w.begin c level = (.ok h, w')) :
    h = w.handles.length ∧ w'.handles = w.handles ++ [{ connection := c }] := by
  unfold World.begin at begun
  split at begun
  · cases begun
  · next after hsent =>
    have hhandles : (w.execute c (beginStatement level)).2.handles = w.handles := handles_execute
    rw [hsent] at hhandles
    cases begun
    exact ⟨congrArg List.length hhandles, congrArg (· ++ [{ connection := c }]) hhandles⟩

/-- A new handle takes no other's place. -/
theorem later_handOut (new : Handle) :
    Later ended w { w with handles := w.handles ++ [new] } := by
  have hstays {i : Nat} {handle : Handle} (hheld : w.handles[i]? = some handle) :
      (w.handles ++ [new])[i]? = some handle := by
    obtain ⟨hlt, -⟩ := List.getElem?_eq_some_iff.mp hheld
    rw [List.getElem?_append_left hlt, hheld]
  exact ⟨fun hheld => ⟨_, hstays hheld, id⟩, fun _ hheld => hstays hheld, fun _ => List.prefix_rfl⟩

/-- A begin ends no handle: it adds one or fails. -/
theorem later_begin : Later ended w (w.begin c level).2 := by
  unfold World.begin
  have hsent : Later ended w (w.execute c (beginStatement level)).2 := later_execute
  split
  · next heq => rwa [heq] at hsent
  · next heq =>
    rw [heq] at hsent
    exact hsent.trans (later_handOut _)

/-- A commit ends no other handle than its own. -/
theorem later_commit : Later [h] w (w.commit h).2 := by
  unfold World.commit
  split
  · exact .refl _ w
  · next handle _ =>
    have hsent : Later [h] w (w.execute handle.connection "COMMIT").2 := later_execute
    split
    · next heq => rwa [heq] at hsent
    · next heq =>
      rw [heq] at hsent
      exact hsent.trans later_setActive

/-- Nor does a commit that a token may interrupt. -/
theorem later_commitRacing : Later [h] w (w.commitRacing h).2 := by
  unfold commitRacing
  split
  · exact .refl _ w
  · next handle _ =>
    have hsent : Later [h] w (w.send handle.connection "COMMIT").2 := later_send
    split
    · next heq =>
      rw [heq] at hsent
      exact hsent.trans later_setActive
    · next heq => rwa [heq] at hsent

/-- Without an active transaction a rollback fails and sends nothing. -/
theorem rollback_of_inactive (hidle : w.activeHandle? h = none) :
    w.rollback h = (.error (.noActiveTransaction .rollback), w) := by
  simp only [rollback, hidle]

/-- The rollback of an ended handle fails and sends nothing. -/
theorem rollback_ended (hheld : w.handles[h]? = some { connection := c, active := false }) :
    w.rollback h = (.error (.noActiveTransaction .rollback), w) := by
  refine rollback_of_inactive ?_
  rw [activeHandle?, hheld]
  rfl

/-- A rollback sends its statement and clears the flag, whatever the answer is. -/
theorem rollback_of_active {handle : Handle} (hactive : w.activeHandle? h = some handle) :
    w.rollback h =
      (((w.execute handle.connection "ROLLBACK").1).mapError .driver,
        (w.execute handle.connection "ROLLBACK").2.setActive h false) := by
  simp only [rollback, hactive, execute, send_setActive]

/-- A rollback ends no other handle than its own. -/
theorem later_rollback : Later [h] w (w.rollback h).2 := by
  cases hactive : w.activeHandle? h with
  | none =>
    rw [rollback_of_inactive hactive]
    exact .refl _ w
  | some handle =>
    rw [rollback_of_active hactive]
    exact later_execute.trans later_setActive

theorem rollbackRacing_of_inactive (hidle : w.activeHandle? h = none) :
    w.rollbackRacing h = (.finished (.error (.noActiveTransaction .rollback)), w) := by
  simp only [rollbackRacing, hidle]

/-- A rollback under a token clears the flag before its statement is answered. -/
theorem rollbackRacing_of_active {handle : Handle} (hactive : w.activeHandle? h = some handle) :
    w.rollbackRacing h =
      (raced (w.send handle.connection "ROLLBACK").1.1 (w.send handle.connection "ROLLBACK").1.2,
        (w.send handle.connection "ROLLBACK").2.setActive h false) := by
  simp only [rollbackRacing, hactive, send_setActive]

/-- A rollback that a token may interrupt ends no other handle than its own. -/
theorem later_rollbackRacing : Later [h] w (w.rollbackRacing h).2 := by
  cases hactive : w.activeHandle? h with
  | none =>
    rw [rollbackRacing_of_inactive hactive]
    exact .refl _ w
  | some handle =>
    rw [rollbackRacing_of_active hactive]
    exact later_send.trans later_setActive

/-- A token can fire in flight only while a statement is in flight. -/
theorem takes_of_fired {server : Server} {statement : String}
    (fired : (server.send statement).fired = true) : server.takes statement = true := by
  unfold Server.send at fired
  split at fired
  · cases fired
  · next hsendable =>
    split at fired
    · cases fired
    · next hopen => exact takes_iff.mpr ⟨Bool.not_eq_true _ ▸ hsendable, Bool.not_eq_true _ ▸ hopen⟩

/-- A rollback that was interrupted has sent its statement, and leaves its handle ended. -/
theorem rollbackRacing_interrupted (interrupted : (w.rollbackRacing h).1 = .interrupted) :
    ∃ c, w.handles[h]? = some { connection := c } ∧
      (w.rollbackRacing h).2.handles[h]? = some { connection := c, active := false } ∧
      (w.rollbackRacing h).2.received c = w.received c ++ ["ROLLBACK"] := by
  cases hactive : w.activeHandle? h with
  | none =>
    rw [rollbackRacing_of_inactive hactive] at interrupted
    cases interrupted
  | some handle =>
    rw [rollbackRacing_of_active hactive] at interrupted ⊢
    obtain ⟨hheld, htrue⟩ := activeHandle_eq_some_iff.mp hactive
    obtain ⟨c, active⟩ := handle
    cases htrue
    refine ⟨c, hheld, handles_setActive (handles_send ▸ hheld), ?_⟩
    change (w.send c "ROLLBACK").2.received c = _
    cases connected : w.connections[c]? with
    | none =>
      simp only [send_unconnected connected, raced, Bool.false_eq_true, if_false] at interrupted
      cases interrupted
    | some connection =>
      have hfired : (connection.server.send "ROLLBACK").fired = true := by
        simp only [send_connected connected, raced] at interrupted
        split at interrupted
        · assumption
        · cases interrupted
      rw [received_send_self connected, takes_of_fired hfired, if_pos rfl]

end Transactions

/-- Another token changes neither handles nor connections. -/
theorem later_of_token {w w' : World} {ended : List Nat} (hhandles : w'.handles = w.handles)
    (hconnections : w'.connections = w.connections) : Later ended w w' := by
  refine later_of_handles hhandles fun c => ?_
  simp only [World.received, hconnections, List.prefix_rfl]

/-- Nor do the replies that a server has ready. -/
theorem later_queue {w : World} (c : Nat) (replies : List Reply) :
    Later [] w (Session.queue w c replies) := by
  refine later_of_handles rfl fun d => ?_
  simp only [received, Session.queue, List.getElem?_modify]
  split <;> cases w.connections[d]? <;> exact List.prefix_rfl

end World

end UnitOfWork.Postgres
