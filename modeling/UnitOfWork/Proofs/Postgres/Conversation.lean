import UnitOfWork.Postgres.Participant

/-!
# What becomes of a transaction on its server

A caller talks to a connection while a transaction is open on it. Each statement that arrives is
accepted or refused by the server, and the server decides by the state of the transaction. PostgreSQL
fails an open transaction when it refuses a statement of it; a failed transaction takes nothing but its
end and the return to a savepoint, and its end is a rollback, whichever statement asked for it. COMMIT
of a failed transaction is therefore accepted, and rolls back.

`Fate` is the transaction as its server sees it. How PostgreSQL reads a statement is a parameter of
everything below. The main lemma is `Conversation.fate_eq`: as long as the connection is not lost, the
caller can tell the fate from the outcomes it was given.

Prepared transactions and `AND CHAIN` are left out.
-/

set_option autoImplicit false

namespace UnitOfWork.Postgres

/-! ## The transaction on the server -/

/-- What a statement asks of the open transaction. -/
inductive Control where
  | begin
  | commit
  | rollback
  /-- Return to a savepoint. -/
  | restore
  /-- Everything else. -/
  | work
deriving DecidableEq, Repr

/-- What has become of a transaction, with the statements that it is made of. -/
inductive Fate where
  | running (work : List String)
  | failed (work : List String)
  /-- Committed: what these statements changed is durable. -/
  | committed (work : List String)
  | rolledBack
deriving DecidableEq, Repr

namespace Fate

/-- The fate after a statement is accepted, unless PostgreSQL accepts no such statement. A BEGIN inside
a transaction is accepted with a warning; what happens after the end is another transaction's. -/
def accept? : Fate → Control → String → Option Fate
  | .running work, .begin, _ => some (.running work)
  | .running work, .commit, _ => some (.committed work)
  | .running _, .rollback, _ => some .rolledBack
  | .running work, .restore, statement => some (.running (work ++ [statement]))
  | .running work, .work, statement => some (.running (work ++ [statement]))
  | .failed _, .begin, _ => none
  | .failed _, .commit, _ => some .rolledBack
  | .failed _, .rollback, _ => some .rolledBack
  | .failed work, .restore, statement => some (.running (work ++ [statement]))
  | .failed _, .work, _ => none
  | .committed work, _, _ => some (.committed work)
  | .rolledBack, _, _ => some .rolledBack

/-- The fate after a statement is refused. A COMMIT that is refused has rolled back. -/
def refuse : Fate → Control → Fate
  | .running _, .commit => .rolledBack
  | .running work, _ => .failed work
  | fate, _ => fate

end Fate

/-- Whether a reply accepts its statement. -/
def Reply.accepts : Reply → Bool
  | .accept => true
  | .fireToken => true
  | .fail _ => false
  | .close => false

namespace Server

/-- Whether a statement arrives at all. -/
def takes (server : Server) (statement : String) : Bool :=
  !statement.toList.contains '\x00' && !server.closed

/-- The reply to the next statement that arrives. -/
def reply (server : Server) : Reply := server.replies.head?.getD .accept

end Server

section Reading

variable (reads : String → Control)

/-- What a reply makes of a transaction. When the connection is lost nothing is said: the statement
may have been carried out before. -/
inductive Answered (statement : String) (fate : Fate) : Reply → Fate → Prop where
  | accepted {reply : Reply} {after : Fate} (accepts : reply.accepts = true)
      (possible : fate.accept? (reads statement) statement = some after) :
      Answered statement fate reply after
  | refused (state : String) :
      Answered statement fate (.fail state) (fate.refuse (reads statement))
  | lost (after : Fate) : Answered statement fate .close after

/-- What becomes of a transaction when a statement is sent on its connection. -/
inductive Hears (w : World) (c : Nat) (statement : String) (fate : Fate) : Fate → Prop where
  | arrived {connection : Connection} {after : Fate} (connected : w.connections[c]? = some connection)
      (takes : connection.server.takes statement = true)
      (answered : Answered reads statement fate connection.server.reply after) :
      Hears w c statement fate after
  | unsent (keeps : ∀ connection, w.connections[c]? = some connection →
      connection.server.takes statement = false) : Hears w c statement fate fate

/-- A statement, and the outcome that the caller was given. -/
abbrev Exchange := String × Except Driver.Fault Unit

/-- What a caller says on a connection while a handle to its transaction is held. In between the world
may change in any way that touches neither the connection nor the handle. -/
inductive Conversation (c h : Nat) : World → Fate → List Exchange → World → Fate → Prop where
  | done (w : World) (fate : Fate) : Conversation c h w fate [] w fate
  | spoke {w w' : World} {fate fate' fate'' : Fate} {statement : String} {rest : List Exchange}
      (heard : Hears reads w c statement fate fate')
      (next : Conversation c h (w.execute c statement).2 fate' rest w' fate'') :
      Conversation c h w fate ((statement, (w.execute c statement).1) :: rest) w' fate''
  | elsewhere {w w₁ w' : World} {fate fate' : Fate} {rest : List Exchange}
      (connection : w₁.connections[c]? = w.connections[c]?)
      (handle : w₁.handles[h]? = w.handles[h]?)
      (next : Conversation c h w₁ fate rest w' fate') : Conversation c h w fate rest w' fate'

end Reading

/-! ## What the caller can tell -/

/-- Whether an outcome is a refusal by the server, which has a SQLSTATE; a statement that does not
arrive fails without one. -/
def refused : Except Driver.Fault Unit → Bool
  | .error (.postgres (some _) _) => true
  | _ => false

/-- The statements that were accepted. -/
def accepted (transcript : List Exchange) : List String :=
  (transcript.filter fun said => said.2.isOk).map Prod.fst

/-- The fate after a statement, told from its outcome. -/
def Fate.hear (reads : String → Control) (fate : Fate) (said : Exchange) : Fate :=
  if said.2.isOk then (fate.accept? (reads said.1) said.1).getD fate
  else if refused said.2 then fate.refuse (reads said.1)
  else fate

/-- A connection that is not lost. -/
def World.IsOpen (w : World) (c : Nat) : Prop :=
  ∃ connection, w.connections[c]? = some connection ∧ connection.server.closed = false

section Send

variable {w : World} {c : Nat} {statement : String} {connection : Connection} {server : Server}

/-- A statement arrives unless its text cannot be sent or the connection is closed. -/
theorem takes_iff : server.takes statement = true ↔
    statement.toList.contains '\x00' = false ∧ server.closed = false := by
  simp only [Server.takes, Bool.and_eq_true, Bool.not_eq_true']

/-- A statement that does not arrive fails without a SQLSTATE and changes nothing. -/
theorem send_of_not_takes (h : server.takes statement = false) :
    ∃ text, (server.send statement).outcome = .error (.postgres none text) ∧
      (server.send statement).server = server := by
  unfold Server.send
  split
  · exact ⟨_, rfl, rfl⟩
  · next hsendable =>
    split
    · exact ⟨_, rfl, rfl⟩
    · next hopen =>
      have htakes := takes_iff.mpr ⟨Bool.not_eq_true _ ▸ hsendable, Bool.not_eq_true _ ▸ hopen⟩
      cases h.symm.trans htakes

/-- A statement that arrives is answered by the next reply, which may be the end of the connection. -/
theorem send_of_takes (h : server.takes statement = true) :
    match server.reply with
    | .accept => (server.send statement).outcome = .ok ()
    | .fireToken => (server.send statement).outcome = .ok ()
    | .fail state => (server.send statement).outcome = .error (.postgres (some state) "db error")
    | .close => (server.send statement).outcome = .error connectionLost ∧
        (server.send statement).server.closed = true := by
  obtain ⟨hsendable, hclosed⟩ := takes_iff.mp h
  unfold Server.send Server.reply
  rw [hsendable, hclosed]
  cases server.replies.head?.getD .accept with
  | accept => rfl
  | fireToken => rfl
  | fail state => rfl
  | close => exact ⟨rfl, rfl⟩

/-- A statement that arrives is answered without error if the next reply accepts it. -/
theorem send_ok (takes : server.takes statement = true) (accepts : server.reply.accepts = true) :
    (server.send statement).outcome = .ok () := by
  have hsent := send_of_takes takes
  cases hreply : server.reply <;> simp_all [Reply.accepts]

/-- What is closed stays closed. -/
theorem send_closed (h : server.closed = true) : (server.send statement).server.closed = true := by
  have htakes : server.takes statement = false := by simp [Server.takes, h]
  obtain ⟨-, -, hserver⟩ := send_of_not_takes htakes
  rw [hserver, h]

/-- What a statement comes to is what the server of its connection answers. -/
theorem execute_connected (connected : w.connections[c]? = some connection) :
    (w.execute c statement).1 = (connection.server.send statement).outcome := by
  simp only [World.execute, World.send, connected]

theorem connections_execute (connected : w.connections[c]? = some connection) :
    (w.execute c statement).2.connections[c]? =
      some { connection with server := (connection.server.send statement).server } := by
  obtain ⟨hlt, -⟩ := List.getElem?_eq_some_iff.mp connected
  simp only [World.execute, World.send, connected, List.getElem?_set_self hlt]

theorem execute_unconnected (unconnected : w.connections[c]? = none) :
    w.execute c statement = (.error connectionLost, w) := by
  simp only [World.execute, World.send, unconnected]

/-- No statement touches a handle. -/
theorem handles_execute : (w.execute c statement).2.handles = w.handles := by
  cases connected : w.connections[c]? with
  | none => rw [execute_unconnected connected]
  | some connection => simp only [World.execute, World.send, connected]

/-- A connection that is open after a statement was open before it. -/
theorem isOpen_of_execute (h : (w.execute c statement).2.IsOpen c) : w.IsOpen c := by
  obtain ⟨after, hafter, hopen⟩ := h
  cases connected : w.connections[c]? with
  | none =>
    rw [execute_unconnected connected] at hafter
    cases connected.symm.trans hafter
  | some connection =>
    refine ⟨connection, connected, ?_⟩
    cases (connections_execute connected).symm.trans hafter
    cases hclosed : connection.server.closed with
    | false => rfl
    | true => cases (send_closed hclosed).symm.trans hopen

end Send

section Conversation

variable {reads : String → Control} {w w' : World} {c h : Nat} {statement : String}
  {fate after : Fate} {transcript : List Exchange}

/-- A statement that did not arrive fails without a SQLSTATE. -/
theorem execute_unsent (keeps : ∀ connection, w.connections[c]? = some connection →
    connection.server.takes statement = false) :
    ∃ text, (w.execute c statement).1 = .error (.postgres none text) := by
  cases connected : w.connections[c]? with
  | none => exact ⟨_, congrArg Prod.fst (execute_unconnected connected)⟩
  | some connection =>
    obtain ⟨text, houtcome, -⟩ := send_of_not_takes (keeps connection connected)
    exact ⟨text, (execute_connected connected).trans houtcome⟩

/-- A connection that accepted a statement is open. -/
theorem isOpen_of_ok (hok : (w.execute c statement).1 = .ok ()) : w.IsOpen c := by
  by_cases hopen : w.IsOpen c
  · exact hopen
  · have keeps : ∀ connection, w.connections[c]? = some connection →
        connection.server.takes statement = false := by
      intro connection connected
      cases hclosed : connection.server.closed with
      | false => exact absurd ⟨connection, connected, hclosed⟩ hopen
      | true => simp only [Server.takes, hclosed, Bool.not_true, Bool.and_false]
    obtain ⟨text, houtcome⟩ := execute_unsent keeps
    cases hok.symm.trans houtcome

/-- A statement whose outcome is a success was accepted by the server. -/
theorem Hears.possible (heard : Hears reads w c statement fate after)
    (hok : (w.execute c statement).1 = .ok ()) :
    fate.accept? (reads statement) statement = some after := by
  cases heard with
  | unsent keeps =>
    obtain ⟨text, houtcome⟩ := execute_unsent keeps
    cases hok.symm.trans houtcome
  | arrived connected takes answered =>
    rw [execute_connected connected] at hok
    have hsent := send_of_takes takes
    generalize Server.reply _ = reply at answered hsent
    cases answered with
    | accepted accepts possible => exact possible
    | refused state => cases hok.symm.trans hsent
    | lost => cases hok.symm.trans hsent.1

/-- As long as the connection is not lost, one outcome tells what became of the transaction. -/
theorem Hears.fate_eq (heard : Hears reads w c statement fate after)
    (hopen : (w.execute c statement).2.IsOpen c) :
    after = fate.hear reads (statement, (w.execute c statement).1) := by
  cases heard with
  | unsent keeps =>
    obtain ⟨text, houtcome⟩ := execute_unsent keeps
    rw [houtcome]
    rfl
  | @arrived connection _ connected takes answered =>
    have hsent := send_of_takes takes
    generalize hreply : Server.reply _ = reply at answered hsent
    cases answered with
    | accepted accepts possible =>
      have hok := send_ok takes (hreply ▸ accepts)
      rw [execute_connected connected, hok]
      change after = (fate.accept? (reads statement) statement).getD fate
      rw [possible, Option.getD_some]
    | refused state =>
      rw [execute_connected connected, hsent]
      rfl
    | lost =>
      obtain ⟨kept, hkept, hnot⟩ := hopen
      cases (connections_execute connected).symm.trans hkept
      cases hsent.2.symm.trans hnot

/-- What a caller was told is all there is to know: while the connection is not lost, the outcomes
decide what has become of the transaction. -/
theorem Conversation.fate_eq (talk : Conversation reads c h w fate transcript w' after)
    (hopen : w'.IsOpen c) :
    w.IsOpen c ∧ after = transcript.foldl (Fate.hear reads) fate := by
  -- Only the last world is known to be open, so each step hands that back to the world before it.
  induction talk with
  | done => exact ⟨hopen, rfl⟩
  | spoke heard next ih =>
    obtain ⟨hnow, hafter⟩ := ih hopen
    refine ⟨isOpen_of_execute hnow, ?_⟩
    rw [hafter, List.foldl_cons, heard.fate_eq hnow]
  | @elsewhere before _ _ _ _ _ connection _ next ih =>
    obtain ⟨⟨kept, hkept, hnot⟩, hafter⟩ := ih hopen
    exact ⟨⟨kept, connection ▸ hkept, hnot⟩, hafter⟩

/-- A conversation leaves the handle alone. -/
theorem Conversation.handle_eq (talk : Conversation reads c h w fate transcript w' after) :
    w'.handles[h]? = w.handles[h]? := by
  induction talk with
  | done => rfl
  | spoke _ next ih => rw [ih, handles_execute]
  | elsewhere _ handle next ih => rw [ih, handle]

end Conversation

/-! ## Statements that leave the end to the handle -/

section Plain

variable {reads : String → Control} {transcript : List Exchange}

/-- The accepted statements of an exchange and of what follows it. -/
theorem accepted_cons (said : Exchange) (rest : List Exchange) :
    accepted (said :: rest) = accepted [said] ++ accepted rest := by
  rw [accepted, ← List.singleton_append, List.filter_append, List.map_append]
  rfl

/-- A refusal fails a running transaction; an accepted statement becomes part of it. -/
theorem hear_running {said : Exchange} (hsaid : reads said.1 = .work) (work : List String) :
    Fate.hear reads (.running work) said =
      if refused said.2 then .failed work else .running (work ++ accepted [said]) := by
  obtain ⟨statement, outcome⟩ := said
  change reads statement = .work at hsaid
  cases outcome with
  | ok => simp [Fate.hear, Fate.accept?, refused, accepted, hsaid, Except.isOk, Except.toBool]
  | error fault =>
    cases hrefused : refused (.error fault) <;>
      simp [Fate.hear, Fate.refuse, accepted, hsaid, hrefused, Except.isOk, Except.toBool]

/-- A failed transaction that is given no chance to recover stays failed. -/
theorem hear_all_failed (plain : ∀ said ∈ transcript, reads said.1 = .work) (work : List String) :
    transcript.foldl (Fate.hear reads) (.failed work) = .failed work := by
  induction transcript with
  | nil => rfl
  | cons said rest ih =>
    obtain ⟨hsaid, hrest⟩ := List.forall_mem_cons.mp plain
    have hstays : Fate.hear reads (.failed work) said = .failed work := by
      simp [Fate.hear, hsaid, Fate.accept?, Fate.refuse]
    rw [List.foldl_cons, hstays, ih hrest]

/-- While nothing is refused a transaction runs on. -/
theorem hear_all_running (plain : ∀ said ∈ transcript, reads said.1 = .work)
    (unrefused : ∀ said ∈ transcript, refused said.2 = false) (work : List String) :
    transcript.foldl (Fate.hear reads) (.running work) = .running (work ++ accepted transcript) := by
  induction transcript generalizing work with
  | nil => exact congrArg Fate.running (List.append_nil work).symm
  | cons said rest ih =>
    obtain ⟨hsaid, hrest⟩ := List.forall_mem_cons.mp plain
    obtain ⟨hfirst, hothers⟩ := List.forall_mem_cons.mp unrefused
    rw [List.foldl_cons, hear_running hsaid, hfirst, if_neg Bool.false_ne_true, ih hrest hothers,
      accepted_cons said rest, List.append_assoc]

/-- One refusal is enough for a transaction to have failed. -/
theorem hear_refused (plain : ∀ said ∈ transcript, reads said.1 = .work) {said : Exchange}
    (hmem : said ∈ transcript) (hrefused : refused said.2 = true) (work : List String) :
    ∃ done, transcript.foldl (Fate.hear reads) (.running work) = .failed done := by
  induction transcript generalizing work with
  | nil => cases hmem
  | cons first rest ih =>
    obtain ⟨hfirst, hrest⟩ := List.forall_mem_cons.mp plain
    rw [List.foldl_cons, hear_running hfirst]
    cases hnow : refused first.2 with
    | true => exact ⟨work, hear_all_failed hrest work⟩
    | false =>
      obtain rfl | hlater := List.mem_cons.mp hmem
      · cases hrefused.symm.trans hnow
      · exact ih hrest hlater _

end Plain

end UnitOfWork.Postgres
