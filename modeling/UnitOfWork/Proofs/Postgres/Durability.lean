import UnitOfWork.Proofs.Postgres.Conversation

/-!
# What a commit that succeeded is worth

A handle takes a COMMIT that the server accepted for a commit. The server also accepts the COMMIT of a
transaction that has failed, and rolls it back. `commit_ok_fate` says what has become of a transaction
whose commit succeeded: it is durable when nothing of it was refused, and rolled back as soon as one
statement was, unless the caller returned to a savepoint. `commit_ok_after_refusal` is the smallest case
in which a handle and the scope above it report what the server has rolled back as committed.
-/

set_option autoImplicit false

namespace UnitOfWork.Postgres

namespace World

/-- The commit of a handle succeeds, under a token or without. -/
def Commits (w : World) (h : Nat) : Prop :=
  (w.commit h).1 = .ok () ∨ (w.commitRacing h).1 = .finished (.ok ())

variable {w : World} {h c : Nat}

theorem activeHandle_held (held : w.handles[h]? = some { connection := c }) :
    w.activeHandle? h = some { connection := c } := by
  rw [activeHandle?, held]
  rfl

/-- A commit that succeeds has sent a COMMIT that was accepted. -/
theorem Commits.execute_ok (held : w.handles[h]? = some { connection := c })
    (commits : w.Commits h) : (w.execute c "COMMIT").1 = .ok () := by
  rcases hsent : w.send c "COMMIT" with ⟨⟨outcome, fired⟩, after⟩
  simp only [Commits, commit, commitRacing, activeHandle_held held, execute, hsent] at commits ⊢
  cases outcome with
  | ok => rfl
  | error fault =>
    obtain hplain | hracing := commits
    · cases hplain
    · cases fired <;> cases hracing

end World

section Commit

variable {reads : String → Control} {w w₁ : World} {c h : Nat} {level : IsolationLevel}
  {fate after : Fate}

/-- The handle of a transaction that was begun is active, on its connection. -/
theorem held_of_begin (begun : w.begin c level = (.ok h, w₁)) :
    w₁.handles[h]? = some { connection := c } := by
  unfold World.begin at begun
  split at begun
  · cases begun
  · cases begun
    simp

/-- An accepted COMMIT commits what is running. -/
theorem committed_iff (possible : fate.accept? .commit "COMMIT" = some after) (work : List String) :
    after = .committed work ↔ fate = .running work ∨ fate = .committed work := by
  cases fate <;> simp only [Fate.accept?, Option.some.injEq] at possible <;> subst possible <;> simp

/-- An accepted COMMIT rolls back what has failed. -/
theorem rolledBack_iff (possible : fate.accept? .commit "COMMIT" = some after) :
    after = .rolledBack ↔ (∃ work, fate = .failed work) ∨ fate = .rolledBack := by
  cases fate <;> simp only [Fate.accept?, Option.some.injEq] at possible <;> subst possible <;> simp

/-- What has become of a transaction whose commit succeeded, told from what its caller was told. It is
committed when it was running at the time, or when the caller had committed it before, and rolled back
when it had failed, or when the caller had rolled it back. A caller who left its end to the handle
finds everything committed when nothing was refused, and nothing when one statement was. -/
theorem commit_ok_fate (hreads : reads "COMMIT" = .commit) {w₂ : World} {transcript : List Exchange}
    (begun : w.begin c level = (.ok h, w₁))
    (talk : Conversation reads c h w₁ (.running []) transcript w₂ fate)
    (commits : w₂.Commits h) (heard : Hears reads w₂ c "COMMIT" fate after) :
    let told := transcript.foldl (Fate.hear reads) (.running [])
    (∀ work, after = .committed work ↔ told = .running work ∨ told = .committed work) ∧
    (after = .rolledBack ↔ (∃ work, told = .failed work) ∨ told = .rolledBack) ∧
    ((∀ said ∈ transcript, reads said.1 = .work) →
      ((∀ said ∈ transcript, refused said.2 = false) ↔ after = .committed (accepted transcript)) ∧
      ((∃ said ∈ transcript, refused said.2 = true) ↔ after = .rolledBack)) := by
  intro told
  have hheld : w₂.handles[h]? = some { connection := c } :=
    talk.handle_eq.trans (held_of_begin begun)
  have hok := commits.execute_ok hheld
  have hpossible := heard.possible hok
  rw [hreads] at hpossible
  obtain ⟨-, htold⟩ := talk.fate_eq (isOpen_of_ok hok)
  change fate = told at htold
  rw [htold] at hpossible
  refine ⟨committed_iff hpossible, rolledBack_iff hpossible, fun plain => ?_⟩
  by_cases hrefused : ∃ said ∈ transcript, refused said.2 = true
  · obtain ⟨said, hmem, hsaid⟩ := hrefused
    obtain ⟨work, hfailed⟩ := hear_refused plain hmem hsaid []
    have hafter := (rolledBack_iff hpossible).mpr (.inl ⟨work, hfailed⟩)
    refine ⟨⟨fun hnone => ?_, fun hcommitted => ?_⟩, fun _ => hafter, fun _ => ⟨said, hmem, hsaid⟩⟩
    · cases hsaid.symm.trans (hnone said hmem)
    · cases hafter.symm.trans hcommitted
  · have hnone : ∀ said ∈ transcript, refused said.2 = false := by
      intro said hmem
      cases hsaid : refused said.2 with
      | false => rfl
      | true => exact absurd ⟨said, hmem, hsaid⟩ hrefused
    have hafter := (committed_iff hpossible _).mpr (.inl (hear_all_running plain hnone []))
    refine ⟨⟨fun _ => hafter, fun _ => hnone⟩, fun h => absurd h hrefused, fun hrolled => ?_⟩
    cases hafter.symm.trans hrolled

end Commit

/-! ## Two runs -/

/-- Reads the statements that a handle sends, and takes every other one for work. -/
def readOwn (statement : String) : Control :=
  if statement = "COMMIT" then .commit
  else if statement = "ROLLBACK" then .rollback
  else if IsolationLevel.all.any (statement == beginStatement ·) then .begin
  else .work

/-- A connection whose server accepts a BEGIN and answers an insertion with a reply. -/
def insertingWorld (reply : Reply) : World where
  connections := [{ name := "orders", server := { replies := [.accept, reply] } }]

def insertion : String := "INSERT INTO orders VALUES (1)"

/-- One insertion that is accepted is committed. -/
theorem commit_ok_fate_insertion :
    let w := insertingWorld .accept
    let w₁ := (w.begin 0 .readCommitted).2
    let w₂ := (w₁.execute 0 insertion).2
    w.begin 0 .readCommitted = (.ok 0, w₁) ∧
      Conversation readOwn 0 0 w₁ (.running []) [(insertion, .ok ())] w₂ (.running [insertion]) ∧
      w₂.Commits 0 ∧
      Hears readOwn w₂ 0 "COMMIT" (.running [insertion]) (.committed [insertion]) ∧
      ((∀ said ∈ [(insertion, (.ok () : Except Driver.Fault Unit))], refused said.2 = false) ↔
        Fate.committed [insertion] = .committed (accepted [(insertion, .ok ())])) := by
  intro w w₁ w₂
  have begun : w.begin 0 .readCommitted = (.ok 0, w₁) := rfl
  have talk : Conversation readOwn 0 0 w₁ (.running []) [(insertion, .ok ())] w₂
      (.running [insertion]) := by
    refine .spoke (.arrived rfl rfl (.accepted rfl ?_)) (.done _ _)
    rfl
  have commits : w₂.Commits 0 := .inl rfl
  have heard : Hears readOwn w₂ 0 "COMMIT" (.running [insertion]) (.committed [insertion]) :=
    .arrived rfl rfl (.accepted rfl rfl)
  obtain ⟨-, -, hplain⟩ := commit_ok_fate rfl begun talk commits heard
  have plain : ∀ said ∈ [(insertion, (.ok () : Except Driver.Fault Unit))],
      readOwn said.1 = .work := by
    intro said hmem
    obtain rfl := List.mem_singleton.mp hmem
    rfl
  exact ⟨begun, talk, commits, heard, (hplain plain).1⟩

/-- The insertion is refused, and the caller goes on. The commit succeeds, the scope completes and
records its participant as committed, and the server has rolled back. -/
theorem commit_ok_after_refusal :
    let refusal : Except Driver.Fault Unit := .error (.postgres (some "23505") "db error")
    let w := insertingWorld (.fail "23505")
    let w₁ := (w.begin 0 .readCommitted).2
    let w₂ := (w₁.execute 0 insertion).2
    let s : Scope Nat := ({ id := "unit" } : Scope Nat).withOwn "orders" .readCommitted 0
    w.begin 0 .readCommitted = (.ok 0, w₁) ∧
      Conversation readOwn 0 0 w₁ (.running []) [(insertion, refusal)] w₂ (.failed []) ∧
      w₂.Commits 0 ∧
      Hears readOwn w₂ 0 "COMMIT" (.failed []) .rolledBack ∧
      (((Scope.Suspending.complete host.uncancelled s).run w₂).run {}).1.1 =
        (.ok (), { s with
          completeAttempted := true
          state := .completed
          participants := s.participants.map Scope.Participant.committed }) := by
  intro refusal w w₁ w₂ s
  refine ⟨rfl, .spoke (.arrived rfl rfl (.refused "23505")) (.done _ _), .inl rfl,
    .arrived rfl rfl (.accepted rfl rfl), ?_⟩
  rfl

end UnitOfWork.Postgres
