import UnitOfWork.Proofs.Retry.Rounds
import UnitOfWork.Proofs.Retry.Uncancelled

/-!
# What a blocking run does

A blocking run goes through the rounds up to the first call that ends it, and returns the outcome of
that call unchanged. The suspending run under a token that never fires does the same, and is the blocking
run, so `run_trace` is read off that. The main statement is `run_scripted`.
-/

set_option autoImplicit false

namespace UnitOfWork.Retry

variable {ε α : Type}

/-- All that a blocking run asks for, with its log. -/
theorem run_trace (options : Options) (policy : Policy ε) (script : Script ε α) :
    ∃ k, EndsFirst options policy script 1 k ∧
      (Blocking.run options policy script.host).run [] =
        (script k, rounds options policy script 1 k ++
          .operate k :: closing options policy script k (sleptThrough options 1 k .zero)) := by
  have hleft : 1 + (options.maxAttempts - 1) = options.maxAttempts :=
    Nat.add_sub_cancel' options.least_le
  obtain ⟨k, hk⟩ := exists_endsFirst hleft
  have hnever : ∀ i, i < k →
      Instant.never.seen (rounds options policy script 1 (i + 1)) = false := fun _ _ => rfl
  obtain ⟨hresult, hevents⟩ :=
    Prod.mk.inj ((run_under_never options policy script).symm.trans (run_through hk hnever))
  exact ⟨k, hk, Prod.ext (mapError_operation_injective hresult) hevents⟩

/-- A blocking run calls the operation up to the first call that ends it, and returns that outcome
unchanged. Between a call and the next the observer is told once of the failed attempt and then the
delay that follows it is slept; nothing is told and nothing slept after the last call. -/
theorem run_scripted (options : Options) (policy : Policy ε) (script : Script ε α) :
    ∃ k, EndsFirst options policy script 1 k ∧
      let run := (Blocking.run options policy script.host).run []
      run.1 = script k ∧ operations run.2 = k ∧
        unlogged run.2 =
          (List.range' 1 (k - 1)).flatMap (retryOf options policy script) ++ [.operate k] := by
  obtain ⟨k, hk, hrun⟩ := run_trace options policy script
  refine ⟨k, hk, ?_⟩
  rw [hrun]
  exact ⟨rfl, operations_through hk _, unlogged_through k _⟩

end UnitOfWork.Retry
