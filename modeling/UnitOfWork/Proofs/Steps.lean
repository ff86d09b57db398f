/-!
# Steps that may fail

What a computation that may fail comes to, when it is two steps in a row, a step whose failure is told in
another way, or one step for every item of a list: each law says when the whole succeeds or fails in
terms of its parts.
-/

set_option autoImplicit false

namespace UnitOfWork

variable {ε ε' α β : Type} {x : Except ε α}

@[simp] theorem mapError_ok (f : ε → ε') (value : α) : (Except.ok value).mapError f = .ok value := rfl

@[simp] theorem mapError_error (f : ε → ε') (e : ε) :
    (Except.error e : Except ε α).mapError f = .error (f e) := rfl

/-- A success under another name for the error is the success it was. -/
theorem mapError_eq_ok_iff {f : ε → ε'} {value : α} : x.mapError f = .ok value ↔ x = .ok value := by
  cases x <;> simp

/-- An error under another name is the name of an error. -/
theorem mapError_eq_error_iff {f : ε → ε'} {e : ε'} :
    x.mapError f = .error e ↔ ∃ e', x = .error e' ∧ f e' = e := by
  cases x <;> simp

/-- Steps in a row succeed exactly when each of them does. -/
theorem bind_eq_ok {f : α → Except ε β} {b : β} :
    (x >>= f) = .ok b ↔ ∃ a, x = .ok a ∧ f a = .ok b := by
  cases x <;> simp [bind, Except.bind]

/-- Steps in a row fail as the first of them that fails. -/
theorem bind_eq_error {f : α → Except ε β} {e : ε} :
    (x >>= f) = .error e ↔ x = .error e ∨ ∃ a, x = .ok a ∧ f a = .error e := by
  cases x <;> simp [bind, Except.bind]

/-- Where every item gives something, a list gives all of it. -/
theorem mapM_eq_some_map {f : α → Option β} {g : α → β} {items : List α}
    (h : ∀ x ∈ items, f x = some (g x)) : items.mapM f = some (items.map g) := by
  induction items with
  | nil => rfl
  | cons x rest ih =>
    obtain ⟨hx, hrest⟩ := List.forall_mem_cons.mp h
    rw [List.mapM_cons, hx, ih hrest]
    rfl

end UnitOfWork
