import UnitOfWork.Log

/-!
# Computations that record

A log is only written: nothing a computation returns depends on the lines before it. `Returns x s Q`
says that `x` started in the state `s` comes to a value and a state of which `Q` holds, whatever was
recorded. Laws about what a computation does are stated with it and leave the log out. There is one rule
for each way a computation is put together.
-/

set_option autoImplicit false

namespace UnitOfWork

variable {σ α β : Type}

/-- What a computation comes to, whatever was recorded before. -/
def Returns (x : StateT σ LogM α) (s : σ) (Q : α → σ → Prop) : Prop :=
  ∀ log, Q ((x.run s).run log).1.1 ((x.run s).run log).1.2

variable {x : StateT σ LogM α} {s : σ} {Q P : α → σ → Prop}

/-- A computation comes to everything that follows from what it comes to. -/
theorem Returns.mono (h : Returns x s P) (himp : ∀ a s', P a s' → Q a s') : Returns x s Q :=
  fun log => himp _ _ (h log)

/-- Every computation comes to what always holds. -/
theorem returns_any (h : ∀ a s', Q a s') : Returns x s Q := fun _ => h _ _

/-- A sequence comes to what its second part comes to, from wherever the first one ends. -/
theorem Returns.bind {f : α → StateT σ LogM β} {R : β → σ → Prop}
    (h : Returns x s fun a s' => Returns (f a) s' R) : Returns (x >>= f) s R := fun log =>
  h log ((x.run s).run log).2

theorem Returns.map {f : α → β} {R : β → σ → Prop} (h : Returns x s fun a s' => R (f a) s') :
    Returns (f <$> x) s R := h

/-- A value is returned without a step. -/
theorem returns_pure {a : α} (h : Q a s) : Returns (pure a) s Q := fun _ => h

/-- The state is read as it is. -/
theorem returns_get {R : σ → σ → Prop} (h : R s s) : Returns get s R := fun _ => h

/-- A step on the state returns its value and leaves the state that it makes. -/
theorem returns_modifyGet {f : σ → α × σ} (h : Q (f s).1 (f s).2) :
    Returns (modifyGet f) s Q := fun _ => h

theorem returns_modify {f : σ → σ} {R : PUnit → σ → Prop} (h : R ⟨⟩ (f s)) :
    Returns (modify f) s R := fun _ => h

/-- A line that is recorded changes no state. -/
theorem returns_record {entry : Log.Entry} {R : Unit → σ → Prop} (h : R () s) :
    Returns (Log.record entry : LogM Unit) s R := fun _ => h

end UnitOfWork
