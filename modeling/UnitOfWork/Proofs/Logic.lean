import UnitOfWork.Proofs.Recording

/-!
# Logics of monads

The loops of a retry and the operations of a scope are written over any monad, and their host makes all
their requests. So a law of the host, request by request, is a law of the program over it, in any monad
with a way to say what a computation comes to from a state. `Logic` is such a way, kept by composition:
`Returns` is one for computations that record, and a state on top of a logic has one again.

A request `Moves` the state along a relation if it leads to a related state whatever it returns. If the
relation is `Leading`, a program whose requests all move along it moves along it.
-/

set_option autoImplicit false

namespace UnitOfWork

/-- A way to say what the computations of a monad come to from a state. -/
structure Logic (m : Type → Type) [Monad m] (σ : Type) where
  Ensures : {α : Type} → m α → σ → (α → σ → Prop) → Prop
  mono : ∀ {α : Type} {x : m α} {s : σ} {P Q : α → σ → Prop}, Ensures x s P →
    (∀ a s', P a s' → Q a s') → Ensures x s Q
  pure : ∀ {α : Type} {a : α} {s : σ} {Q : α → σ → Prop}, Q a s → Ensures (Pure.pure a) s Q
  bind : ∀ {α β : Type} {x : m α} {f : α → m β} {s : σ} {Q : β → σ → Prop},
    (Ensures x s fun a s' => Ensures (f a) s' Q) → Ensures (x >>= f) s Q

variable {m : Type → Type} [Monad m] {σ τ α β : Type}

namespace Logic

/-- What a computation on a state alone comes to. -/
def plain : Logic (StateM σ) σ where
  Ensures x s Q := Q (x.run s).1 (x.run s).2
  mono h himp := himp _ _ h
  pure h := h
  bind h := h

/-- What is recorded comes to nothing else. -/
def unstated : Logic LogM Unit where
  Ensures x _ Q := ∀ log, Q (x.run log).1 ()
  mono h himp log := himp _ _ (h log)
  pure h _ := h
  bind {_ _ x _ _ _} h log := h log (x.run log).2

/-- What a computation that records comes to, whatever was recorded before. -/
def recording : Logic (StateT σ LogM) σ where
  Ensures := Returns
  mono := Returns.mono
  pure := returns_pure
  bind := Returns.bind

/-- What a computation that records comes to, nothing of which depends on what was recorded. -/
def definite : Logic (StateT σ LogM) σ where
  Ensures x s Q := ∃ a s', Returns x s (fun b t => b = a ∧ t = s') ∧ Q a s'
  mono := fun ⟨a, s', h, hQ⟩ himp => ⟨a, s', h, himp a s' hQ⟩
  pure h := ⟨_, _, returns_pure ⟨rfl, rfl⟩, h⟩
  bind := by
    rintro _ _ x f s Q ⟨a, s', h, b, s'', h', hQ⟩
    refine ⟨b, s'', Returns.bind (h.mono ?_), hQ⟩
    rintro _ _ ⟨rfl, rfl⟩
    exact h'

/-- The logic of a state kept on top of another. -/
def above (L : Logic m σ) : Logic (StateT τ m) (τ × σ) where
  Ensures x s Q := L.Ensures (x.run s.1) s.2 fun r s' => Q r.1 (r.2, s')
  mono h himp := L.mono h fun _ _ => himp _ _
  pure h := L.pure h
  bind h := L.bind h

variable {L : Logic m σ} {x : m α} {f : α → m β} {R : σ → σ → Prop} {s : σ}

/-- What is done to a result can be said of the result. -/
theorem map [LawfulMonad m] {g : α → β} {Q : β → σ → Prop}
    (h : L.Ensures x s fun a s' => Q (g a) s') : L.Ensures (g <$> x) s Q := by
  rw [map_eq_pure_bind]
  exact L.bind (L.mono h fun _ _ => L.pure)

section Above

variable {t : τ}

/-- A computation below leaves the state on top alone. -/
theorem above_lift {Q : α → τ × σ → Prop} (h : L.Ensures x s fun a s' => Q a (t, s')) :
    L.above.Ensures (StateT.lift x : StateT τ m α) (t, s) Q :=
  L.bind (L.mono h fun _ _ hQ => L.pure hQ)

/-- A step on the state on top leaves the state below alone. -/
theorem above_modifyGet {g : τ → α × τ} {Q : α → τ × σ → Prop} (h : Q (g t).1 ((g t).2, s)) :
    L.above.Ensures (modifyGet g : StateT τ m α) (t, s) Q := L.pure h

theorem above_modify {g : τ → τ} {Q : PUnit → τ × σ → Prop} (h : Q ⟨⟩ (g t, s)) :
    L.above.Ensures (modify g : StateT τ m PUnit) (t, s) Q := L.pure h

theorem above_get {Q : τ → τ × σ → Prop} (h : Q t (t, s)) :
    L.above.Ensures (get : StateT τ m τ) (t, s) Q := L.pure h

end Above

section Spans

variable [Log.Spans m]

/-- Entering and leaving a span leave the state alone. -/
structure Spanned (L : Logic m σ) : Prop where
  enter : ∀ (span : String) (s : σ), L.Ensures (Log.Spans.enter span) s fun _ s' => s' = s
  leave : ∀ s : σ, L.Ensures Log.Spans.leave s fun _ s' => s' = s

/-- Inside a span a computation comes to what it comes to outside. -/
theorem Spanned.within (h : L.Spanned) {span : String} {Q : α → σ → Prop} (run : L.Ensures x s Q) :
    L.Ensures (Log.within span x) s Q := by
  refine L.bind (L.mono (h.enter span s) ?_)
  rintro - _ rfl
  refine L.bind (L.mono run fun a s' hQ => L.bind (L.mono (h.leave s') ?_))
  rintro - _ rfl
  exact L.pure hQ

/-- Spans are entered below a state. -/
theorem Spanned.above (h : L.Spanned) : (L.above (τ := τ)).Spanned where
  enter span s := above_lift (L.mono (h.enter span s.2) fun _ _ hs => Prod.ext rfl hs)
  leave s := above_lift (L.mono (h.leave s.2) fun _ _ hs => Prod.ext rfl hs)

/-- Spans are recorded, and nothing else. -/
theorem spanned_recording : (recording (σ := σ)).Spanned where
  enter _ _ := fun _ => rfl
  leave _ := fun _ => rfl

end Spans

/-- A computation moves its state along a relation, whatever it returns. -/
def Moves (L : Logic m σ) (R : σ → σ → Prop) (x : m α) : Prop :=
  ∀ s, L.Ensures x s fun _ s' => R s s'

/-- A computation moves its state along a relation, and what it returns has a property. -/
def Gives (L : Logic m σ) (R : σ → σ → Prop) (P : α → Prop) (x : m α) : Prop :=
  ∀ s, L.Ensures x s fun a s' => R s s' ∧ P a

/-- What is known of a result may be forgotten. -/
theorem Gives.moves {P : α → Prop} (gives : L.Gives R P x) : L.Moves R x :=
  fun s => L.mono (gives s) fun _ _ h => h.1

/-- A step on the state comes to the same whatever was recorded. -/
theorem definite_modifyGet {f : σ → α × σ} {Q : α → σ → Prop} (h : Q (f s).1 (f s).2) :
    definite.Ensures (modifyGet f) s Q := ⟨_, _, returns_modifyGet ⟨rfl, rfl⟩, h⟩

theorem definite_modify {f : σ → σ} {Q : PUnit → σ → Prop} (h : Q ⟨⟩ (f s)) :
    definite.Ensures (modify f) s Q := ⟨_, _, returns_modify ⟨rfl, rfl⟩, h⟩

/-- What is done with the state is known from the state. -/
theorem definite_look {f : σ → StateT σ LogM β} {Q : β → σ → Prop}
    (h : definite.Ensures (f s) s Q) : definite.Ensures (get >>= f) s Q :=
  definite.bind ⟨s, s, returns_get ⟨rfl, rfl⟩, h⟩

/-- Recording a line leaves the state alone. -/
theorem definite_record {entry : Log.Entry} {Q : Unit → σ → Prop} (h : Q () s) :
    definite.Ensures (Log.record entry : LogM Unit) s Q := ⟨_, _, returns_record ⟨rfl, rfl⟩, h⟩

theorem recording_moves {x : StateT σ LogM α} (h : ∀ s, Returns x s fun _ s' => R s s') :
    recording.Moves R x := h

end Logic

/-- A relation on states that leads nowhere by itself and from anywhere on. -/
structure Leading (R : σ → σ → Prop) : Prop where
  refl : ∀ s, R s s
  trans : ∀ {s s' s''}, R s s' → R s' s'' → R s s''

namespace Leading

variable {L : Logic m σ} {R : σ → σ → Prop}

theorem map [LawfulMonad m] {x : m α} (f : α → β) (moves : L.Moves R x) : L.Moves R (f <$> x) :=
  fun s => Logic.map (moves s)

variable (h : Leading R)

include h

/-- Doing nothing leads from a state to itself. -/
theorem pure (a : α) : L.Moves R (Pure.pure a : m α) := fun s => L.pure (h.refl s)

/-- Two moves after one another are one move. -/
theorem bind {x : m α} {f : α → m β} (first : L.Moves R x) (rest : ∀ a, L.Moves R (f a)) :
    L.Moves R (x >>= f) := fun s =>
  L.bind (L.mono (first s) fun a s' hfirst =>
    L.mono (rest a s') fun _ _ hrest => h.trans hfirst hrest)

theorem gives_pure {P : α → Prop} {a : α} (ha : P a) : L.Gives R P (Pure.pure a : m α) :=
  fun s => L.pure ⟨h.refl s, ha⟩

/-- What a sequence returns is what its last part returns. -/
theorem gives_bind {P : β → Prop} {x : m α} {f : α → m β} (first : L.Moves R x)
    (rest : ∀ a, L.Gives R P (f a)) : L.Gives R P (x >>= f) := fun s =>
  L.bind (L.mono (first s) fun a s' hfirst =>
    L.mono (rest a s') fun _ _ hrest => ⟨h.trans hfirst hrest.1, hrest.2⟩)

/-- A loop whose every round moves along a relation moves along it. -/
theorem forM {f : α → m Unit} (moves : ∀ a, L.Moves R (f a)) (as : List α) :
    L.Moves R (as.forM f) := by
  induction as with
  | nil => exact h.pure ()
  | cons a as ih => exact h.bind (moves a) fun _ => ih

end Leading

end UnitOfWork
