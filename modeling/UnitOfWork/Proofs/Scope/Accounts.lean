import UnitOfWork.Proofs.Scope.Rounds

/-!
# The participants against the calls

`Accounts ps calls` says that the standing of every participant tells what was called on its
transaction: a commit that succeeded stands as committed and is never rolled back, and who is still
enlisted was rolled back only by calls that the token interrupted. Participant and transaction have
the same number.

One lemma for each kind of call says that the accounts stay true when the call is made and the
participant moves; the rounds follow by induction on the participants they walk.
-/

set_option autoImplicit false

namespace UnitOfWork.Scope

open Participant (rollbackCall rollbackFailure commitCall)

/-- What the standing of the participants tells of the calls. -/
structure Accounts (ps : List (Participant Nat)) (calls : List Call) : Prop where
  number : ∀ i (p : Participant Nat), ps[i]? = some p → ∀ j, p.handle = some j → j = i
  enlisted : ∀ i (p : Participant Nat), ps[i]? = some p → p.standing = .enlisted →
    ∀ ended, .rollback i ended ∈ calls → ended = .interrupted
  committed : ∀ i (p : Participant Nat), ps[i]? = some p → p.standing = .committed →
    ∀ ended, .rollback i ended ∉ calls
  kept : ∀ i, .commit i (.finished (.ok ())) ∈ calls →
    ∃ p : Participant Nat, ps[i]? = some p ∧ p.standing = .committed
  again : calls.Pairwise fun a b =>
    ∀ i x y, a = .rollback i x → b = .rollback i y → x = .interrupted

/-- A call that says nothing about any standing. -/
def Call.isIdle : Call → Bool
  | .begin .. => true
  | .join .. => true
  | .commit _ (.finished (.ok ())) => false
  | .commit .. => true
  | .rollback .. => false
  | .release _ => true

/-- What is found in a list with one more element is an old one or the new one. -/
theorem getElem?_concat_cases {α : Type} {l : List α} {a b : α} {i : Nat}
    (h : (l ++ [a])[i]? = some b) : l[i]? = some b ∨ i = l.length ∧ b = a := by
  rw [List.getElem?_append] at h
  split at h
  · exact Or.inl h
  · obtain ⟨hi, rfl⟩ := List.getElem?_eq_some_iff.mp h
    simp only [List.length_cons, List.length_nil] at hi
    exact Or.inr ⟨by omega, by simp only [List.getElem_singleton]⟩

/-- What is found in a list with one element replaced is the new one or stood elsewhere. -/
theorem getElem?_set_cases {α : Type} {l : List α} {a b : α} {i j : Nat}
    (h : (l.set i a)[j]? = some b) : i = j ∧ b = a ∨ i ≠ j ∧ l[j]? = some b := by
  by_cases hij : i = j
  · rw [List.getElem?_set, if_pos hij] at h
    split at h
    · exact Or.inl ⟨hij, (Option.some.inj h).symm⟩
    · cases h
  · exact Or.inr ⟨hij, by rwa [List.getElem?_set_ne hij] at h⟩

/-- What is found in a list with one element changed was there, changed or not. -/
theorem getElem?_modify_cases {α : Type} {l : List α} {f : α → α} {b : α} {i j : Nat}
    (h : (l.modify i f)[j]? = some b) :
    ∃ a, l[j]? = some a ∧ (i = j ∧ b = f a ∨ i ≠ j ∧ b = a) := by
  rw [List.getElem?_modify] at h
  obtain ⟨a, ha, rfl⟩ := Option.map_eq_some_iff.mp h
  by_cases hij : i = j
  · exact ⟨a, ha, Or.inl ⟨hij, if_pos hij⟩⟩
  · exact ⟨a, ha, Or.inr ⟨hij, if_neg hij⟩⟩

theorem getElem?_map_cases {α β : Type} {f : α → β} {l : List α} {b : β} {i : Nat}
    (h : (l.map f)[i]? = some b) : ∃ a, l[i]? = some a ∧ b = f a := by
  rw [List.getElem?_map] at h
  obtain ⟨a, ha, rfl⟩ := Option.map_eq_some_iff.mp h
  exact ⟨a, ha, rfl⟩

theorem getElem?_between {α : Type} (pre : List α) (a : α) (rest post : List α) :
    (pre ++ a :: rest ++ post)[pre.length]? = some a := by
  rw [List.append_assoc, List.getElem?_append_right (Nat.le_refl _), Nat.sub_self]
  rfl

/-- Replacing the element between two parts leaves the parts. -/
theorem set_between {α : Type} (pre : List α) (a b : α) (rest post : List α) :
    (pre ++ a :: rest ++ post).set pre.length b = pre ++ [b] ++ rest ++ post := by
  simp only [List.append_assoc, List.cons_append, List.nil_append,
    List.set_append_right _ _ (Nat.le_refl _), Nat.sub_self, List.set_cons_zero]

namespace Accounts

variable {ps : List (Participant Nat)} {calls : List Call}

theorem nil : Accounts [] [] where
  number _ _ h := by cases h
  enlisted _ _ h := by cases h
  committed _ _ h := by cases h
  kept _ h := by cases h
  again := .nil

/-- Calls that say nothing about any standing leave the accounts true. -/
theorem idle (h : Accounts ps calls) {more : List Call} (hmore : ∀ c ∈ more, c.isIdle = true) :
    Accounts ps (calls ++ more) where
  number := h.number
  enlisted i p hp hstanding ended hmem := by
    rcases List.mem_append.mp hmem with hmem | hmem
    · exact h.enlisted i p hp hstanding ended hmem
    · cases hmore _ hmem
  committed i p hp hstanding ended hmem := by
    rcases List.mem_append.mp hmem with hmem | hmem
    · exact h.committed i p hp hstanding ended hmem
    · cases hmore _ hmem
  kept i hmem := by
    rcases List.mem_append.mp hmem with hmem | hmem
    · exact h.kept i hmem
    · cases hmore _ hmem
  again := by
    refine List.pairwise_append.mpr ⟨h.again, ?_, ?_⟩
    · refine List.pairwise_of_forall_mem_list fun a ha _ _ i x y hax _ => ?_
      subst hax
      cases hmore _ ha
    · intro a _ b hb i x y _ hby
      subst hby
      cases hmore _ hb

/-- A new participant, whose transaction has the next number. -/
theorem enlist (h : Accounts ps calls) {p : Participant Nat} (hstanding : p.standing = .enlisted)
    (hnumber : ∀ j, p.handle = some j → j = ps.length)
    (hnone : ∀ c ∈ calls, c.rank = 0) : Accounts (ps ++ [p]) calls where
  number i q hq j hj := by
    rcases getElem?_concat_cases hq with hq | ⟨rfl, rfl⟩
    · exact h.number i q hq j hj
    · exact hnumber j hj
  enlisted i q _ _ ended hmem := by cases hnone _ hmem
  committed i q _ _ ended hmem := by cases hnone _ hmem
  kept i hmem := by cases hnone _ hmem
  again := h.again

section Move

variable {i : Nat} {p : Participant Nat}

/-- A pending participant is rolled back. -/
theorem rollBack (h : Accounts ps calls) (hp : ps[i]? = some p) (hpending : p.isPending = true)
    (outcome : Except ParticipantError Unit) :
    Accounts (ps.set i p.rolledBack) (calls ++ [.rollback i (.finished outcome)]) := by
  have hstanding := (p.isPending_iff.mp hpending).1
  exact
    { number := fun j q hq k hk => by
        rcases getElem?_set_cases hq with ⟨rfl, rfl⟩ | ⟨_, hq⟩
        · exact h.number i p hp k hk
        · exact h.number j q hq k hk
      enlisted := fun j q hq henlisted ended hmem => by
        rcases getElem?_set_cases hq with ⟨rfl, rfl⟩ | ⟨hij, hq⟩
        · cases henlisted
        · rcases List.mem_append.mp hmem with hmem | hmem
          · exact h.enlisted j q hq henlisted ended hmem
          · cases List.mem_singleton.mp hmem
            exact absurd rfl hij
      committed := fun j q hq hcommitted ended hmem => by
        rcases getElem?_set_cases hq with ⟨rfl, rfl⟩ | ⟨hij, hq⟩
        · cases hcommitted
        · rcases List.mem_append.mp hmem with hmem | hmem
          · exact h.committed j q hq hcommitted ended hmem
          · cases List.mem_singleton.mp hmem
            exact absurd rfl hij
      kept := fun j hmem => by
        rcases List.mem_append.mp hmem with hmem | hmem
        · obtain ⟨q, hq, hcommitted⟩ := h.kept j hmem
          refine ⟨q, ?_, hcommitted⟩
          rw [List.getElem?_set_ne ?_, hq]
          rintro rfl
          cases hp.symm.trans hq
          cases hstanding.symm.trans hcommitted
        · cases List.mem_singleton.mp hmem
      again := by
        refine List.pairwise_append.mpr ⟨h.again, List.pairwise_singleton _ _, ?_⟩
        rintro a ha b hb j x y rfl rfl
        cases List.mem_singleton.mp hb
        exact h.enlisted i p hp hstanding x ha }

/-- The token interrupts the rollback of a pending participant. -/
theorem interrupt (h : Accounts ps calls) (hp : ps[i]? = some p) (hpending : p.isPending = true) :
    Accounts ps (calls ++ [.rollback i .interrupted]) := by
  have hstanding := (p.isPending_iff.mp hpending).1
  exact
    { number := h.number
      enlisted := fun j q hq henlisted ended hmem => by
        rcases List.mem_append.mp hmem with hmem | hmem
        · exact h.enlisted j q hq henlisted ended hmem
        · cases List.mem_singleton.mp hmem
          rfl
      committed := fun j q hq hcommitted ended hmem => by
        rcases List.mem_append.mp hmem with hmem | hmem
        · exact h.committed j q hq hcommitted ended hmem
        · cases List.mem_singleton.mp hmem
          cases hp.symm.trans hq
          cases hstanding.symm.trans hcommitted
      kept := fun j hmem => by
        rcases List.mem_append.mp hmem with hmem | hmem
        · exact h.kept j hmem
        · cases List.mem_singleton.mp hmem
      again := by
        refine List.pairwise_append.mpr ⟨h.again, List.pairwise_singleton _ _, ?_⟩
        rintro a ha b hb j x y rfl rfl
        cases List.mem_singleton.mp hb
        exact h.enlisted i p hp hstanding x ha }

/-- A participant commits before any rollback was called. -/
theorem commit (h : Accounts ps calls) (hp : ps[i]? = some p) (hnone : ∀ c ∈ calls, c.rank ≤ 1) :
    Accounts (ps.set i p.committed) (calls ++ [.commit i (.finished (.ok ()))]) := by
  have hrollback : ∀ j ended,
      Call.rollback j ended ∉ calls ++ [.commit i (.finished (.ok ()))] := by
    intro j ended hmem
    rcases List.mem_append.mp hmem with hmem | hmem
    · exact absurd (hnone _ hmem) (by simp only [Call.rank]; omega)
    · cases List.mem_singleton.mp hmem
  exact
    { number := fun j q hq k hk => by
        rcases getElem?_set_cases hq with ⟨rfl, rfl⟩ | ⟨_, hq⟩
        · exact h.number i p hp k hk
        · exact h.number j q hq k hk
      enlisted := fun j _ _ _ ended hmem => absurd hmem (hrollback j ended)
      committed := fun j _ _ _ ended => hrollback j ended
      kept := fun j hmem => by
        by_cases hij : i = j
        · subst hij
          obtain ⟨hi, _⟩ := List.getElem?_eq_some_iff.mp hp
          exact ⟨p.committed, List.getElem?_set_self hi, rfl⟩
        · rcases List.mem_append.mp hmem with hmem | hmem
          · obtain ⟨q, hq, hcommitted⟩ := h.kept j hmem
            exact ⟨q, by rw [List.getElem?_set_ne hij, hq], hcommitted⟩
          · cases List.mem_singleton.mp hmem
            exact absurd rfl hij
      again := by
        refine List.pairwise_of_forall_mem_list fun a ha _ _ j x _ hax _ => ?_
        subst hax
        exact absurd ha (hrollback j x) }

end Move

/-- Handles given up are still numbered right. -/
theorem map_released (h : Accounts ps calls) : Accounts (ps.map Participant.released) calls where
  number i p hp j hj := by
    obtain ⟨q, -, rfl⟩ := getElem?_map_cases hp
    cases hj
  enlisted i p hp hstanding := by
    obtain ⟨q, hq, rfl⟩ := getElem?_map_cases hp
    exact h.enlisted i q hq hstanding
  committed i p hp hstanding := by
    obtain ⟨q, hq, rfl⟩ := getElem?_map_cases hp
    exact h.committed i q hq hstanding
  kept i hmem := by
    obtain ⟨q, hq, hcommitted⟩ := h.kept i hmem
    exact ⟨q.released, by rw [List.getElem?_map, hq]; rfl, hcommitted⟩
  again := h.again

section Round

variable (answers : Answers) {pre walked post : List (Participant Nat)}

/-- A round of rollbacks over a part of the participants. -/
theorem settle (h : Accounts (pre ++ walked ++ post) calls) :
    Accounts (pre ++ walked.map Participant.settled ++ post)
      (calls ++ walked.flatMap (rollbackCall answers)) := by
  induction walked generalizing pre calls with
  | nil => simpa only [List.map_nil, List.flatMap_nil, List.append_nil] using h
  | cons p rest ih =>
    have hnext (q : Participant Nat) (more : List Call)
        (hq : Accounts (pre ++ [q] ++ rest ++ post) (calls ++ more)) :
        Accounts (pre ++ q :: rest.map Participant.settled ++ post)
          (calls ++ (more ++ rest.flatMap (rollbackCall answers))) := by
      simpa only [List.append_assoc, List.cons_append, List.nil_append] using ih hq
    rw [List.map_cons, List.flatMap_cons]
    apply hnext
    cases hp : p.isPending with
    | false =>
      rw [Participant.settled_of_not_pending hp, rollbackCall_of_not_pending answers hp]
      simpa only [List.append_assoc, List.cons_append, List.nil_append, List.append_nil] using h
    | true =>
      -- The handle of the participant at this place is the length of what was walked before.
      obtain ⟨i, hi⟩ := exists_handle_of_pending hp
      have hplace := getElem?_between pre p rest post
      cases h.number _ p hplace i hi
      rw [Participant.settled_of_pending hp, rollbackCall_of_pending answers hp hi,
        ← set_between pre p]
      exact h.rollBack hplace hp _

/-- A round of commits that all succeed, before any rollback was called. -/
theorem commitAll (h : Accounts (pre ++ walked ++ post) calls)
    (hpending : ∀ p ∈ walked, p.isPending = true) (hcommits : ∀ p ∈ walked, p.Commits answers)
    (hnone : ∀ c ∈ calls, c.rank ≤ 1) :
    Accounts (pre ++ walked.map Participant.committed ++ post)
      (calls ++ walked.flatMap (commitCall answers)) := by
  induction walked generalizing pre calls with
  | nil => simpa only [List.map_nil, List.flatMap_nil, List.append_nil] using h
  | cons p rest ih =>
    obtain ⟨hp, hrest⟩ := List.forall_mem_cons.mp hpending
    obtain ⟨hok, hoks⟩ := List.forall_mem_cons.mp hcommits
    obtain ⟨i, hi⟩ := exists_handle_of_pending hp
    have hplace := getElem?_between pre p rest post
    cases h.number _ p hplace i hi
    have hcall : p.commitCall answers = [.commit pre.length (.finished (.ok ()))] := by
      simp only [commitCall, hi, Option.toList_some, List.map_cons, List.map_nil, hok _ hi]
    have hnext := h.commit hplace hnone
    rw [set_between] at hnext
    have hranks : ∀ c ∈ calls ++ [.commit pre.length (.finished (.ok ()))], c.rank ≤ 1 :=
      List.forall_mem_append.mpr ⟨hnone, List.forall_mem_singleton.mpr (Nat.le_refl 1)⟩
    rw [List.map_cons, List.flatMap_cons, hcall]
    simpa only [List.append_assoc, List.cons_append, List.nil_append] using
      ih hnext hrest hoks hranks

/-- A completion that halts: commits up to there, and rollbacks from there on. -/
theorem halt (i : Nat) (halt : Halt) {p : Participant Nat} {rest : List (Participant Nat)}
    (h : Accounts (walked ++ p :: rest) calls) (hpending : ∀ q ∈ walked, q.isPending = true)
    (hcommits : ∀ q ∈ walked, q.Commits answers) (hnone : ∀ c ∈ calls, c.rank ≤ 1) :
    Accounts (walked.map Participant.committed ++ (p :: rest).map Participant.settled)
      (calls ++ walked.flatMap (commitCall answers) ++ halt.calls i ++
        (p :: rest).flatMap (rollbackCall answers)) := by
  have hstart : Accounts ([] ++ walked ++ p :: rest) calls := h
  have hcommitted := hstart.commitAll answers hpending hcommits hnone
  have hidle : ∀ c ∈ halt.calls i, c.isIdle = true := by
    cases halt <;> simp [Halt.calls, Call.isIdle]
  have hhalted := hcommitted.idle hidle
  rw [List.nil_append, ← List.append_nil (p :: rest), ← List.append_assoc] at hhalted
  have hsettled := hhalted.settle answers
  rwa [List.append_nil] at hsettled

/-- A disposal that stops: rollbacks up to there, and maybe one that was interrupted. -/
theorem stop {p : Participant Nat} {rest : List (Participant Nat)} {i : Nat}
    (h : Accounts (walked ++ p :: rest) calls) (pending : p.isPending = true)
    (handle : p.handle = some i) (outcomeUnknown : Bool) :
    Accounts (walked.map Participant.settled ++ p :: rest)
      (calls ++ walked.flatMap (rollbackCall answers) ++ interruptedRollback i outcomeUnknown) := by
  have hstart : Accounts ([] ++ walked ++ p :: rest) calls := h
  have hsettled := hstart.settle answers
  rw [List.nil_append] at hsettled
  have hplace := getElem?_between (walked.map Participant.settled) p rest []
  rw [List.append_nil] at hplace
  rw [← hsettled.number _ p hplace i handle] at hplace
  cases outcomeUnknown with
  | false =>
    simpa only [interruptedRollback, Bool.false_eq_true, if_false, List.append_nil] using hsettled
  | true => exact hsettled.interrupt hplace pending

end Round

end Accounts

end UnitOfWork.Scope
