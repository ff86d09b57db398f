import UnitOfWork.Proofs.Scope.Ledger

/-!
# The order of the calls of a scope

`Orderly` is what the drivers may rely on, whatever is done with a scope and in whatever order: every
begin and join comes before every commit, every commit before every rollback, every rollback before
every release; commits go to the transactions one after the other, none twice; a transaction whose
commit succeeded is never rolled back; and a second rollback needs an interrupted one before it. Once
the scope is disposed of or dropped, every transaction was released once, in order.

The main statement is `orderly_run`. It is read off the ledger, and a drop adds at most the rollbacks
and releases of a disposal.
-/

set_option autoImplicit false

namespace UnitOfWork.Scope

/-! ## The statement -/

/-- The calls of a scope are in order. -/
structure Orderly (discipline : Discipline) (calls : List Call) : Prop where
  ranked : calls.Pairwise fun a b => a.rank ≤ b.rank
  consecutive : ∃ n, n ≤ begun calls ∧ commits calls = List.range n
  kept : ∀ i ended, .commit i (.finished (.ok ())) ∈ calls → .rollback i ended ∉ calls
  again : calls.Pairwise fun a b =>
    ∀ i x y, a = .rollback i x → b = .rollback i y → x = .interrupted
  once : discipline = .blocking → (rollbacks calls).Nodup

/-- Calls of which no rollback was interrupted roll no transaction back twice. -/
theorem Ledger.orderly {discipline : Discipline} {u : Usage} (h : Ledger discipline u) :
    Orderly discipline u.calls where
  ranked := h.ranked.sorted
  consecutive := h.consecutive
  kept i ended hmem := by
    obtain ⟨p, hp, hcommitted⟩ := h.accounts.kept i hmem
    exact h.accounts.committed i p hp hcommitted ended
  again := h.accounts.again
  once hblocking := by
    refine List.pairwise_filterMap.mpr (h.accounts.again.imp_of_mem ?_)
    intro a b ha _ hagain i hi j hj hij
    subst hij
    cases a with
    | rollback k x =>
      cases b with
      | rollback l y =>
        cases hi
        cases hj
        obtain rfl := hagain _ x y rfl rfl
        exact h.uninterrupted hblocking _ ha _ rfl
      | _ => cases hj
    | _ => cases hi

/-! ## Dropping, and the main statement -/

theorem Call.rank_le (c : Call) : c.rank ≤ 3 := by
  cases c <;> simp only [rank] <;> omega

/-- Releases may follow any calls. -/
theorem Orderly.release {discipline : Discipline} {calls more : List Call}
    (h : Orderly discipline calls) (hmore : ∀ c ∈ more, c.rank = 3) :
    Orderly discipline (calls ++ more) where
  ranked := by
    have hcalls : Ranked 3 calls := ⟨h.ranked, fun c _ => c.rank_le⟩
    exact (hcalls.append (Nat.le_refl 3) hmore).sorted
  consecutive := by
    obtain ⟨n, hn, hcommits⟩ := h.consecutive
    refine ⟨n, ?_, ?_⟩
    · rw [begun_append]
      omega
    · rw [commits_append, hcommits, commits_of_rank, List.append_nil]
      intro c hc
      rw [hmore c hc]
      omega
  kept i ended hcommit hrollback := by
    rcases List.mem_append.mp hcommit with hcommit | hcommit
    · rcases List.mem_append.mp hrollback with hrollback | hrollback
      · exact h.kept i ended hcommit hrollback
      · cases hmore _ hrollback
    · cases hmore _ hcommit
  again := by
    refine List.pairwise_append.mpr ⟨h.again, ?_, ?_⟩
    · refine List.pairwise_of_forall_mem_list fun a ha _ _ i x y hax _ => ?_
      subst hax
      cases hmore _ ha
    · intro a _ b hb i x y _ hby
      subst hby
      cases hmore _ hb
  once hblocking := by
    have hnone : rollbacks more = [] := rollbacks_of_rank fun c hc => by
      rw [hmore c hc]
      omega
    rw [rollbacks_append, hnone, List.append_nil]
    exact h.once hblocking

/-- A run at its end, where the scope is dropped or not. -/
def Usage.ended (u : Usage) (discipline : Discipline) : Option Answers → Usage
  | none => u
  | some answers => u.drop discipline answers

/-- The handles of a scope that has ended: none was released before a disposal or a drop, and all
after it, once each and in order. -/
structure Ended (u : Usage) (dropped : Bool) : Prop where
  released : u.scope.state = .disposed ∨ dropped = true →
    releases u.calls = List.range (begun u.calls)
  held : u.scope.state ≠ .disposed → dropped = false → releases u.calls = []
  numbered : u.scope.mode = some .own → begun u.calls = u.scope.participants.length
  handle : ∀ i (p : Participant Nat), u.scope.participants[i]? = some p →
    ∀ j, p.handle = some j → j = i

/-- What the ledger says of the calls of a scope that has ended. -/
theorem Ledger.ended {discipline : Discipline} {u : Usage} (h : Ledger discipline u)
    {dropped : Bool} (hdropped : dropped = true → u.scope.state = .disposed) : Ended u dropped where
  released hend := by
    rw [h.released, if_pos]
    rcases hend with hstate | htrue
    · exact hstate
    · exact hdropped htrue
  held hstate _ := by rw [h.released, if_neg hstate]
  numbered hmode := by rw [h.numbered, if_pos hmode]
  handle := h.accounts.number

/-- Dropping keeps the order of the calls and releases every handle that was not released. -/
theorem orderly_drop {discipline : Discipline} {u : Usage} (hsound : Sound u)
    (h : Ledger discipline u) (answers : Answers) :
    Orderly discipline (u.drop discipline answers).calls ∧
      Ended (u.drop discipline answers) true := by
  cases discipline with
  | blocking =>
    rw [u.drop_blocking answers none]
    have hnext := ledger_dispose hsound h answers none
    exact ⟨hnext.orderly, hnext.ended fun _ => disposed_of_blocking u answers none⟩
  | suspending =>
    rw [u.drop_suspending answers]
    by_cases hstate : u.scope.state = .disposed
    · rw [if_pos hstate]
      exact ⟨h.orderly, h.ended fun _ => hstate⟩
    · rw [if_neg hstate]
      refine ⟨h.orderly.release rank_releaseCalls, ?_⟩
      have hbegun : begun (u.calls ++ releaseCalls u.scope.participants) = begun u.calls := by
        apply begun_append_of_rank
        intro c hc
        rw [rank_releaseCalls c hc]
        omega
      exact
        { released := fun _ => by
            simp only [releases_append, h.released, if_neg hstate, releases_releaseCalls,
              h.handles_eq hsound hstate, hbegun, List.nil_append]
          held := fun _ hdropped => by cases hdropped
          numbered := fun hmode => by
            have hown : u.scope.mode = some .own := hmode
            rw [hbegun, h.numbered, if_pos hown, released, List.length_map]
          handle := h.accounts.map_released.number }

/-- Whatever is done with a scope, dropped at the end or not, its calls are in order and it releases
its handles once. -/
theorem orderly_run (discipline : Discipline) (id : String) (options : ScopeOptions)
    (ambients : Ambients) (uses : List Use) (dropped : Option Answers) :
    let u := ((Usage.start id options ambients).run discipline uses).ended discipline dropped
    Orderly discipline u.calls ∧ Ended u dropped.isSome := by
  have hsound := sound_run discipline id options ambients uses
  have h := ledger_run discipline id options ambients uses
  cases dropped with
  | none => exact ⟨h.orderly, h.ended fun hdropped => by cases hdropped⟩
  | some answers => exact orderly_drop hsound h answers

end UnitOfWork.Scope
