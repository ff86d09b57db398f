import UnitOfWork.Proofs.Scope.Usage

/-!
# What always holds of a scope between its operations

`Coherent` says how the mode, the state, the marks and the participants of a scope fit together, in any
state that a run reaches under either discipline, with any answers and any cancellations. The commits
and rollbacks of a scope rely on it: a round skips whoever is not pending, so a participant that held no
handle or stood wrong would be passed over in silence.

`Coherent` alone is not kept by the operations. `Sound` adds what they need: a scope that may still be
completed has only enlisted participants, and no participant commits before completion was attempted.
`sound_run` is the induction, and the main statement is `coherent_run`.
-/

set_option autoImplicit false

namespace UnitOfWork.Scope

/-! ## The statement -/

/-- How a scope fits together whose participants are in transactions of their own. -/
structure CoherentOwn (s : Scope Nat) : Prop where
  ambient : s.ambient = none
  isolation : ∀ p ∈ s.participants, p.isolation = s.options.isolation
  held : s.state ≠ .disposed → ∀ p ∈ s.participants, p.handle.isSome = true
  completed : s.state = .completed → ∀ p ∈ s.participants, p.standing = .committed
  attempted : s.state = .opened → s.completeAttempted = true →
    ∀ p ∈ s.participants, p.standing ≠ .enlisted
  disposed : s.state = .disposed →
    ∀ p ∈ s.participants, p.standing ≠ .enlisted ∧ p.handle = none

/-- How a scope fits together among the ambient transactions. -/
structure Coherent (s : Scope Nat) (ambients : Ambients) : Prop where
  index : ∀ i (p : Participant Nat), s.participants[i]? = some p → p.index = i
  unset : s.mode = none ↔ s.participants = []
  joined : ∀ place, s.mode = some (.ambient place) →
    ∃ found, s.ambient = some place ∧ ambients[place]? = some found ∧ ∀ p ∈ s.participants,
      p.handle = none ∧ p.standing = .enlisted ∧ p.isolation = found.isolation
  own : s.mode = some .own → CoherentOwn s
  apart : ∀ p ∈ s.participants, ∀ q ∈ s.participants,
    p.standing = .committed → q.standing ≠ .enlisted
  committedFirst : s.participants.Pairwise fun p q =>
    q.standing = .committed → p.standing = .committed

/-! ## The invariant -/

/-- What the operations keep of a scope whose participants are in transactions of their own. -/
structure SoundOwn (s : Scope Nat) : Prop where
  isolation : ∀ p ∈ s.participants, p.isolation = s.options.isolation
  held : s.state ≠ .disposed → ∀ p ∈ s.participants, p.handle.isSome = true
  released : s.state = .disposed → ∀ p ∈ s.participants, p.handle = none
  fresh : s.state = .opened → s.disposing = false → s.completeAttempted = false →
    ∀ p ∈ s.participants, p.standing = .enlisted
  unattempted : s.completeAttempted = false → ∀ p ∈ s.participants, p.standing ≠ .committed
  attempted : s.state = .opened → s.completeAttempted = true →
    ∀ p ∈ s.participants, p.standing ≠ .enlisted
  completed : s.state = .completed → ∀ p ∈ s.participants, p.standing = .committed
  disposed : s.state = .disposed → ∀ p ∈ s.participants, p.standing ≠ .enlisted
  committedFirst : s.participants.Pairwise fun p q =>
    q.standing = .committed → p.standing = .committed

/-- What the operations keep. -/
structure Sound (u : Usage) : Prop where
  indexed : u.scope.participants.map Participant.index = List.range u.scope.participants.length
  unset : u.scope.mode = none ↔ u.scope.participants = []
  joined : ∀ place, u.scope.mode = some (.ambient place) →
    ∃ found, u.ambients[place]? = some found ∧ ∀ p ∈ u.scope.participants,
      p.handle = none ∧ p.standing = .enlisted ∧ p.isolation = found.isolation
  own : u.scope.mode = some .own → SoundOwn u.scope

/-- A scope starts soundly, having nobody and no mode. -/
theorem sound_start (id : String) (options : ScopeOptions) (ambients : Ambients) :
    Sound (Usage.start id options ambients) where
  indexed := rfl
  unset := ⟨fun _ => rfl, fun _ => rfl⟩
  joined _ h := by cases h
  own h := by cases h

/-- A committed and an enlisted participant need completion attempted, and no state leaves both. -/
theorem SoundOwn.apart {s : Scope Nat} (h : SoundOwn s) : ∀ p ∈ s.participants,
    ∀ q ∈ s.participants, p.standing = .committed → q.standing ≠ .enlisted := by
  intro p hp q hq hcommitted henlisted
  cases hstate : s.state with
  | opened =>
    cases hattempted : s.completeAttempted with
    | false => exact h.unattempted hattempted p hp hcommitted
    | true => exact h.attempted hstate hattempted q hq henlisted
  | completed =>
    have := h.completed hstate q hq
    rw [henlisted] at this
    cases this
  | disposed => exact h.disposed hstate q hq henlisted

/-- Participants that are not in transactions of their own are enlisted, and hold no handle. -/
theorem Sound.enlisted {u : Usage} (h : Sound u) (hmode : u.scope.mode ≠ some .own) :
    ∀ p ∈ u.scope.participants, p.handle = none ∧ p.standing = .enlisted := by
  intro p hp
  cases hset : u.scope.mode with
  | none =>
    rw [h.unset.mp hset] at hp
    cases hp
  | some mode =>
    cases mode with
    | own => exact absurd hset hmode
    | ambient place =>
      obtain ⟨_, _, hall⟩ := h.joined place hset
      exact ⟨(hall p hp).1, (hall p hp).2.1⟩

/-- What the operations keep says all that is to be said of a scope. -/
theorem Sound.coherent {u : Usage} (h : Sound u) : Coherent u.scope u.ambients where
  index i p hp := by
    have : (u.scope.participants.map Participant.index)[i]? = some p.index := by
      rw [List.getElem?_map, hp]; rfl
    rw [h.indexed] at this
    obtain ⟨_, hi⟩ := List.getElem?_eq_some_iff.mp this
    simpa only [List.getElem_range] using hi.symm
  unset := h.unset
  joined place hmode := by
    obtain ⟨found, hstored, hall⟩ := h.joined place hmode
    exact ⟨found, by simp only [ambient, hmode], hstored, hall⟩
  own hmode :=
    have hown := h.own hmode
    { ambient := by simp only [ambient, hmode]
      isolation := hown.isolation
      held := hown.held
      completed := hown.completed
      attempted := hown.attempted
      disposed := fun hstate p hp => ⟨hown.disposed hstate p hp, hown.released hstate p hp⟩ }
  apart p hp q hq hcommitted henlisted := by
    by_cases hmode : u.scope.mode = some .own
    · exact (h.own hmode).apart p hp q hq hcommitted henlisted
    · cases (h.enlisted hmode p hp).2.symm.trans hcommitted
  committedFirst := by
    by_cases hmode : u.scope.mode = some .own
    · exact (h.own hmode).committedFirst
    · refine List.pairwise_of_forall_mem_list fun p _ q hq hcommitted => ?_
      cases (h.enlisted hmode q hq).2.symm.trans hcommitted

/-! ## The operations on a scope with transactions of its own -/

/-- Who holds a handle is not enlisted after a round of rollbacks. -/
theorem Participant.settled_ne_enlisted {H : Type} {p : Participant H}
    (h : p.handle.isSome = true) : p.settled.standing ≠ .enlisted := by
  intro henlisted
  obtain ⟨hstanding, hpending⟩ := p.settled_enlisted_iff.mp henlisted
  rw [(p.isPending_iff).mpr ⟨hstanding, h⟩] at hpending
  cases hpending

/-- A round of rollbacks over a part of the participants keeps the committed ones first. -/
theorem committedFirst_settled {ps qs : List (Participant Nat)}
    (h : (ps ++ qs).Pairwise fun p q => q.standing = .committed → p.standing = .committed) :
    (ps.map Participant.settled ++ qs).Pairwise fun p q =>
      q.standing = .committed → p.standing = .committed := by
  rw [List.pairwise_append] at h ⊢
  simpa only [List.pairwise_map, List.forall_mem_map, Participant.settled_committed_iff] using h

section Own

variable {s : Scope Nat}

/-- Every participant committed. -/
theorem SoundOwn.through (h : SoundOwn s) (hstate : s.state = .opened) :
    SoundOwn { s with
      completeAttempted := true
      state := .completed
      participants := s.participants.map Participant.committed } where
  isolation := List.forall_mem_map.mpr h.isolation
  held _ := List.forall_mem_map.mpr (h.held (not_disposed hstate))
  released hdisposed := by cases hdisposed
  fresh hopen := by cases hopen
  unattempted hattempted := by cases hattempted
  attempted hopen := by cases hopen
  completed _ := List.forall_mem_map.mpr fun _ _ => rfl
  disposed hdisposed := by cases hdisposed
  committedFirst := List.pairwise_map.mpr (List.pairwise_of_forall fun _ _ _ => rfl)

/-- Some committed, and the others were rolled back. -/
theorem SoundOwn.halted (h : SoundOwn s) (hstate : s.state = .opened)
    (hattempted : s.completeAttempted = false) {ps qs : List (Participant Nat)}
    (split : s.participants = ps ++ qs) :
    SoundOwn { s with
      completeAttempted := true
      participants := ps.map Participant.committed ++ qs.map Participant.settled } := by
  have hisolation := h.isolation
  have hheld := h.held (not_disposed hstate)
  have hnone := h.unattempted hattempted
  rw [split, List.forall_mem_append] at hisolation hheld hnone
  have hsettled : ∀ q ∈ qs.map Participant.settled, q.standing ≠ .committed :=
    List.forall_mem_map.mpr fun q hq => by
      simpa only [ne_eq, Participant.settled_committed_iff] using hnone.2 q hq
  exact
    { isolation := by
        simp only [List.forall_mem_append, List.forall_mem_map, Participant.settled_isolation]
        exact hisolation
      held := fun _ => by
        simp only [List.forall_mem_append, List.forall_mem_map, Participant.settled_handle]
        exact hheld
      released := fun hdisposed => by simp only [hstate, reduceCtorEq] at hdisposed
      fresh := fun _ _ hattempted => by cases hattempted
      unattempted := fun hattempted => by cases hattempted
      attempted := fun _ _ => by
        simp only [List.forall_mem_append, List.forall_mem_map]
        refine ⟨fun p _ => ?_, fun q hq => Participant.settled_ne_enlisted (hheld.2 q hq)⟩
        show Standing.committed ≠ .enlisted
        decide
      completed := fun hcompleted => by simp only [hstate, reduceCtorEq] at hcompleted
      disposed := fun hdisposed => by simp only [hstate, reduceCtorEq] at hdisposed
      committedFirst := by
        refine List.pairwise_append.mpr ⟨?_, ?_, ?_⟩
        · exact List.pairwise_map.mpr (List.pairwise_of_forall fun _ _ _ => rfl)
        · exact List.pairwise_of_forall_mem_list fun _ _ q hq hq' => absurd hq' (hsettled q hq)
        · exact fun _ _ q hq hq' => absurd hq' (hsettled q hq) }

/-- A disposal stopped on the way. -/
theorem SoundOwn.stopped (h : SoundOwn s) (hstate : s.state = .opened)
    {ps qs : List (Participant Nat)} (split : s.participants = ps ++ qs) :
    SoundOwn { s with
      disposing := true
      participants := ps.map Participant.settled ++ qs } := by
  have hisolation := h.isolation
  have hheld := h.held (not_disposed hstate)
  have hnone := h.unattempted
  have hattempted := h.attempted hstate
  have hfirst := h.committedFirst
  simp only [split, List.forall_mem_append] at hisolation hheld hnone hattempted hfirst
  exact
    { isolation := by
        simp only [List.forall_mem_append, List.forall_mem_map, Participant.settled_isolation]
        exact hisolation
      held := fun _ => by
        simp only [List.forall_mem_append, List.forall_mem_map, Participant.settled_handle]
        exact hheld
      released := fun hdisposed => by simp only [hstate, reduceCtorEq] at hdisposed
      fresh := fun _ hdisposing => by cases hdisposing
      unattempted := fun hun => by
        simp only [List.forall_mem_append, List.forall_mem_map, ne_eq,
          Participant.settled_committed_iff]
        exact hnone hun
      attempted := fun _ hdone => by
        simp only [List.forall_mem_append, List.forall_mem_map]
        exact ⟨fun p hp => Participant.settled_ne_enlisted (hheld.1 p hp), (hattempted hdone).2⟩
      completed := fun hcompleted => by simp only [hstate, reduceCtorEq] at hcompleted
      disposed := fun hdisposed => by simp only [hstate, reduceCtorEq] at hdisposed
      committedFirst := committedFirst_settled hfirst }

/-- Closing a scope in which nobody is enlisted any more. -/
theorem soundOwn_closed {ps : List (Participant Nat)} {disposing : Bool}
    (hisolation : ∀ p ∈ ps, p.isolation = s.options.isolation)
    (hnone : s.completeAttempted = false → ∀ p ∈ ps, p.standing ≠ .committed)
    (hstanding : ∀ p ∈ ps, p.standing ≠ .enlisted)
    (hfirst : ps.Pairwise fun p q => q.standing = .committed → p.standing = .committed) :
    SoundOwn (Scope.closed s ps disposing) where
  isolation := List.forall_mem_map.mpr hisolation
  held hstate := absurd rfl hstate
  released _ := List.forall_mem_map.mpr fun _ _ => rfl
  fresh hopen := by cases hopen
  unattempted hun := List.forall_mem_map.mpr (hnone hun)
  attempted hopen := by cases hopen
  completed hcompleted := by cases hcompleted
  disposed _ := List.forall_mem_map.mpr hstanding
  committedFirst := List.pairwise_map.mpr hfirst

end Own

/-! ## The steps -/

/-- A new record for the scope of a usage whose participants are in transactions of their own. -/
theorem Sound.of_own {u : Usage} (h : Sound u) {s : Scope Nat} {calls : List Call}
    (hmode : u.scope.mode = some .own) (hs : s.mode = some .own)
    (hindex : s.participants.map Participant.index = u.scope.participants.map Participant.index)
    (hown : SoundOwn s) : Sound { u with scope := s, calls } := by
  have hlength : s.participants.length = u.scope.participants.length := by
    simpa only [List.length_map] using congrArg List.length hindex
  have hempty : u.scope.participants ≠ [] := fun hnil => by
    have := h.unset.mpr hnil
    rw [hmode] at this
    cases this
  exact
    { indexed := by rw [hindex, hlength, h.indexed]
      unset := by
        rw [hs]
        refine iff_of_false (Option.some_ne_none _) fun hnil => ?_
        refine hempty (List.length_eq_zero_iff.mp ?_)
        rw [← hlength, hnil]
        rfl
      joined := fun place hplace => by rw [hs] at hplace; cases hplace
      own := fun _ => hown }

/-- A scope whose participants are not in transactions of their own keeps them as they are. -/
theorem Sound.of_same {u : Usage} (h : Sound u) {s : Scope Nat} {calls : List Call}
    (hown : u.scope.mode ≠ some .own) (hmode : s.mode = u.scope.mode)
    (hsame : s.participants = u.scope.participants) : Sound { u with scope := s, calls } where
  indexed := by simp only [hsame, h.indexed]
  unset := by simp only [hmode, hsame, h.unset]
  joined place hplace := by
    simp only [hsame]
    exact h.joined place (hmode ▸ hplace)
  own hs := absurd (hmode ▸ hs) hown

/-- Only participants in transactions of their own hold handles. -/
theorem Sound.map_released {u : Usage} (h : Sound u) (hown : u.scope.mode ≠ some .own) :
    u.scope.participants.map Participant.released = u.scope.participants := by
  have hkeep : ∀ p ∈ u.scope.participants, p.released = p := by
    rintro ⟨_, _, _, _, handle⟩ hp
    cases (h.enlisted hown _ hp).1
    rfl
  exact (List.map_congr_left hkeep).trans (List.map_id' _)

/-- A scope that may be completed has only pending participants of its own. -/
theorem Sound.pending {u : Usage} (h : Sound u) (hobstacle : u.scope.completeObstacle = none)
    (hmode : u.scope.mode = some .own) : ∀ p ∈ u.scope.participants, p.isPending = true := by
  obtain ⟨hstate, hdisposing, hattempted⟩ := (completeObstacle_eq_none_iff _).mp hobstacle
  intro p hp
  have hown := h.own hmode
  exact p.isPending_iff.mpr
    ⟨hown.fresh hstate hdisposing hattempted p hp, hown.held (not_disposed hstate) p hp⟩

/-- What is left of a plan while its adapter answers: the scope is as it was, and the ambient
transaction is the same, but it may have been joined by others or ended. -/
inductive Awaited (s : Scope Nat) (ambients : Ambients) : Plan → Prop where
  | ambient {place : AmbientRef} {found now : Ambient} (obstacle : s.enlistObstacle = none)
      (mode : s.mode = some (.ambient place) ∨ s.mode = none)
      (stored : ambients[place]? = some now) (same : now.Same found) :
      Awaited s ambients (.ambient place found)
  | own (obstacle : s.enlistObstacle = none) (mode : s.mode = some .own ∨ s.mode = none) :
      Awaited s ambients (.own s.options.isolation)

/-- A plan that was made is one that may be answered. -/
theorem Planned.awaited {s : Scope Nat} {ambients : Ambients} {name : String}
    {offered : Option AmbientRef} {plan : Plan} (h : Planned s ambients name offered (.ok plan)) :
    Awaited s ambients plan := by
  cases h with
  | ambient obstacle mode stored active =>
    exact .ambient obstacle (mode.imp_right And.left) stored (.refl _)
  | own obstacle mode => exact .own obstacle (mode.imp_right And.left)

/-- A plan may still be answered after ambient transactions have moved on. -/
theorem Awaited.later {s : Scope Nat} {ambients later : Ambients} {plan : Plan}
    (h : Awaited s ambients plan) (hlater : ambients.Later later) : Awaited s later plan := by
  cases h with
  | ambient obstacle mode stored same =>
    obtain ⟨now, hnow, same'⟩ := hlater _ _ stored
    exact .ambient obstacle mode hnow (same'.trans same)
  | own obstacle mode => exact .own obstacle mode

/-- Whoever is taken into an ambient transaction fixes the mode to it. -/
theorem withAmbient_mode {s : Scope Nat} {place : AmbientRef} (name : String) (found : Ambient)
    (mode : s.mode = some (.ambient place) ∨ s.mode = none) :
    (s.withAmbient name place found).mode = some (.ambient place) := by
  rcases mode with hmode | hmode <;> simp only [withAmbient, hmode, Option.getD_some,
    Option.getD_none]

/-- Whoever is taken in with a transaction of its own fixes the mode to that. -/
theorem withOwn_mode {s : Scope Nat} (name : String) (isolation : IsolationLevel) (number : Nat)
    (mode : s.mode = some .own ∨ s.mode = none) :
    (s.withOwn name isolation number).mode = some .own := by
  rcases mode with hmode | hmode <;> simp only [withOwn, hmode, Option.getD_some, Option.getD_none]

/-- An ambient enlistment keeps a scope sound. -/
theorem sound_joined {u : Usage} (h : Sound u) {place : AmbientRef} {found : Ambient}
    {name : String} {calls : List Call}
    (awaited : Awaited u.scope u.ambients (.ambient place found)) :
    Sound
      { scope := u.scope.withAmbient name place found
        ambients := u.ambients.modify place Ambient.countEnlistment
        calls } := by
  cases awaited with
  | @ambient _ _ now obstacle mode stored same =>
    have hmode := withAmbient_mode name found mode
    have hold : ∀ p ∈ u.scope.participants,
        p.handle = none ∧ p.standing = .enlisted ∧ p.isolation = found.isolation := by
      rcases mode with hmode | hmode
      · obtain ⟨before, hstored, hall⟩ := h.joined place hmode
        cases hstored.symm.trans stored
        rwa [same.isolation] at hall
      · rw [h.unset.mp hmode]
        exact fun p hp => absurd hp List.not_mem_nil
    exact
      { indexed := by
          simp only [withAmbient, List.map_append, h.indexed, List.map_cons, List.map_nil,
            List.length_append, List.length_cons, List.length_nil, List.range_succ, Nat.zero_add]
        unset := by
          rw [hmode]
          exact iff_of_false (Option.some_ne_none _)
            (List.append_ne_nil_of_right_ne_nil _ (List.cons_ne_nil _ _))
        joined := fun place' hplace => by
          cases hmode.symm.trans hplace
          refine ⟨now.countEnlistment, ?_, ?_⟩
          · simp only [List.getElem?_modify, stored, if_true]
            rfl
          · have hisolation : now.countEnlistment.isolation = found.isolation := same.isolation
            rw [hisolation]
            exact List.forall_mem_append.mpr
              ⟨hold, List.forall_mem_singleton.mpr ⟨rfl, rfl, rfl⟩⟩
        own := fun hown => by
          cases hmode.symm.trans hown }

/-- So does one with a transaction of its own. -/
theorem sound_begun {u : Usage} (h : Sound u) {name : String} {isolation : IsolationLevel}
    {number : Nat} {calls : List Call} (awaited : Awaited u.scope u.ambients (.own isolation)) :
    Sound { u with scope := u.scope.withOwn name isolation number, calls } := by
  cases awaited with
  | own obstacle mode =>
    obtain ⟨hstate, hdisposing, hattempted⟩ := (enlistObstacle_eq_none_iff _).mp obstacle
    have hmode := withOwn_mode name u.scope.options.isolation number mode
    have hold : ∀ p ∈ u.scope.participants, p.isolation = u.scope.options.isolation ∧
        p.handle.isSome = true ∧ p.standing = .enlisted := by
      rcases mode with hmode | hmode
      · have hown := h.own hmode
        exact fun p hp => ⟨hown.isolation p hp, hown.held (not_disposed hstate) p hp,
          hown.fresh hstate hdisposing hattempted p hp⟩
      · rw [h.unset.mp hmode]
        exact fun p hp => absurd hp List.not_mem_nil
    have hall : ∀ p ∈ (u.scope.withOwn name u.scope.options.isolation number).participants,
        p.isolation = u.scope.options.isolation ∧ p.handle.isSome = true ∧ p.standing = .enlisted :=
      List.forall_mem_append.mpr ⟨hold, List.forall_mem_singleton.mpr ⟨rfl, rfl, rfl⟩⟩
    exact
      { indexed := by
          simp only [withOwn, List.map_append, h.indexed, List.map_cons, List.map_nil,
            List.length_append, List.length_cons, List.length_nil, List.range_succ, Nat.zero_add]
        unset := by
          rw [hmode]
          exact iff_of_false (Option.some_ne_none _)
            (List.append_ne_nil_of_right_ne_nil _ (List.cons_ne_nil _ _))
        joined := fun place' hplace => by
          cases hmode.symm.trans hplace
        own := fun _ =>
          { isolation := fun p hp => (hall p hp).1
            held := fun _ p hp => (hall p hp).2.1
            released := fun hdisposed => by cases hstate.symm.trans hdisposed
            fresh := fun _ _ _ p hp => (hall p hp).2.2
            unattempted := fun _ p hp hcommitted => by
              cases (hall p hp).2.2.symm.trans hcommitted
            attempted := fun _ hdone => by cases hattempted.symm.trans hdone
            completed := fun hcompleted => by cases hstate.symm.trans hcompleted
            disposed := fun hdisposed => by cases hstate.symm.trans hdisposed
            committedFirst := List.pairwise_of_forall_mem_list fun _ _ q hq hcommitted => by
              cases (hall q hq).2.2.symm.trans hcommitted } }

/-- So does any answer to a plan. -/
theorem sound_carryOut {u : Usage} (h : Sound u) (applicant : Applicant) {plan : Plan}
    (awaited : Awaited u.scope u.ambients plan) : Sound (u.carryOut applicant plan).2 := by
  have hstep := carryStep u applicant plan
  generalize u.carryOut applicant plan = r at hstep ⊢
  cases hstep with
  | notJoined join => exact ⟨h.indexed, h.unset, h.joined, h.own⟩
  | notBegun begin => exact ⟨h.indexed, h.unset, h.joined, h.own⟩
  | joined join => exact sound_joined h awaited
  | begun begin => exact sound_begun h awaited

/-- So does an enlistment, whatever is on offer. -/
theorem sound_enlist {u : Usage} (h : Sound u) (applicant : Applicant)
    (offered : Option AmbientRef) : Sound (u.enlist applicant offered).2 := by
  have hplan := planned u.scope u.ambients applicant.name offered
  rw [Usage.enlist_eq]
  cases hplanned : u.scope.plan u.ambients applicant.name offered with
  | error error => exact h
  | ok plan =>
    rw [hplanned] at hplan
    exact sound_carryOut h applicant hplan.awaited

/-- So does a completion, whatever it comes to. -/
theorem sound_complete {u : Usage} (h : Sound u) (discipline : Discipline) (answers : Answers)
    (token : Option Token) : Sound (u.complete discipline answers token).2 := by
  have hstep := completeStep u discipline answers token h.pending
  generalize u.complete discipline answers token = r at hstep ⊢
  cases hstep with
  | refused obstacle => exact h
  | quiet obstacle mode => exact h.of_same mode rfl rfl
  | through obstacle mode commits =>
    obtain ⟨hstate, -, -⟩ := (completeObstacle_eq_none_iff _).mp obstacle
    refine h.of_own mode mode ?_ ((h.own mode).through hstate)
    simp only [List.map_map]
    rfl
  | halted obstacle mode split commits handle halts =>
    obtain ⟨hstate, -, hattempted⟩ := (completeObstacle_eq_none_iff _).mp obstacle
    refine h.of_own mode mode ?_ ((h.own mode).halted hstate hattempted split)
    simp only [split, List.map_append, List.map_map, Function.comp_def, Participant.settled_index]
    rfl

/-- So does a disposal, a cancelled one included. -/
theorem sound_dispose {u : Usage} (h : Sound u) (discipline : Discipline) (answers : Answers)
    (token : Option Token) : Sound (u.dispose discipline answers token).2 := by
  have hstep := disposeStep u discipline answers token
  generalize u.dispose discipline answers token = r at hstep ⊢
  cases hstep with
  | again disposed => exact h
  | quiet state needs =>
    by_cases hmode : u.scope.mode = some .own
    · have hown := h.own hmode
      have hcompleted := completed_of_quiet hmode state needs
      refine h.of_own hmode hmode ?_ (soundOwn_closed hown.isolation hown.unattempted ?_
        hown.committedFirst)
      · simp only [Scope.closed, List.map_map]
        rfl
      · intro p hp
        rw [hown.completed hcompleted p hp]
        decide
    · exact h.of_same hmode rfl (h.map_released hmode)
  | through needs =>
    obtain ⟨hmode, hstate⟩ := (needsRollback_iff _).mp needs
    have hown := h.own hmode
    have hheld := hown.held (not_disposed hstate)
    refine h.of_own hmode hmode ?_ (soundOwn_closed ?_ ?_ ?_ ?_)
    · simp only [Scope.closed, List.map_map, Function.comp_def, Participant.released,
        Participant.settled_index]
    · simpa only [List.forall_mem_map, Participant.settled_isolation] using hown.isolation
    · simpa only [List.forall_mem_map, ne_eq, Participant.settled_committed_iff] using
        hown.unattempted
    · exact List.forall_mem_map.mpr fun p hp => Participant.settled_ne_enlisted (hheld p hp)
    · simpa only [List.pairwise_map, Participant.settled_committed_iff] using hown.committedFirst
  | stopped needs split pending handle stops =>
    obtain ⟨hmode, hstate⟩ := (needsRollback_iff _).mp needs
    refine h.of_own hmode hmode ?_ ((h.own hmode).stopped hstate split)
    simp only [split, List.map_append, List.map_map, Function.comp_def, Participant.settled_index]

/-- A scope is sound among the ambient transactions as they are later. -/
theorem Sound.later {u : Usage} (h : Sound u) {ambients : Ambients}
    (later : u.ambients.Later ambients) : Sound { u with ambients } where
  indexed := h.indexed
  unset := h.unset
  joined place hplace := by
    obtain ⟨found, hstored, hall⟩ := h.joined place hplace
    obtain ⟨now, hnow, same⟩ := later place found hstored
    exact ⟨now, hnow, same.isolation ▸ hall⟩
  own := h.own

/-- Every use keeps a scope sound. -/
theorem sound_step (discipline : Discipline) (u : Usage) (use : Use) (h : Sound u) :
    Sound (u.step discipline use) := by
  cases use with
  | enlist applicant offered => exact sound_enlist h applicant offered
  | complete answers token => exact sound_complete h discipline answers token
  | dispose answers token => exact sound_dispose h discipline answers token
  | outside event => exact h.later (Ambients.later_after u.ambients event)

/-- Every state of a run is sound. -/
theorem sound_run (discipline : Discipline) (id : String) (options : ScopeOptions)
    (ambients : Ambients) (uses : List Use) :
    Sound ((Usage.start id options ambients).run discipline uses) :=
  Usage.run_induction (sound_step discipline) (sound_start id options ambients) uses

/-! ## The main statement -/

/-- A mode once set stays. -/
theorem mode_step (discipline : Discipline) {mode : Mode} (u : Usage) (use : Use)
    (h : Sound u ∧ u.scope.mode = some mode) :
    Sound (u.step discipline use) ∧ (u.step discipline use).scope.mode = some mode := by
  obtain ⟨hsound, hmode⟩ := h
  refine ⟨sound_step discipline u use hsound, ?_⟩
  cases use with
  | enlist applicant offered =>
    have hstep := enlistStep u applicant offered
    simp only [Usage.step]
    generalize u.enlist applicant offered = r at hstep ⊢
    cases hstep <;> simp only [withAmbient, withOwn, hmode, Option.getD_some]
  | complete answers token =>
    have hstep := completeStep u discipline answers token hsound.pending
    simp only [Usage.step]
    generalize u.complete discipline answers token = r at hstep ⊢
    cases hstep <;> exact hmode
  | dispose answers token =>
    have hstep := disposeStep u discipline answers token
    simp only [Usage.step]
    generalize u.dispose discipline answers token = r at hstep ⊢
    cases hstep <;> exact hmode
  | outside event => exact hmode

/-- In every state that a run reaches the scope is coherent, and whatever is done further, its mode
stays once it is set. -/
theorem coherent_run (discipline : Discipline) (id : String) (options : ScopeOptions)
    (ambients : Ambients) (uses : List Use) :
    let u := (Usage.start id options ambients).run discipline uses
    Coherent u.scope u.ambients ∧
      ∀ mode, u.scope.mode = some mode →
        ∀ more, (u.run discipline more).scope.mode = some mode := by
  intro u
  have hsound := sound_run discipline id options ambients uses
  refine ⟨hsound.coherent, fun mode hmode more => ?_⟩
  have := Usage.run_induction (P := fun u => Sound u ∧ u.scope.mode = some mode)
    (mode_step discipline) ⟨hsound, hmode⟩ more
  exact this.2

end UnitOfWork.Scope
