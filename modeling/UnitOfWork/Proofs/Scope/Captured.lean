import UnitOfWork.Proofs.Scope.Accounts
import UnitOfWork.Proofs.Scope.Shared

/-!
# Ambient transactions and the scopes that captured them

After any history of scopes among ambient transactions, an ambient transaction has counted the
participants of the scopes that captured it, no more and no fewer, and its status is what the first
completion or abort asked of it has made it (`Tallied`). A scope that captured one is bound to it for
good: it joins that one or nothing, whatever is on offer, and once that one has ended it refuses
(`Captive`).

The invariant is in two parts. `Member.Holds` is about one scope among the ambient transactions, is kept
by every move of its own and does not mind what the others do to them; `Shared.Holds` adds the count,
where a move of one scope and the count of one ambient transaction go together.
-/

set_option autoImplicit false

namespace UnitOfWork.Scope

/-! ## The statement -/

/-- The name and the ambient transaction of a call that joined. -/
def Call.joined? : Call → Option (String × String)
  | .join name ambient (.ok ()) => some (name, ambient)
  | _ => none

/-- Who joined which ambient transaction, in the order of the calls. -/
def joins (calls : List Call) : List (String × String) := calls.filterMap Call.joined?

/-- How many participants a scope has recorded in an ambient transaction. -/
def recordedIn (s : Scope Nat) (place : AmbientRef) : Nat :=
  if s.ambient = some place then s.participants.length else 0

/-- How many participants were recorded by the scopes that captured an ambient transaction, the
dropped ones included. -/
def recorded (place : AmbientRef) : List Member → Nat
  | [] => 0
  | m :: members => m.scope.recordedIn place + recorded place members

/-- The ending that an act asks of an ambient transaction. -/
def Act.ending? (place : AmbientRef) : Act → Option AmbientEnding
  | .finish other ending => if other = place then some ending else none
  | _ => none

/-- Every ending that was asked of an ambient transaction since it began, the first one first. -/
def asked (place : AmbientRef) : List Act → List AmbientEnding
  | [] => []
  | act :: past =>
    if place < (Shared.after past).ambients.length then
      asked place past ++ (act.ending? place).toList
    else []

/-- The status of an ambient transaction of which these endings were asked. -/
def statusOf (endings : List AmbientEnding) : AmbientStatus :=
  (endings.head?.map AmbientEnding.status).getD .active

/-- What is known of an ambient transaction after a history. -/
structure Tallied (past : List Act) (place : AmbientRef) (a : Ambient) : Prop where
  enlistments : a.enlistments = recorded place (Shared.after past).members
  status : a.status = statusOf (asked place past)
  /-- The first ending is carried out. -/
  first : asked place past = [] → ∀ ending, a.finish ending = .ok { a with status := ending.status }
  /-- Every other is refused, and changes nothing. -/
  again : asked place past ≠ [] → ∀ ending,
    a.finish ending =
      .error (.state ending.text s!"ambient transaction {a.id} is already {a.status.text}") ∧
    (Shared.after past).next (.finish place ending) = Shared.after past
  /-- It keeps its place, and its status too, once it has ended or as long as nobody ends it. -/
  later : ∀ more, ∃ b, (Shared.after (more ++ past)).ambients[place]? = some b ∧ b.Same a ∧
    (asked place past ≠ [] ∨ (∀ ending, .finish place ending ∉ more) → b.status = a.status)

/-- What is known of a scope that captured an ambient transaction, after a history. -/
structure Captive (past : List Act) (i : Nat) (m : Member) (place : AmbientRef) (a : Ambient) :
    Prop where
  /-- The calls that joined are those of its participants, one each. -/
  joins : joins m.calls = m.scope.participants.map fun p => (p.name, a.id)
  /-- It called nothing else, but for begins that failed before it captured anything. -/
  calls : ∀ call ∈ m.calls, call.rank = 0 ∧ call.isBegun = false
  /-- While it is open it asks its adapters to join that one, or refuses when that one has ended. -/
  enlist : m.scope.state = .opened → ∀ applicant offered,
    m.enlist (Shared.after past).ambients applicant offered =
      if a.isActive then (.ok (), { m with waiting := some (applicant, .ambient place a) })
      else (.error (.noActiveTransaction applicant.name .begin), m)
  /-- An enlistment calls its adapter once, and is accepted if the adapter joined. -/
  answer : ∀ applicant plan, m.waiting = some (applicant, plan) →
    let r := m.answer (Shared.after past).ambients
    r.1 = some (match applicant.join with
      | .ok () => .ok none
      | .error source => .error (.ambientEnlist applicant.name a.id source)) ∧
    r.2.1.calls = m.calls ++ [.join applicant.name a.id applicant.join]
  /-- Whatever comes, it stays captured, and makes no calls but to join that one. -/
  later : ∀ more, ∃ m', (Shared.after (more ++ past)).members[i]? = some m' ∧
    m'.scope.ambient = some place ∧ ∃ new, m'.calls = m.calls ++ new ∧
      ∀ call ∈ new, ∃ name outcome, call = .join name a.id outcome

/-! ## The invariant of one scope -/

/-- A scope has captured the ambient transaction of its mode, and no other. -/
theorem ambient_eq_some_iff {H : Type} (s : Scope H) (place : AmbientRef) :
    s.ambient = some place ↔ s.mode = some (.ambient place) := by
  unfold ambient
  cases s.mode with
  | none => simp
  | some mode => cases mode <;> simp

theorem ne_own_of_ambient {H : Type} {s : Scope H} {place : AmbientRef}
    (h : s.mode = some (.ambient place)) : s.mode ≠ some .own := by
  rw [h]
  simp

@[simp] theorem joins_append (calls new : List Call) :
    joins (calls ++ new) = joins calls ++ joins new := by
  simp [joins]

/-- What the acts keep of a scope among the ambient transactions. -/
structure Member.Holds (m : Member) (ambients : Ambients) : Prop where
  sound : (m.dropped = true → m.scope.mode ≠ some .own) → Sound (m.usage ambients)
  waiting : ∀ applicant plan, m.waiting = some (applicant, plan) →
    m.dropped = false ∧ Awaited m.scope ambients plan
  /-- Without transactions of its own, a scope is closed by its first completion or disposal. -/
  opened : m.scope.mode ≠ some .own → m.scope.state = .opened → m.scope.enlistObstacle = none
  calls : m.scope.mode ≠ some .own → ∀ call ∈ m.calls, call.rank = 0 ∧ call.isBegun = false
  unjoined : m.scope.mode = none → Scope.joins m.calls = []
  joined : ∀ place found, m.scope.mode = some (.ambient place) → ambients[place]? = some found →
    Scope.joins m.calls = m.scope.participants.map fun p => (p.name, found.id)

/-- A captured scope only waits to join the ambient transaction it captured. -/
theorem Awaited.captured {s : Scope Nat} {ambients : Ambients} {plan : Plan} {place : AmbientRef}
    {a : Ambient} (h : Awaited s ambients plan) (hmode : s.mode = some (.ambient place))
    (stored : ambients[place]? = some a) : ∃ found, plan = .ambient place found ∧ a.Same found := by
  cases h with
  | ambient obstacle mode stored' same =>
    rcases mode with mode | mode
    · cases hmode.symm.trans mode
      cases stored.symm.trans stored'
      exact ⟨_, rfl, same⟩
    · cases hmode.symm.trans mode
  | own obstacle mode => rcases mode with mode | mode <;> cases hmode.symm.trans mode

namespace Member.Holds

variable {m : Member} {ambients : Ambients}

/-- A scope that has called nothing keeps all that is to be kept. -/
theorem fresh (discipline : Discipline) (id : String) (options : ScopeOptions)
    (ambients : Ambients) : Member.Holds { discipline, scope := { id, options } } ambients where
  sound _ := sound_start id options ambients
  waiting _ _ h := by cases h
  opened _ _ := rfl
  calls _ := List.forall_mem_nil _
  unjoined _ := rfl
  joined _ _ h := by cases h

/-- A scope that was not dropped is sound among the ambient transactions. -/
theorem sound_of_kept (h : m.Holds ambients) (kept : m.dropped = false) :
    Sound (m.usage ambients) := h.sound fun hdropped => by cases kept.symm.trans hdropped

/-- So is one without transactions of its own, dropped or not. -/
theorem sound_of_ne (h : m.Holds ambients) (hown : m.scope.mode ≠ some .own) :
    Sound (m.usage ambients) := h.sound fun _ => hown

/-- A captured ambient transaction is stored. -/
theorem stored (h : m.Holds ambients) {place : AmbientRef}
    (hmode : m.scope.mode = some (.ambient place)) : ∃ a, ambients[place]? = some a := by
  obtain ⟨a, hstored, -⟩ := (h.sound_of_ne (ne_own_of_ambient hmode)).joined place hmode
  exact ⟨a, hstored⟩

/-- Nothing that is done to the ambient transactions matters. -/
theorem later (h : m.Holds ambients) {later : Ambients} (hlater : ambients.Later later) :
    m.Holds later where
  sound hown := (h.sound hown).later hlater
  waiting applicant plan hwaiting :=
    (h.waiting applicant plan hwaiting).imp_right (·.later hlater)
  opened := h.opened
  calls := h.calls
  unjoined := h.unjoined
  joined place now hmode hnow := by
    obtain ⟨found, hfound⟩ := h.stored hmode
    obtain ⟨now', hnow', same⟩ := hlater place found hfound
    cases hnow'.symm.trans hnow
    rw [h.joined place found hmode hfound, same.id]

/-- Who joined is who takes part, under the name of the ambient transaction that was captured. -/
theorem joined_eq (h : m.Holds ambients) {place : AmbientRef} {found now : Ambient}
    (mode : m.scope.mode = some (.ambient place) ∨ m.scope.mode = none)
    (stored : ambients[place]? = some now) (same : now.Same found) :
    Scope.joins m.calls = m.scope.participants.map fun p => (p.name, found.id) := by
  rcases mode with mode | mode
  · rw [h.joined place now mode stored, same.id]
  · have hnil : m.scope.participants = [] :=
      (h.sound_of_ne (by rw [mode]; simp)).unset.mp mode
    rw [h.unjoined mode, hnil, List.map_nil]

/-- The adapter refused. -/
theorem refused (h : m.Holds ambients) {call : Call} (rank : call.rank = 0)
    (begun : call.isBegun = false) (unjoined : call.joined? = none) :
    Member.Holds { m with calls := m.calls ++ [call], waiting := none } ambients := by
  have hjoins : Scope.joins (m.calls ++ [call]) = Scope.joins m.calls := by
    simp [Scope.joins, unjoined]
  exact
    { sound := fun hown =>
        have hsound := h.sound hown
        ⟨hsound.indexed, hsound.unset, hsound.joined, hsound.own⟩
      waiting := fun _ _ hwaiting => by cases hwaiting
      opened := h.opened
      calls := fun hown => List.forall_mem_append.mpr
        ⟨h.calls hown, List.forall_mem_singleton.mpr ⟨rank, begun⟩⟩
      unjoined := fun hmode => hjoins.trans (h.unjoined hmode)
      joined := fun place found hmode stored => hjoins.trans (h.joined place found hmode stored) }

/-- The adapter joined. -/
theorem joins (h : m.Holds ambients) {place : AmbientRef} {found : Ambient} (name : String)
    (kept : m.dropped = false) (awaited : Awaited m.scope ambients (.ambient place found)) :
    Member.Holds
      { m with
        scope := m.scope.withAmbient name place found
        calls := m.calls ++ [.join name found.id (.ok ())]
        waiting := none }
      (ambients.modify place Ambient.countEnlistment) := by
  have hsound := h.sound_of_kept kept
  cases awaited with
  | @ambient _ _ now obstacle mode stored same =>
    have hmode := withAmbient_mode name found mode
    have hown := ne_own_of_ambient hmode
    have hbefore : m.scope.mode ≠ some .own := by
      rcases mode with mode | mode <;> simp [mode]
    exact
      { sound := fun _ => sound_joined hsound (.ambient obstacle mode stored same)
        waiting := fun _ _ hwaiting => by cases hwaiting
        opened := fun _ _ => obstacle
        calls := fun _ => List.forall_mem_append.mpr
          ⟨h.calls hbefore, List.forall_mem_singleton.mpr ⟨rfl, rfl⟩⟩
        unjoined := fun hnone => by cases hmode.symm.trans hnone
        joined := fun place' a hplace hstored => by
          cases hmode.symm.trans hplace
          have hid : a.id = found.id := by
            rw [List.getElem?_modify, stored] at hstored
            simp only [if_true] at hstored
            cases hstored
            exact same.id
          have hcalls := h.joined_eq mode stored same
          rw [joins_append, hcalls, hid]
          show _ = (m.scope.participants ++ _).map _
          rw [List.map_append]
          rfl }

/-- The adapter began a transaction. -/
theorem begins (h : m.Holds ambients) {isolation : IsolationLevel} (name : String) (number : Nat)
    (kept : m.dropped = false) (awaited : Awaited m.scope ambients (.own isolation)) :
    Member.Holds
      { m with
        scope := m.scope.withOwn name isolation number
        calls := m.calls ++ [.begin name isolation (.ok ())]
        waiting := none }
      ambients := by
  have hsound := h.sound_of_kept kept
  cases awaited with
  | own obstacle mode =>
    have hmode := withOwn_mode name m.scope.options.isolation number mode
    exact
      { sound := fun _ => sound_begun hsound (.own obstacle mode)
        waiting := fun _ _ hwaiting => by cases hwaiting
        opened := fun hown => absurd hmode hown
        calls := fun hown => absurd hmode hown
        unjoined := fun hnone => by cases hmode.symm.trans hnone
        joined := fun _ _ hplace => by cases hmode.symm.trans hplace }

/-- An enlistment is answered. -/
theorem carried (h : m.Holds ambients) {applicant : Applicant} {plan : Plan}
    (waiting : m.waiting = some (applicant, plan)) :
    let r := ({ m with waiting := none } : Member).put ((m.usage ambients).carryOut applicant plan).2
    r.1.Holds r.2 := by
  obtain ⟨kept, awaited⟩ := h.waiting applicant plan waiting
  have hstep := carryStep (m.usage ambients) applicant plan
  generalize (m.usage ambients).carryOut applicant plan = r at hstep
  cases hstep with
  | notJoined join => exact h.refused rfl rfl rfl
  | joined join => exact h.joins applicant.name kept awaited
  | notBegun begin => exact h.refused rfl rfl rfl
  | begun begin => exact h.begins applicant.name _ kept awaited

/-- A scope that stands aside. -/
theorem aside (h : m.Holds ambients) {u : Usage} {dropped : Bool} (waiting : m.waiting = none)
    (aside : Aside (m.usage ambients) u)
    (sound : (dropped = true → u.scope.mode ≠ some .own) → Sound u) :
    Member.Holds { m with scope := u.scope, calls := u.calls, dropped } u.ambients where
  sound := sound
  waiting _ _ hwaiting := by cases waiting.symm.trans hwaiting
  opened hown hopened := by
    have hbefore : m.scope.mode ≠ some .own := aside.mode ▸ hown
    have hscope : u.scope = m.scope := aside.opened hbefore hopened
    show u.scope.enlistObstacle = none
    rw [hscope]
    exact h.opened hbefore (hscope ▸ hopened)
  calls hown := by
    have hbefore : m.scope.mode ≠ some .own := aside.mode ▸ hown
    show ∀ call ∈ u.calls, _
    rw [aside.calls hbefore]
    exact h.calls hbefore
  unjoined hnone := by
    have hbefore : m.scope.mode = none := aside.mode ▸ hnone
    show Scope.joins u.calls = []
    rw [aside.calls (by simp [Member.usage, hbefore])]
    exact h.unjoined hbefore
  joined place found hmode stored := by
    have hbefore : m.scope.mode = some (.ambient place) := aside.mode ▸ hmode
    have hown := ne_own_of_ambient hbefore
    have hstored : ambients[place]? = some found := by
      rw [← stored, aside.ambients]
      rfl
    show Scope.joins u.calls = u.scope.participants.map _
    rw [aside.calls hown, aside.participants hown]
    exact h.joined place found hbefore hstored

end Member.Holds

/-! ## What a move keeps -/

section Recorded

variable {s : Scope Nat} {place : AmbientRef}

theorem recordedIn_of_mode (h : s.mode = some (.ambient place)) :
    s.recordedIn place = s.participants.length :=
  if_pos ((ambient_eq_some_iff s place).mpr h)

theorem recordedIn_of_ne (h : s.mode ≠ some (.ambient place)) : s.recordedIn place = 0 :=
  if_neg fun hambient => h ((ambient_eq_some_iff s place).mp hambient)

/-- What changes neither the mode nor the participants recorded changes no count. -/
theorem recordedIn_congr {s' : Scope Nat} (hmode : s'.mode = s.mode)
    (hkept : s.mode ≠ some .own → s'.participants = s.participants) :
    s'.recordedIn place = s.recordedIn place := by
  by_cases h : s.mode = some (.ambient place)
  · rw [recordedIn_of_mode h, recordedIn_of_mode (hmode.trans h), hkept (ne_own_of_ambient h)]
  · rw [recordedIn_of_ne h, recordedIn_of_ne (hmode ▸ h)]

/-- Who takes part by a transaction of its own counts for no ambient transaction. -/
theorem recordedIn_withOwn (name : String) (isolation : IsolationLevel) (number : Nat)
    (mode : s.mode = some .own ∨ s.mode = none) :
    (s.withOwn name isolation number).recordedIn place = s.recordedIn place := by
  have hbefore : s.mode ≠ some (.ambient place) := by
    rcases mode with mode | mode <;> simp [mode]
  rw [recordedIn_of_ne hbefore, recordedIn_of_ne (by simp [withOwn_mode name isolation number mode])]

/-- Who is taken in counts for the ambient transaction that is joined, and for no other. -/
theorem recordedIn_withAmbient (name : String) (found : Ambient)
    (mode : s.mode = some (.ambient place) ∨ s.mode = none)
    (unset : s.mode = none → s.participants = []) (other : AmbientRef) :
    (s.withAmbient name place found).recordedIn other =
      s.recordedIn other + if place = other then 1 else 0 := by
  have hafter := withAmbient_mode name found mode
  by_cases hplace : place = other
  · subst hplace
    rw [if_pos rfl, recordedIn_of_mode hafter]
    show (s.participants ++ [_]).length = _
    rw [List.length_append, List.length_singleton]
    rcases mode with mode | mode
    · rw [recordedIn_of_mode mode]
    · rw [recordedIn_of_ne (by simp [mode]), unset mode, List.length_nil]
  · have hbefore : s.mode ≠ some (.ambient other) := by
      rcases mode with mode | mode <;> simp [mode, hplace]
    rw [if_neg hplace, recordedIn_of_ne hbefore, recordedIn_of_ne (by simp [hafter, hplace])]

end Recorded

namespace MoveStep

variable {m : Member} {ambients : Ambients} {r : Member × Ambients}

/-- A move keeps what holds of the scope that makes it. -/
theorem holds (step : MoveStep m ambients r) (h : m.Holds ambients) : r.1.Holds r.2 := by
  cases step with
  | idle => exact h
  | planned kept awaited =>
    exact ⟨h.sound, fun _ _ hwaiting => by cases hwaiting; exact ⟨kept, awaited⟩, h.opened, h.calls,
      h.unjoined, h.joined⟩
  | carried waiting => exact h.carried waiting
  | aside kept waiting aside sound => exact h.aside waiting aside sound

/-- A move ends no ambient transaction, and each counts what the scope has newly recorded in it. -/
theorem counted (step : MoveStep m ambients r) (h : m.Holds ambients) {place : AmbientRef}
    {a : Ambient} (stored : r.2[place]? = some a) :
    ∃ found, ambients[place]? = some found ∧ a.status = found.status ∧
      a.enlistments + m.scope.recordedIn place = found.enlistments + r.1.scope.recordedIn place := by
  cases step with
  | idle => exact ⟨a, stored, rfl, rfl⟩
  | planned kept awaited => exact ⟨a, stored, rfl, rfl⟩
  | @aside u dropped kept waiting aside sound =>
    have hstored : u.ambients[place]? = some a := stored
    rw [aside.ambients] at hstored
    refine ⟨a, hstored, rfl, ?_⟩
    exact congrArg (a.enlistments + ·) (recordedIn_congr aside.mode aside.participants).symm
  | @carried applicant plan waiting =>
    obtain ⟨kept, awaited⟩ := h.waiting applicant plan waiting
    have hstep := carryStep (m.usage ambients) applicant plan
    generalize (m.usage ambients).carryOut applicant plan = r at hstep stored
    cases hstep with
    | notJoined join => exact ⟨a, stored, rfl, rfl⟩
    | notBegun begin => exact ⟨a, stored, rfl, rfl⟩
    | begun begin =>
      cases awaited with
      | own obstacle mode =>
        refine ⟨a, stored, rfl, congrArg (a.enlistments + ·) ?_⟩
        exact (recordedIn_withOwn applicant.name _ _ mode).symm
    | @joined joined found join =>
      cases awaited with
      | ambient obstacle mode stored' same =>
        have hcounts := recordedIn_withAmbient applicant.name found mode
          (h.sound_of_kept kept).unset.mp place
        obtain ⟨before, hbefore, hchange⟩ := getElem?_modify_cases stored
        refine ⟨before, hbefore, ?_⟩
        show _ ∧ a.enlistments + m.scope.recordedIn place = _ + (m.scope.withAmbient _ _ _).recordedIn _
        rcases hchange with ⟨hplace, rfl⟩ | ⟨hplace, rfl⟩
        · rw [if_pos hplace] at hcounts
          refine ⟨rfl, ?_⟩
          show before.enlistments + 1 + _ = _
          omega
        · rw [if_neg hplace] at hcounts
          exact ⟨rfl, by omega⟩

/-- A captured scope stays captured, and calls nothing but to join. -/
theorem captured (step : MoveStep m ambients r) (h : m.Holds ambients) {place : AmbientRef}
    {a : Ambient} (hmode : m.scope.mode = some (.ambient place)) (stored : ambients[place]? = some a) :
    r.1.scope.mode = some (.ambient place) ∧ ∃ new, r.1.calls = m.calls ++ new ∧
      ∀ call ∈ new, ∃ name outcome, call = .join name a.id outcome := by
  cases step with
  | idle => exact ⟨hmode, [], (List.append_nil _).symm, List.forall_mem_nil _⟩
  | planned kept awaited => exact ⟨hmode, [], (List.append_nil _).symm, List.forall_mem_nil _⟩
  | aside kept waiting aside sound =>
    refine ⟨aside.mode.trans hmode, [], ?_, List.forall_mem_nil _⟩
    rw [List.append_nil]
    exact aside.calls (ne_own_of_ambient hmode)
  | @carried applicant plan waiting =>
    obtain ⟨kept, awaited⟩ := h.waiting applicant plan waiting
    obtain ⟨found, rfl, same⟩ := awaited.captured hmode stored
    have hstep := carryStep (m.usage ambients) applicant (.ambient place found)
    generalize (m.usage ambients).carryOut applicant (.ambient place found) = r at hstep
    cases hstep with
    | notJoined join =>
      exact ⟨hmode, _, rfl, List.forall_mem_singleton.mpr ⟨_, _, by rw [same.id]⟩⟩
    | joined join =>
      exact ⟨withAmbient_mode applicant.name found (.inl hmode), _, rfl,
        List.forall_mem_singleton.mpr ⟨_, _, by rw [same.id]⟩⟩

/-- A move only adds to what ambient transactions know. -/
theorem later (step : MoveStep m ambients r) : ambients.Later r.2 := by
  cases step with
  | idle => exact .refl ambients
  | planned kept awaited => exact .refl ambients
  | carried waiting => exact Usage.later_carryOut (m.usage ambients) _ _
  | @aside u dropped kept waiting aside sound =>
    show ambients.Later u.ambients
    rw [aside.ambients]
    exact .refl ambients

end MoveStep

/-! ## What an act keeps -/

/-- What the acts keep. -/
structure Shared.Holds (w : Shared) : Prop where
  members : ∀ (i : Nat) (m : Member), w.members[i]? = some m → m.Holds w.ambients
  counted : ∀ (place : AmbientRef) (a : Ambient), w.ambients[place]? = some a →
    a.enlistments = recorded place w.members

/-- Everything an act can do. -/
inductive NextStep (w : Shared) : Act → Shared → Prop where
  | begun (id : String) (isolation : IsolationLevel) :
      NextStep w (.begin id isolation)
        { w with ambients := w.ambients.after (.begin id isolation) }
  | finished (place : AmbientRef) (ending : AmbientEnding) :
      NextStep w (.finish place ending)
        { w with ambients := w.ambients.after (.finish place ending) }
  | new (discipline : Discipline) (id : String) (options : ScopeOptions) :
      NextStep w (.new discipline id options)
        { w with members := w.members ++ [{ discipline, scope := { id, options } }] }
  | absent {i : Nat} {move : Move} (missing : w.members[i]? = none) : NextStep w (.move i move) w
  | moved {i : Nat} {move : Move} {m : Member} {r : Member × Ambients}
      (stored : w.members[i]? = some m) (step : MoveStep m w.ambients r) :
      NextStep w (.move i move) { ambients := r.2, members := w.members.set i r.1 }

/-- Every act is one of the steps that are told apart. -/
theorem nextStep {w : Shared} (h : w.Holds) (act : Act) : NextStep w act (w.next act) := by
  cases act with
  | begin id isolation => exact .begun id isolation
  | finish place ending => exact .finished place ending
  | new discipline id options => exact .new discipline id options
  | move i move =>
    cases hstored : w.members[i]? with
    | none =>
      simp only [Shared.next, hstored]
      exact .absent hstored
    | some m =>
      simp only [Shared.next, hstored]
      exact .moved hstored (moveStep move (h.members i m hstored).sound_of_kept)

/-- Counts of members add up. -/
theorem recorded_append (place : AmbientRef) (members more : List Member) :
    recorded place (members ++ more) = recorded place members + recorded place more := by
  induction members with
  | nil => simp [recorded]
  | cons m members ih =>
    simp only [List.cons_append, recorded, ih]
    omega

theorem recorded_eq_zero {members : List Member} {place : AmbientRef}
    (h : ∀ m ∈ members, m.scope.recordedIn place = 0) : recorded place members = 0 := by
  induction members with
  | nil => rfl
  | cons m members ih =>
    obtain ⟨hm, hmembers⟩ := List.forall_mem_cons.mp h
    rw [recorded, hm, ih hmembers]

/-- One scope changes what it recorded, and no other does. -/
theorem recorded_set {members : List Member} {i : Nat} {m : Member} (stored : members[i]? = some m)
    (m' : Member) (place : AmbientRef) :
    recorded place (members.set i m') + m.scope.recordedIn place =
      recorded place members + m'.scope.recordedIn place := by
  induction members generalizing i with
  | nil => cases stored
  | cons first members ih =>
    cases i with
    | zero =>
      cases stored
      simp only [List.set_cons_zero, recorded]
      omega
    | succ i =>
      have hrest := ih stored
      simp only [List.set_cons_succ, recorded]
      omega

namespace NextStep

variable {w w' : Shared} {act : Act}

/-- An act leaves the ambient transactions at their places. -/
theorem later (step : NextStep w act w') : w.ambients.Later w'.ambients := by
  cases step with
  | begun id isolation => exact Ambients.later_after w.ambients (.begin id isolation)
  | finished place ending => exact Ambients.later_after w.ambients (.finish place ending)
  | new discipline id options => exact .refl w.ambients
  | absent missing => exact .refl w.ambients
  | moved stored step => exact step.later

/-- A scope keeps its number, and does at most one move. -/
theorem member (step : NextStep w act w') {i : Nat} {m : Member} (stored : w.members[i]? = some m) :
    ∃ r, MoveStep m w.ambients r ∧ w'.members[i]? = some r.1 := by
  cases step with
  | begun id isolation => exact ⟨_, .idle, stored⟩
  | finished place ending => exact ⟨_, .idle, stored⟩
  | new discipline id options =>
    obtain ⟨hbound, -⟩ := List.getElem?_eq_some_iff.mp stored
    exact ⟨_, .idle, by rw [List.getElem?_append_left hbound, stored]⟩
  | absent missing => exact ⟨_, .idle, stored⟩
  | @moved j _ m' r stored' move =>
    by_cases hij : j = i
    · subst hij
      cases stored.symm.trans stored'
      obtain ⟨hbound, -⟩ := List.getElem?_eq_some_iff.mp stored
      exact ⟨r, move, List.getElem?_set_self hbound⟩
    · exact ⟨_, .idle, by rw [List.getElem?_set_ne hij, stored]⟩

/-- An act keeps what holds of every scope, whichever scope it is of. -/
theorem members (step : NextStep w act w') (h : w.Holds) {i : Nat} {m : Member}
    (stored : w'.members[i]? = some m) : m.Holds w'.ambients := by
  have hlater := step.later
  cases step with
  | begun id isolation => exact (h.members i m stored).later hlater
  | finished place ending => exact (h.members i m stored).later hlater
  | new discipline id options =>
    rcases getElem?_concat_cases stored with stored | ⟨-, rfl⟩
    · exact h.members i m stored
    · exact .fresh discipline id options w.ambients
  | absent missing => exact h.members i m stored
  | moved stored' step =>
    rcases getElem?_set_cases stored with ⟨-, rfl⟩ | ⟨-, stored⟩
    · exact step.holds (h.members _ _ stored')
    · exact (h.members i m stored).later hlater

/-- What becomes of an ambient transaction in an act. It may have begun; otherwise it counts what was
newly recorded in it, and its status is that of before unless the act ends it. -/
theorem became (step : NextStep w act w') (h : w.Holds) {place : AmbientRef} {a : Ambient}
    (stored : w'.ambients[place]? = some a) :
    place = w.ambients.length ∧ w'.members = w.members ∧ a.enlistments = 0 ∧ a.status = .active ∨
    ∃ found, w.ambients[place]? = some found ∧
      a.enlistments + recorded place w.members = found.enlistments + recorded place w'.members ∧
      a.status = ((act.ending? place).elim found fun ending =>
        (found.finish ending).toOption.getD found).status := by
  cases step with
  | begun id isolation =>
    rcases getElem?_concat_cases stored with stored | ⟨rfl, rfl⟩
    · exact .inr ⟨a, stored, rfl, rfl⟩
    · exact .inl ⟨rfl, rfl, rfl, rfl⟩
  | finished other ending =>
    obtain ⟨found, hfound, hchange⟩ := getElem?_modify_cases stored
    refine .inr ⟨found, hfound, ?_⟩
    rcases hchange with ⟨rfl, rfl⟩ | ⟨hother, rfl⟩
    · simp [Act.ending?, Ambient.enlistments_finish]
    · simp [Act.ending?, hother]
  | new discipline id options =>
    refine .inr ⟨a, stored, ?_, rfl⟩
    show _ = a.enlistments + recorded place (w.members ++ [_])
    rw [recorded_append]
    simp [recorded, recordedIn, ambient]
  | absent missing => exact .inr ⟨a, stored, rfl, rfl⟩
  | @moved i _ m r stored' step =>
    obtain ⟨found, hfound, hstatus, hcounts⟩ := step.counted (h.members i m stored') stored
    have hset := recorded_set stored' r.1 place
    refine .inr ⟨found, hfound, ?_, hstatus⟩
    show a.enlistments + _ = found.enlistments + recorded place (w.members.set i r.1)
    omega

/-- An act keeps the invariant of scopes and counts together. -/
theorem holds (step : NextStep w act w') (h : w.Holds) : w'.Holds := by
  refine ⟨fun i m stored => step.members h stored, fun place a stored => ?_⟩
  rcases step.became h stored with ⟨hplace, hmembers, hnone, -⟩ | ⟨found, hfound, hcounts, -⟩
  · -- Nobody captured what was not there.
    rw [hnone, hmembers]
    refine (recorded_eq_zero fun m hm => ?_).symm
    obtain ⟨i, hm⟩ := List.mem_iff_getElem?.mp hm
    apply recordedIn_of_ne
    intro hmode
    obtain ⟨a, stored⟩ := (h.members i m hm).stored hmode
    simp [hplace] at stored
  · have hbefore := h.counted place found hfound
    omega

end NextStep

/-! ## What a history keeps -/

/-- The invariant holds after every history, by induction on its acts. -/
theorem holds_after : ∀ past : List Act, (Shared.after past).Holds
  | [] => ⟨fun _ _ stored => (by cases stored), fun _ _ stored => (by cases stored)⟩
  | act :: past => (nextStep (holds_after past) act).holds (holds_after past)

theorem step_after (act : Act) (past : List Act) :
    NextStep (Shared.after past) act (Shared.after (act :: past)) := nextStep (holds_after past) act

/-- More history leaves the ambient transactions at their places. -/
theorem later_after (past more : List Act) :
    (Shared.after past).ambients.Later (Shared.after (more ++ past)).ambients := by
  induction more with
  | nil => exact .refl _
  | cons act more ih => exact ih.trans (step_after act (more ++ past)).later

/-- A captured scope stays captured, by the same ambient transaction. -/
theorem captured_after {past : List Act} {i : Nat} {m : Member} {place : AmbientRef} {a : Ambient}
    (hm : (Shared.after past).members[i]? = some m) (hmode : m.scope.mode = some (.ambient place))
    (stored : (Shared.after past).ambients[place]? = some a) (more : List Act) :
    ∃ m', (Shared.after (more ++ past)).members[i]? = some m' ∧
      m'.scope.mode = some (.ambient place) ∧ ∃ new, m'.calls = m.calls ++ new ∧
        ∀ call ∈ new, ∃ name outcome, call = .join name a.id outcome := by
  induction more with
  | nil => exact ⟨m, hm, hmode, [], (List.append_nil _).symm, List.forall_mem_nil _⟩
  | cons act more ih =>
    obtain ⟨m', hm', hmode', new, hcalls, hnew⟩ := ih
    obtain ⟨now, hnow, same⟩ := later_after past more place a stored
    obtain ⟨r, hmove, hr⟩ := (step_after act (more ++ past)).member hm'
    obtain ⟨hmode'', next, hcalls', hnext⟩ :=
      hmove.captured ((holds_after (more ++ past)).members i m' hm') hmode' hnow
    rw [same.id] at hnext
    refine ⟨r.1, hr, hmode'', new ++ next, ?_, List.forall_mem_append.mpr ⟨hnew, hnext⟩⟩
    rw [hcalls', hcalls, List.append_assoc]

/-! ## The status of an ambient transaction -/

/-- An ambient transaction is active as long as nobody asked for its end. -/
theorem statusOf_eq_active_iff (endings : List AmbientEnding) :
    statusOf endings = .active ↔ endings = [] := by
  cases endings with
  | nil => simp [statusOf]
  | cons ending endings => cases ending <;> simp [statusOf, AmbientEnding.status]

/-- The first ending decides, whatever is asked after it. -/
theorem statusOf_append {endings : List AmbientEnding} (h : endings ≠ []) (more : List AmbientEnding) :
    statusOf (endings ++ more) = statusOf endings := by
  cases endings with
  | nil => exact absurd rfl h
  | cons ending endings => rfl

/-- An act adds what it asks of an ambient transaction that exists. -/
theorem asked_cons (act : Act) {past : List Act} {place : AmbientRef} {a : Ambient}
    (stored : (Shared.after past).ambients[place]? = some a) :
    asked place (act :: past) = asked place past ++ (act.ending? place).toList :=
  if_pos (List.getElem?_eq_some_iff.mp stored).1

/-- The endings of an ambient transaction decide its status. -/
theorem isActive_iff_statusOf {a : Ambient} {endings : List AmbientEnding}
    (h : a.status = statusOf endings) : a.isActive = true ↔ endings = [] := by
  rw [← statusOf_eq_active_iff, ← h]
  simp [Ambient.isActive]

/-- One more ending makes the status what the first one asks for. -/
theorem status_finish {a : Ambient} {endings : List AmbientEnding}
    (h : a.status = statusOf endings) (ending : AmbientEnding) :
    ((a.finish ending).toOption.getD a).status = statusOf (endings ++ [ending]) := by
  by_cases hnone : endings = []
  · rw [Ambient.finish_of_active ((isActive_iff_statusOf h).mpr hnone), hnone]
    rfl
  · have hended : a.isActive = false :=
      Bool.eq_false_iff.mpr fun hactive => hnone ((isActive_iff_statusOf h).mp hactive)
    rw [Ambient.finish_of_ended hended, statusOf_append hnone]
    exact h

/-- After any history the status is what the endings asked so far have made it. -/
theorem status_after {past : List Act} {place : AmbientRef} {a : Ambient}
    (stored : (Shared.after past).ambients[place]? = some a) :
    a.status = statusOf (asked place past) := by
  induction past generalizing a with
  | nil => cases stored
  | cons act past ih =>
    rcases (step_after act past).became (holds_after past) stored with
      ⟨rfl, -, -, hactive⟩ | ⟨found, hfound, -, hstatus⟩
    · rw [hactive]
      simp [asked, statusOf]
    · rw [asked_cons act hfound, hstatus]
      cases hending : act.ending? place with
      | none => simpa using ih hfound
      | some ending => exact status_finish (ih hfound) ending

/-- Later acts ask for more endings; without an act that ends it there are none. -/
theorem asked_later {past : List Act} {place : AmbientRef} {a : Ambient}
    (stored : (Shared.after past).ambients[place]? = some a) (more : List Act) :
    ∃ further, asked place (more ++ past) = asked place past ++ further ∧
      ((∀ ending, .finish place ending ∉ more) → further = []) := by
  induction more with
  | nil => exact ⟨[], (List.append_nil _).symm, fun _ => rfl⟩
  | cons act more ih =>
    obtain ⟨further, hasked, hnone⟩ := ih
    obtain ⟨now, hnow, -⟩ := later_after past more place a stored
    refine ⟨further ++ (act.ending? place).toList, ?_, fun hquiet => ?_⟩
    · rw [List.cons_append, asked_cons act hnow, hasked, List.append_assoc]
    · rw [hnone fun ending hmem => hquiet ending (List.mem_cons_of_mem act hmem), List.nil_append]
      cases act with
      | finish other ending =>
        have hother : other ≠ place := by
          rintro rfl
          exact hquiet ending List.mem_cons_self
        simp [Act.ending?, hother]
      | _ => rfl

/-! ## The main statement -/

/-- After any history an ambient transaction is as `Tallied` says. -/
theorem tallied {past : List Act} {place : AmbientRef} {a : Ambient}
    (stored : (Shared.after past).ambients[place]? = some a) : Tallied past place a where
  enlistments := (holds_after past).counted place a stored
  status := status_after stored
  first hnone ending := Ambient.finish_of_active
    ((isActive_iff_statusOf (status_after stored)).mpr hnone) ending
  again hsome ending := by
    have hended : a.isActive = false := Bool.eq_false_iff.mpr fun hactive =>
      hsome ((isActive_iff_statusOf (status_after stored)).mp hactive)
    have hrefused := Ambient.finish_of_ended hended ending
    refine ⟨hrefused, ?_⟩
    rw [Shared.next, Ambients.finish_of_ended stored hended]
  later more := by
    obtain ⟨b, hb, same⟩ := later_after past more place a stored
    obtain ⟨further, hasked, hnone⟩ := asked_later stored more
    refine ⟨b, hb, same, fun hkept => ?_⟩
    rw [status_after hb, status_after stored, hasked]
    rcases hkept with hsome | hquiet
    · exact statusOf_append hsome further
    · rw [hnone hquiet, List.append_nil]

/-- After any history a scope that captured one is as `Captive` says. -/
theorem captive {past : List Act} {i : Nat} {m : Member} {place : AmbientRef} {a : Ambient}
    (hm : (Shared.after past).members[i]? = some m) (hmode : m.scope.mode = some (.ambient place))
    (stored : (Shared.after past).ambients[place]? = some a) : Captive past i m place a := by
  have h := (holds_after past).members i m hm
  have hown := ne_own_of_ambient hmode
  exact
    { joins := h.joined place a hmode stored
      calls := h.calls hown
      enlist := fun hopened applicant offered => by
        have hplan : m.scope.plan (Shared.after past).ambients applicant.name offered =
            if a.isActive then .ok (.ambient place a)
            else .error (.noActiveTransaction applicant.name .begin) := by
          simp only [plan, h.opened hown hopened, hmode, stored, Option.filter]
          cases a.isActive <;> rfl
        rw [Member.enlist, hplan]
        cases a.isActive <;> rfl
      answer := fun applicant plan hwaiting => by
        obtain ⟨-, awaited⟩ := h.waiting applicant plan hwaiting
        obtain ⟨found, rfl, same⟩ := awaited.captured hmode stored
        have hstep := carryStep (m.usage (Shared.after past).ambients) applicant (.ambient place found)
        simp only [Member.answer, hwaiting]
        generalize (m.usage _).carryOut applicant (.ambient place found) = r at hstep ⊢
        cases hstep with
        | notJoined join => simp [join, same.id, Member.put, Member.usage]
        | joined join => simp [join, same.id, Member.put, Member.usage]
      later := fun more => by
        obtain ⟨m', hm', hmode', hcalls⟩ := captured_after hm hmode stored more
        exact ⟨m', hm', (ambient_eq_some_iff _ _).mpr hmode', hcalls⟩ }

/-- After any history of scopes among ambient transactions, every ambient transaction has counted
exactly the participants of the scopes that captured it and has the status that the first ending asked
of it gave it; and every scope that captured one is bound to it. -/
theorem ambients_tallied (past : List Act) :
    (∀ place a, (Shared.after past).ambients[place]? = some a → Tallied past place a) ∧
      ∀ i m place, (Shared.after past).members[i]? = some m → m.scope.ambient = some place →
        ∃ a, (Shared.after past).ambients[place]? = some a ∧ Captive past i m place a := by
  refine ⟨fun place a stored => tallied stored, fun i m place hm hambient => ?_⟩
  have hmode := (ambient_eq_some_iff m.scope place).mp hambient
  obtain ⟨a, stored⟩ := ((holds_after past).members i m hm).stored hmode
  exact ⟨a, stored, captive hm hmode stored⟩

/-- The owner ends the ambient transaction while the second scope waits for its adapter: the second
participant counts, and a third is refused. -/
example : (Shared.after
    [.move 1 (.enlist { name := "audit" } none), .move 1 .answer, .finish 0 .complete,
      .finish 0 .abort, .move 1 (.enlist { name := "billing" } (some 0)), .move 0 .answer,
      .move 0 (.enlist { name := "orders" } (some 0)), .new .suspending "second" {},
      .new .blocking "first" {}, .begin "outer" .serializable]).ambients =
    [{ id := "outer", isolation := .serializable, status := .aborted, enlistments := 2 }] := by
  decide

end UnitOfWork.Scope
