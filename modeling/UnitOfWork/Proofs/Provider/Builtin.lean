import UnitOfWork.Proofs.Provider.Registrations

/-!
# The built-in registry

The built-in registry is what registering every provider under each of its spellings makes of the
empty one (`builtin_eq`), since the spellings are normal forms already. So the law of registrations
tells what it resolves, and what it resolves after registrations of its own.

A provider is also found by its name in a search through all of them in order. The two look-ups agree
because no spelling belongs to two providers (`eq_of_mem_spellings`): neither the last registration nor
the first match has a say then.
-/

set_option autoImplicit false

namespace UnitOfWork

open Text (AllBlank)

namespace Provider

variable {name other normal : String} {p q : Provider}

/-- The name is one of the spellings of the provider, but for blanks at its ends and the case of
letters. -/
def Spells (name : String) (p : Provider) : Prop :=
  ∃ spelling ∈ p.spellings, SameName spelling name

/-- No spelling belongs to two providers. -/
theorem eq_of_mem_spellings (hp : normal ∈ p.spellings) (hq : normal ∈ q.spellings) : p = q := by
  have hapart : ∀ p ∈ all, ∀ q ∈ all, ∀ normal ∈ p.spellings, normal ∈ q.spellings → p = q := by
    decide +kernel
  exact hapart p p.mem_all q q.mem_all normal hp hq

/-- A spelling is a normal form, and it is not blank. -/
theorem normalAlias_spelling (h : name ∈ p.spellings) :
    normalAlias name = name ∧ ¬AllBlank name.toList := by
  have hnormal : ∀ p ∈ all, ∀ name ∈ p.spellings,
      normalAlias name = name ∧ ¬(normalAlias name).isEmpty = true := by
    decide +kernel
  rw [← isEmpty_normalAlias_iff]
  exact hnormal p p.mem_all name h

/-- A name spells a provider when its normal form is one of the provider's spellings. -/
theorem spells_iff : Spells name p ↔ normalAlias name ∈ p.spellings := by
  constructor
  · rintro ⟨spelling, hspelling, hsame⟩
    rwa [← normalAlias_eq_iff.mpr hsame, (normalAlias_spelling hspelling).1]
  · intro h
    exact ⟨_, h, normalAlias_eq_iff.mp (normalAlias_spelling h).1⟩

/-- A name spells one provider at most. -/
theorem Spells.unique (hp : Spells name p) (hq : Spells name q) : p = q :=
  eq_of_mem_spellings (spells_iff.mp hp) (spells_iff.mp hq)

/-- A blank name spells nothing. -/
theorem Spells.not_allBlank (h : Spells name p) : ¬AllBlank name.toList := by
  obtain ⟨spelling, hspelling, hsame⟩ := h
  rw [← allBlank_congr hsame]
  exact (normalAlias_spelling hspelling).2

/-! ## The search through all providers -/

theorem ofAlias_blank (h : AllBlank name.toList) : ofAlias name = .error .emptyAlias := by
  unfold ofAlias
  exact if_pos (isEmpty_normalAlias_iff.mpr h)

/-- The first provider with a matching spelling is the only one. -/
theorem find?_spellings (h : Spells name p) :
    (all.find? fun p => p.spellings.contains (normalAlias name)) = some p := by
  cases hfound : all.find? fun p => p.spellings.contains (normalAlias name) with
  | none =>
    have hnot := List.find?_eq_none.mp hfound p p.mem_all
    exact absurd (List.contains_iff_mem.mpr (spells_iff.mp h)) hnot
  | some q =>
    have hq : normalAlias name ∈ q.spellings := by simpa using List.find?_some hfound
    rw [h.unique (spells_iff.mpr hq)]

/-- A name leads to the provider that it spells. -/
theorem ofAlias_of_spells (h : Spells name p) : ofAlias name = .ok p := by
  unfold ofAlias
  dsimp only
  rw [if_neg (fun hempty => h.not_allBlank (isEmpty_normalAlias_iff.mp hempty)), find?_spellings h]

/-- A name that is not blank and spells nothing is reported in its normal form. -/
theorem ofAlias_unknown (h : ¬AllBlank name.toList) (hnone : ∀ p, ¬Spells name p) :
    ofAlias name = .error (.unknownProvider (normalAlias name)) := by
  have hfound : (all.find? fun p => p.spellings.contains (normalAlias name)) = none := by
    rw [List.find?_eq_none]
    intro p _ hp
    exact hnone p (spells_iff.mpr (List.contains_iff_mem.mp hp))
  unfold ofAlias
  dsimp only
  rw [if_neg (fun hempty => h (isEmpty_normalAlias_iff.mp hempty)), hfound]

/-- A name is blank, or it spells a provider, or none of them. -/
theorem allBlank_or_spells_or (name : String) :
    AllBlank name.toList ∨ (∃ p, Spells name p) ∨ ¬AllBlank name.toList ∧ ∀ p, ¬Spells name p := by
  by_cases hblank : AllBlank name.toList
  · exact .inl hblank
  · by_cases hspells : ∃ p, Spells name p
    · exact .inr (.inl hspells)
    · exact .inr (.inr ⟨hblank, not_exists.mp hspells⟩)

/-- A provider is found by a name exactly when the name spells it. -/
theorem ofAlias_eq_ok_iff : ofAlias name = .ok p ↔ Spells name p := by
  constructor
  · intro h
    obtain hblank | ⟨q, hspells⟩ | ⟨hnamed, hnone⟩ := allBlank_or_spells_or name
    · rw [ofAlias_blank hblank] at h
      cases h
    · rw [ofAlias_of_spells hspells] at h
      cases h
      exact hspells
    · rw [ofAlias_unknown hnamed hnone] at h
      cases h
  · exact ofAlias_of_spells

/-- The search fails on blank names, and on those that spell no provider. -/
theorem ofAlias_eq_error_iff {e : LookupError} :
    ofAlias name = .error e ↔
      AllBlank name.toList ∧ e = .emptyAlias ∨
        ¬AllBlank name.toList ∧ (∀ p, ¬Spells name p) ∧ e = .unknownProvider (normalAlias name) := by
  constructor
  · intro h
    obtain hblank | ⟨q, hspells⟩ | ⟨hnamed, hnone⟩ := allBlank_or_spells_or name
    · rw [ofAlias_blank hblank] at h
      cases h
      exact .inl ⟨hblank, rfl⟩
    · rw [ofAlias_of_spells hspells] at h
      cases h
    · rw [ofAlias_unknown hnamed hnone] at h
      cases h
      exact .inr ⟨hnamed, hnone, rfl⟩
  · rintro (⟨hblank, rfl⟩ | ⟨hnamed, hnone, rfl⟩)
    · exact ofAlias_blank hblank
    · exact ofAlias_unknown hnamed hnone

end Provider

namespace Registry

open Provider (Entry SameName Spells normalAlias)

variable {registry : Registry} {name : String} {entry : Entry} {attempts : List (String × Entry)}

/-! ## The built-in entries as registrations -/

/-- Every provider under each of its spellings, as registrations. -/
def spelled : List (String × Entry) :=
  Provider.all.flatMap fun p => p.spellings.map fun name => (name, p.entry)

/-- The built-in registrations are the spellings with the entries of their providers. -/
theorem mem_spelled {attempt : String × Entry} :
    attempt ∈ spelled ↔ ∃ p : Provider, attempt.1 ∈ p.spellings ∧ attempt.2 = p.entry := by
  unfold spelled
  simp only [List.mem_flatMap, List.mem_map]
  constructor
  · rintro ⟨p, -, name, hname, rfl⟩
    exact ⟨p, hname, rfl⟩
  · rintro ⟨p, hname, hentry⟩
    exact ⟨p, p.mem_all, attempt.1, hname, Prod.ext rfl hentry.symm⟩

/-- Registrations under names in normal form are placements. -/
theorem afterAll_of_normal
    (h : ∀ attempt ∈ attempts, normalAlias attempt.1 = attempt.1 ∧ ¬AllBlank attempt.1.toList) :
    registry.afterAll attempts =
      ⟨attempts.foldl (fun entries (name, entry) => Provider.place name entry entries)
        registry.entries⟩ := by
  induction attempts generalizing registry with
  | nil => rfl
  | cons attempt attempts ih =>
    obtain ⟨⟨hnormal, hnamed⟩, hrest⟩ := List.forall_mem_cons.mp h
    unfold afterAll at ih ⊢
    rw [List.foldl_cons, ih hrest, after_eq hnamed, hnormal, List.foldl_cons]

/-- The built-in registry comes of the empty one by registrations. -/
theorem builtin_eq : builtin = empty.afterAll spelled := by
  have hnormal : ∀ attempt ∈ spelled,
      normalAlias attempt.1 = attempt.1 ∧ ¬AllBlank attempt.1.toList := by
    intro attempt hattempt
    obtain ⟨p, hspelling, -⟩ := mem_spelled.mp hattempt
    exact Provider.normalAlias_spelling hspelling
  rw [afterAll_of_normal hnormal]
  rfl

/-- The last of the built-in registrations under a name is that of the provider it spells. -/
theorem latest_spelled_iff :
    Latest spelled name entry ↔ ∃ p, Spells name p ∧ entry = p.entry := by
  have hlatest : ∀ attempt, IsLast (fun attempt => SameName attempt.1 name) spelled attempt →
      ∃ p, Spells name p ∧ attempt.2 = p.entry := by
    intro attempt hlast
    obtain ⟨p, hspelling, hentry⟩ := mem_spelled.mp hlast.mem
    exact ⟨p, ⟨attempt.1, hspelling, hlast.1⟩, hentry⟩
  constructor
  · rintro ⟨spelling, hlast⟩
    exact hlatest _ hlast
  · rintro ⟨p, hspells, rfl⟩
    obtain ⟨attempt, hlast⟩ | hnone := exists_isLast_or_forall
      (fun attempt : String × Entry => SameName attempt.1 name) spelled
    · obtain ⟨q, hspells', hentry⟩ := hlatest attempt hlast
      rw [hspells.unique hspells', ← hentry]
      exact ⟨attempt.1, hlast⟩
    · obtain ⟨spelling, hspelling, hsame⟩ := hspells
      exact absurd hsame (hnone (spelling, p.entry) (mem_spelled.mpr ⟨p, hspelling, rfl⟩))

theorem resolve_empty : ∀ entry, empty.resolve name ≠ .ok entry := by
  intro entry hresolved
  by_cases hblank : AllBlank name.toList
  · rw [resolve_blank hblank] at hresolved
    cases hresolved
  · rw [resolve_eq_ok_iff hblank] at hresolved
    cases hresolved

/-- What the built-in registry resolves after registrations: the last one under the name, else the
provider that the name spells. -/
theorem resolve_builtin_afterAll (h : ¬AllBlank name.toList) :
    (builtin.afterAll attempts).resolve name = .ok entry ↔
      Latest attempts name entry ∨
        (∀ attempt ∈ attempts, ¬SameName attempt.1 name) ∧ ∃ p, Spells name p ∧ entry = p.entry := by
  rw [resolve_afterAll h, builtin_eq, resolve_afterAll h, latest_spelled_iff]
  simp only [resolve_empty, and_false, or_false]

/-- In the built-in registry a name leads to the entry of the provider that it spells. -/
theorem resolve_builtin_eq_ok_iff (h : ¬AllBlank name.toList) :
    builtin.resolve name = .ok entry ↔ ∃ p, Spells name p ∧ entry = p.entry := by
  have hnil : ¬Latest [] name entry := fun ⟨_, hlast⟩ => isLast_nil hlast
  have hresolve : (builtin.afterAll []).resolve name = .ok entry ↔ _ := resolve_builtin_afterAll h
  rw [afterAll_nil] at hresolve
  simp [hresolve, hnil]

/-! ## Agreement of the look-ups -/

/-- A name resolves in the built-in registry to the entry of the provider that is found by it, and
fails where the search fails. -/
theorem resolve_builtin (name : String) :
    builtin.resolve name = (Provider.ofAlias name).map Provider.entry := by
  obtain hblank | ⟨p, hspells⟩ | ⟨hnamed, hnone⟩ := Provider.allBlank_or_spells_or name
  · rw [resolve_blank hblank, Provider.ofAlias_blank hblank]
    rfl
  · rw [Provider.ofAlias_of_spells hspells]
    exact (resolve_builtin_eq_ok_iff hspells.not_allBlank).mpr ⟨p, hspells, rfl⟩
  · rw [Provider.ofAlias_unknown hnamed hnone]
    apply resolve_unknown hnamed
    intro entry hresolved
    obtain ⟨p, hspells, -⟩ := (resolve_builtin_eq_ok_iff hnamed).mp hresolved
    exact hnone p hspells

/-- The verdict on a connection string is that of the rules of the provider. -/
theorem validate_builtin (name raw : String) :
    builtin.validate name raw = ConnectionString.validate name raw := by
  unfold validate ConnectionString.validate
  rw [resolve_builtin]
  by_cases hblank : AllBlank name.toList
  · rw [if_pos (Provider.isEmpty_normalAlias_iff.mpr hblank),
      if_pos (Text.isEmpty_trim_iff.mpr hblank)]
  · rw [if_neg (fun hempty => hblank (Provider.isEmpty_normalAlias_iff.mp hempty)),
      if_neg (fun hempty => hblank (Text.isEmpty_trim_iff.mp hempty))]
    cases Provider.ofAlias name with
    | ok p => rfl
    | error e => rfl

/-- A name resolves in the built-in registry exactly when a provider is found by it, and then to that
provider with its own allow list and rules; else both fail alike. The provider is the one that the name
spells, and a name fails when it is blank or spells none. The verdicts on a connection string are
equal. -/
theorem lookups_agree (name raw : String) :
    builtin.resolve name =
        (Provider.ofAlias name).map (fun p => ⟨p, p.classifier, ConnectionString.Rules.of p⟩) ∧
      (∀ p, Provider.ofAlias name = .ok p ↔ Spells name p) ∧
      (∀ e, Provider.ofAlias name = .error e ↔
        AllBlank name.toList ∧ e = .emptyAlias ∨
          ¬AllBlank name.toList ∧ (∀ p, ¬Spells name p) ∧ e = .unknownProvider (normalAlias name)) ∧
      builtin.validate name raw = ConnectionString.validate name raw :=
  ⟨resolve_builtin name, fun _ => Provider.ofAlias_eq_ok_iff, fun _ => Provider.ofAlias_eq_error_iff,
    validate_builtin name raw⟩

/-! ## Histories from either start -/

/-- After any registrations, refused ones among them, a registry is the map in which the last
registration under a name decides it. One that was empty at the start has nothing else; one that was
built in has, under a name that no registration was made under, the provider that the name spells. -/
theorem afterAll_represents (attempts : List (String × Entry)) :
    (empty.afterAll attempts).Represents (Latest attempts) ∧
      (builtin.afterAll attempts).Represents fun name entry =>
        Latest attempts name entry ∨
          (∀ attempt ∈ attempts, ¬SameName attempt.1 name) ∧
            ∃ p, Spells name p ∧ entry = p.entry := by
  constructor
  · apply (kept_empty.afterAll attempts).represents
    intro name hnamed entry
    rw [resolve_afterAll hnamed]
    simp only [resolve_empty, and_false, or_false]
  · have hkept : builtin.Kept := by
      rw [builtin_eq]
      exact kept_empty.afterAll spelled
    apply (hkept.afterAll attempts).represents
    intro name hnamed entry
    exact resolve_builtin_afterAll hnamed

end Registry

end UnitOfWork
