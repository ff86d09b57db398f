import UnitOfWork.Proofs.ConnectionString.Reading
import UnitOfWork.Proofs.Text.Bytes
import UnitOfWork.Proofs.Text.Letters
import UnitOfWork.Provider.Registry

/-!
# Registries as maps

Two names are the same when blanks at their ends and the case of ASCII letters are left aside
(`SameName`), and this is what equality of normal forms comes to. A registry is a map on names so
compared: `Represents` says, for all names at once, what is resolved, what a registration answers and
changes, and which names are listed, given which entry stands under which name.

`resolve_after` is the law of one registration and `resolve_afterAll` that of a history of them: the
last registration under a name decides, else what was there at the start. Both need nothing of the
order in which the entries are kept. That order is the subject of `Kept`, which every registration
preserves; it is why the names are listed in order and once.
-/

set_option autoImplicit false

namespace UnitOfWork

open Text (AllBlank Trimmed SameLetter)

/-! ## The last of the elements that are wanted -/

/-- An element that is wanted, and none after it is. -/
def IsLast {α : Type} (wanted : α → Prop) (xs : List α) (x : α) : Prop :=
  wanted x ∧ ∃ before after, xs = before ++ x :: after ∧ ∀ y ∈ after, ¬wanted y

section Last

variable {α : Type} {wanted : α → Prop} {x y : α} {xs : List α}

/-- The last of some elements is the first of them in reverse. -/
theorem isLast_iff : IsLast wanted xs x ↔ IsFirst wanted xs.reverse x := by
  unfold IsLast IsFirst
  apply and_congr_right
  intro _
  constructor
  · rintro ⟨before, after, rfl, hafter⟩
    exact ⟨after.reverse, before.reverse, by simp, by simpa using hafter⟩
  · rintro ⟨before, after, heq, hbefore⟩
    refine ⟨after.reverse, before.reverse, ?_, by simpa using hbefore⟩
    rw [← List.reverse_reverse xs, heq]
    simp

theorem isLast_nil : ¬IsLast wanted [] y := by
  rw [isLast_iff]
  exact isFirst_nil

/-- The last one is the newest element, if that is wanted, and else the last of the others. -/
theorem isLast_concat :
    IsLast wanted (xs ++ [x]) y ↔ wanted x ∧ y = x ∨ ¬wanted x ∧ IsLast wanted xs y := by
  rw [isLast_iff, isLast_iff, List.reverse_concat]
  exact isFirst_cons

/-- The last one is one of them. -/
theorem IsLast.mem (h : IsLast wanted xs x) : x ∈ xs := by
  obtain ⟨-, before, after, rfl, -⟩ := h
  simp

/-- There is a last wanted element, or no element is wanted. -/
theorem exists_isLast_or_forall (wanted : α → Prop) (xs : List α) :
    (∃ x, IsLast wanted xs x) ∨ ∀ x ∈ xs, ¬wanted x := by
  simp only [isLast_iff]
  obtain hfirst | hnone := exists_isFirst_or_forall wanted xs.reverse
  · exact .inl hfirst
  · exact .inr fun x hx => hnone x (List.mem_reverse.mpr hx)

end Last

namespace Provider

/-! ## Names -/

/-- The same name, but for blanks at its ends and the case of ASCII letters. -/
def SameName (a b : String) : Prop :=
  ∃ s t, Trimmed a.toList s ∧ Trimmed b.toList t ∧ List.Forall₂ SameLetter s t

variable {name other normal : String} {entry found : Entry} {entries : List (String × Entry)}

/-- Names have the same normal form when they are the same name. -/
theorem normalAlias_eq_iff : normalAlias name = normalAlias other ↔ SameName name other := by
  unfold normalAlias SameName
  rw [String.ofList_inj, Text.lower_eq_lower_iff]
  constructor
  · intro h
    exact ⟨_, _, Text.trimmed_trim _, Text.trimmed_trim _, h⟩
  · rintro ⟨s, t, hs, ht, h⟩
    rwa [hs.trim_eq, ht.trim_eq]

/-- A blank name has an empty normal form, and no other has. -/
theorem isEmpty_normalAlias_iff : (normalAlias name).isEmpty = true ↔ AllBlank name.toList := by
  rw [← Text.trim_eq_nil_iff, String.isEmpty_iff, ← String.toList_eq_nil_iff]
  simp [normalAlias, Text.lower]

/-- Of two spellings of a name both are blank or none is. -/
theorem allBlank_congr (h : SameName name other) : AllBlank name.toList ↔ AllBlank other.toList := by
  rw [← isEmpty_normalAlias_iff, ← isEmpty_normalAlias_iff, normalAlias_eq_iff.mpr h]

/-! ## Placements -/

/-- A placement is seen under its own name, and no other name sees it. -/
theorem lookup?_place (placed normal : String) (entry : Entry) (entries : List (String × Entry)) :
    lookup? normal (place placed entry entries) =
      if placed = normal then some entry else lookup? normal entries := by
  induction entries with
  | nil => rfl
  | cons row rest ih =>
    obtain ⟨name, old⟩ := row
    unfold place
    by_cases hsame : name = placed
    · subst hsame
      simp only [if_true, lookup?]
      split
      · rfl
      · rfl
    · rw [if_neg hsame]
      split
      · rfl
      · rw [lookup?, lookup?, ih]
        split
        · next hname => rw [if_neg (fun h => hsame (hname.trans h.symm))]
        · rfl

/-- A placement adds the placed name to those that are there. -/
theorem mem_names_place {placed : String} :
    normal ∈ (place placed entry entries).map Prod.fst ↔
      normal = placed ∨ normal ∈ entries.map Prod.fst := by
  induction entries with
  | nil => simp [place]
  | cons row rest ih =>
    obtain ⟨name, old⟩ := row
    unfold place
    split
    · next hsame => simp [hsame]
    split
    · simp
    · simp only [List.map_cons, List.mem_cons, ih]
      tauto

/-- A placement keeps the names in order. -/
theorem pairwise_place (h : (entries.map Prod.fst).Pairwise (· < ·)) (placed : String) :
    ((place placed entry entries).map Prod.fst).Pairwise (· < ·) := by
  induction entries with
  | nil => exact List.pairwise_singleton _ _
  | cons row rest ih =>
    obtain ⟨name, old⟩ := row
    rw [List.map_cons, List.pairwise_cons] at h
    obtain ⟨hname, hrest⟩ := h
    unfold place
    split
    · next hsame =>
      subst hsame
      exact List.pairwise_cons.mpr ⟨hname, hrest⟩
    next hother =>
    split
    · next hless =>
      refine List.pairwise_cons.mpr ⟨fun n hn => ?_, List.pairwise_cons.mpr ⟨hname, hrest⟩⟩
      obtain rfl | hn := List.mem_cons.mp hn
      · exact hless
      · exact hless.trans (hname n hn)
    · next hnot =>
      refine List.pairwise_cons.mpr ⟨fun n hn => ?_, ih hrest⟩
      obtain rfl | hn := mem_names_place.mp hn
      · exact lt_of_le_of_ne (not_lt.mp hnot) hother
      · exact hname n hn

/-- A name is listed exactly when it has an entry. -/
theorem exists_lookup?_iff :
    (∃ entry, lookup? normal entries = some entry) ↔ normal ∈ entries.map Prod.fst := by
  induction entries with
  | nil => simp [lookup?]
  | cons row rest ih =>
    obtain ⟨name, old⟩ := row
    rw [lookup?, List.map_cons, List.mem_cons]
    by_cases hsame : name = normal
    · simp [hsame]
    · rw [if_neg hsame, ih]
      simp [Ne.symm hsame]

end Provider

namespace Registry

open Provider (Entry SameName normalAlias lookup? place)

variable {registry : Registry} {name other normal : String} {entry : Entry}
  {attempt : String × Entry} {attempts : List (String × Entry)}

/-! ## Look-ups -/

theorem resolve_blank (h : AllBlank name.toList) : registry.resolve name = .error .emptyAlias := by
  unfold resolve
  exact if_pos (Provider.isEmpty_normalAlias_iff.mpr h)

/-- A name is looked up in its normal form. -/
theorem resolve_eq (h : ¬AllBlank name.toList) :
    registry.resolve name = match lookup? (normalAlias name) registry.entries with
      | some entry => .ok entry
      | none => .error (.unknownProvider (normalAlias name)) := by
  unfold resolve
  exact if_neg (fun hempty => h (Provider.isEmpty_normalAlias_iff.mp hempty))

/-- A name resolves to what the look-up finds. -/
theorem resolve_eq_ok_iff (h : ¬AllBlank name.toList) :
    registry.resolve name = .ok entry ↔
      lookup? (normalAlias name) registry.entries = some entry := by
  rw [resolve_eq h]
  cases lookup? (normalAlias name) registry.entries with
  | none => simp
  | some found => simp

/-- A name that is not blank and resolves to nothing is reported in normal form. -/
theorem resolve_unknown (h : ¬AllBlank name.toList)
    (hnone : ∀ entry, registry.resolve name ≠ .ok entry) :
    registry.resolve name = .error (.unknownProvider (normalAlias name)) := by
  simp only [ne_eq, resolve_eq_ok_iff h] at hnone
  rw [resolve_eq h, Option.eq_none_iff_forall_ne_some.mpr hnone]

theorem toOption_resolve (h : ¬AllBlank name.toList) :
    (registry.resolve name).toOption = lookup? (normalAlias name) registry.entries := by
  rw [resolve_eq h]
  cases lookup? (normalAlias name) registry.entries with
  | none => rfl
  | some found => rfl

/-! ## One registration -/

/-- The registry after an attempt at a registration. The name is checked before anything is written, so
one that is refused leaves the registry as it was. -/
def after (registry : Registry) (attempt : String × Entry) : Registry :=
  match registry.register attempt.1 attempt.2 with
  | .ok (_, next) => next
  | .error _ => registry

theorem register_blank (h : AllBlank name.toList) :
    registry.register name entry = .error .emptyAlias := by
  unfold register
  exact if_pos (Provider.isEmpty_normalAlias_iff.mpr h)

/-- A registration hands back what the name led to before, with the entry in its place. -/
theorem register_eq (h : ¬AllBlank name.toList) :
    registry.register name entry =
      .ok ((registry.resolve name).toOption, ⟨place (normalAlias name) entry registry.entries⟩) := by
  unfold register
  rw [toOption_resolve h]
  exact if_neg (fun hempty => h (Provider.isEmpty_normalAlias_iff.mp hempty))

/-- A registration under a blank name changes nothing. -/
theorem after_blank (h : AllBlank attempt.1.toList) : registry.after attempt = registry := by
  unfold after
  rw [register_blank h]

/-- A registration under any other name places its entry. -/
theorem after_eq (h : ¬AllBlank attempt.1.toList) :
    registry.after attempt = ⟨place (normalAlias attempt.1) attempt.2 registry.entries⟩ := by
  unfold after
  rw [register_eq h]

/-- A registration decides its own name. -/
theorem resolve_after_same (hsame : SameName attempt.1 name) (h : ¬AllBlank name.toList) :
    (registry.after attempt).resolve name = .ok attempt.2 := by
  rw [after_eq (fun hblank => h ((Provider.allBlank_congr hsame).mp hblank)), resolve_eq_ok_iff h,
    Provider.lookup?_place, if_pos (Provider.normalAlias_eq_iff.mpr hsame)]

/-- A registration, refused or not, leaves every other name alone. -/
theorem resolve_after_other (hother : ¬SameName attempt.1 name) :
    (registry.after attempt).resolve name = registry.resolve name := by
  by_cases hblank : AllBlank attempt.1.toList
  · rw [after_blank hblank]
  · have hnot : normalAlias attempt.1 ≠ normalAlias name := fun heq =>
      hother (Provider.normalAlias_eq_iff.mp heq)
    rw [after_eq hblank]
    unfold resolve
    simp only [Provider.lookup?_place, if_neg hnot]

/-! ## Histories of registrations -/

/-- The registry after attempts at registrations one after the other. -/
def afterAll (registry : Registry) (attempts : List (String × Entry)) : Registry :=
  attempts.foldl after registry

@[simp]
theorem afterAll_nil (registry : Registry) : registry.afterAll [] = registry := rfl

/-- A history is its beginning and its last registration. -/
theorem afterAll_concat (registry : Registry) (attempts : List (String × Entry))
    (attempt : String × Entry) :
    registry.afterAll (attempts ++ [attempt]) = (registry.afterAll attempts).after attempt := by
  unfold afterAll
  rw [List.foldl_append, List.foldl_cons, List.foldl_nil]

/-- An entry that was registered under the name, and after it none was. -/
def Latest (attempts : List (String × Entry)) (name : String) (entry : Entry) : Prop :=
  ∃ spelling, IsLast (fun attempt => SameName attempt.1 name) attempts (spelling, entry)

/-- The last registration under a name decides it; without one the name is as at the start. -/
theorem resolve_afterAll (h : ¬AllBlank name.toList) :
    (registry.afterAll attempts).resolve name = .ok entry ↔
      Latest attempts name entry ∨
        (∀ attempt ∈ attempts, ¬SameName attempt.1 name) ∧ registry.resolve name = .ok entry := by
  induction attempts using List.reverseRecOn with
  | nil =>
    have hnil : ¬Latest [] name entry := fun ⟨_, hlast⟩ => isLast_nil hlast
    simp [hnil]
  | append_singleton attempts attempt ih =>
    rw [afterAll_concat]
    unfold Latest
    simp only [isLast_concat]
    by_cases hsame : SameName attempt.1 name
    · rw [resolve_after_same hsame h]
      have hmem : attempt ∈ attempts ++ [attempt] := by simp
      constructor
      · intro heq
        cases heq
        exact .inl ⟨attempt.1, .inl ⟨hsame, rfl⟩⟩
      · rintro (⟨spelling, ⟨-, rfl⟩ | ⟨hnot, -⟩⟩ | ⟨hnone, -⟩)
        · rfl
        · exact absurd hsame hnot
        · exact absurd hsame (hnone attempt hmem)
    · rw [resolve_after_other hsame, ih]
      simp only [hsame, false_and, not_false_eq_true, true_and, false_or, List.forall_mem_append,
        List.forall_mem_singleton, and_true]
      exact Iff.rfl

/-! ## The order of the names -/

/-- Names in normal form, none of them blank, in strictly increasing order. -/
structure Kept (registry : Registry) : Prop where
  increasing : registry.names.Pairwise (· < ·)
  normal : ∀ listed ∈ registry.names, ∃ name, normalAlias name = listed ∧ ¬AllBlank name.toList

theorem kept_empty : Kept .empty := ⟨.nil, fun _ h => (nomatch h)⟩

/-- A registration keeps the names in order and in normal form. -/
theorem Kept.after (h : registry.Kept) (attempt : String × Entry) :
    (registry.after attempt).Kept := by
  by_cases hblank : AllBlank attempt.1.toList
  · rwa [after_blank hblank]
  · rw [after_eq hblank]
    refine ⟨Provider.pairwise_place h.increasing _, fun listed hlisted => ?_⟩
    obtain rfl | hbefore := Provider.mem_names_place.mp hlisted
    · exact ⟨attempt.1, rfl, hblank⟩
    · exact h.normal listed hbefore

/-- So does a history of registrations. -/
theorem Kept.afterAll (h : registry.Kept) (attempts : List (String × Entry)) :
    (registry.afterAll attempts).Kept := by
  induction attempts using List.reverseRecOn with
  | nil => exact h
  | append_singleton attempts attempt ih =>
    rw [afterAll_concat]
    exact ih.after attempt

/-- The names that are listed are the normal forms of those that resolve. -/
theorem Kept.mem_names_iff (h : registry.Kept) :
    normal ∈ registry.names ↔
      ∃ name entry, normalAlias name = normal ∧ registry.resolve name = .ok entry := by
  unfold names
  rw [← Provider.exists_lookup?_iff]
  constructor
  · rintro ⟨entry, hfound⟩
    obtain ⟨name, rfl, hname⟩ := h.normal normal (Provider.exists_lookup?_iff.mp ⟨entry, hfound⟩)
    exact ⟨name, entry, rfl, (resolve_eq_ok_iff hname).mpr hfound⟩
  · rintro ⟨name, entry, rfl, hresolved⟩
    have hname : ¬AllBlank name.toList := by
      intro hblank
      rw [resolve_blank hblank] at hresolved
      cases hresolved
    exact ⟨entry, (resolve_eq_ok_iff hname).mp hresolved⟩

/-- A name is contained exactly when it resolves. -/
theorem contains_iff : registry.contains name = true ↔ ∃ entry, registry.resolve name = .ok entry := by
  unfold contains
  cases registry.resolve name with
  | error e => simp [Except.toBool]
  | ok entry => simp [Except.toBool]

/-! ## The registry as a map -/

/-- A registry answers as the map in which `stands` tells the entry of a name. -/
structure Represents (registry : Registry) (stands : String → Entry → Prop) : Prop where
  unnamed : ∀ name, AllBlank name.toList → registry.resolve name = .error .emptyAlias
  resolved : ∀ name, ¬AllBlank name.toList →
    ∀ entry, registry.resolve name = .ok entry ↔ stands name entry
  unknown : ∀ name, ¬AllBlank name.toList → (∀ entry, ¬stands name entry) →
    registry.resolve name = .error (.unknownProvider (normalAlias name))
  refused : ∀ name entry, AllBlank name.toList →
    registry.register name entry = .error .emptyAlias ∧ registry.after (name, entry) = registry
  registered : ∀ name entry, ¬AllBlank name.toList → ∃ next,
    registry.register name entry = .ok ((registry.resolve name).toOption, next) ∧
      registry.after (name, entry) = next ∧ next.resolve name = .ok entry ∧
      ∀ other, normalAlias other ≠ normalAlias name → next.resolve other = registry.resolve other
  contained : ∀ name, registry.contains name = true ↔ ∃ entry, registry.resolve name = .ok entry
  increasing : (registry.names.map Text.bytes).Pairwise (· < ·)
  listed : ∀ normal, normal ∈ registry.names ↔
    ∃ name entry, normalAlias name = normal ∧ registry.resolve name = .ok entry

/-- A registry in order is a map as soon as it is known what resolves. -/
theorem Kept.represents (h : registry.Kept) {stands : String → Entry → Prop}
    (hstands : ∀ name, ¬AllBlank name.toList →
      ∀ entry, registry.resolve name = .ok entry ↔ stands name entry) :
    registry.Represents stands where
  unnamed _ hblank := resolve_blank hblank
  resolved := hstands
  unknown name hname hnone := by
    apply resolve_unknown hname
    intro entry hresolved
    exact hnone entry ((hstands name hname entry).mp hresolved)
  refused _ _ hblank := ⟨register_blank hblank, after_blank hblank⟩
  registered name entry hname := by
    have hnext : registry.after (name, entry) = _ := after_eq hname
    refine ⟨registry.after (name, entry), ?_, rfl, ?_, fun other hother => ?_⟩
    · rw [hnext]
      exact register_eq hname
    · exact resolve_after_same (Provider.normalAlias_eq_iff.mp rfl) hname
    · apply resolve_after_other
      rw [← Provider.normalAlias_eq_iff]
      exact Ne.symm hother
  contained _ := contains_iff
  increasing := h.increasing.map _ fun _ _ => Text.bytes_lt_bytes
  listed _ := h.mem_names_iff

end Registry

end UnitOfWork
