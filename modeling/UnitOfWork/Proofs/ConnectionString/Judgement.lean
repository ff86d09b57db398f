import UnitOfWork.ConnectionString.Validation
import UnitOfWork.Proofs.ConnectionString.Reading
import UnitOfWork.Proofs.Text.Letters
import UnitOfWork.Proofs.Text.Numerals

/-!
# What the rules decide

`Valid` is what a set of rules asks of a connection string, segment by segment and group by group.
`Judged` says which verdict a string deserves: the first check that fails, in the order emptiness,
form, unknown key, bad value, missing group, about the first offender of that check, or none when the
string is valid. Neither goes through the string in the way the checks do; both are stated over its
segments, the pairs these hold, and the value a numeral or a word for a boolean has.

Every string deserves a verdict (`exists_judged`), and the verdict it deserves is the one that is given
(`Judged.validate_eq`); so the checks decide the rules exactly, for every set of rules.
-/

set_option autoImplicit false

namespace UnitOfWork.ConnectionString

open Text (AllBlank Trimmed IsSplit)

/-! ## The rules -/

/-- A decimal number of 32 bits, after a plus sign or nothing. -/
def IsInteger (value : String) : Prop := ∃ n, Text.Names value.toList n ∧ n < 2 ^ 32

/-- A word for a boolean, ASCII case aside. -/
def IsBoolean (value : String) : Prop :=
  ∃ word ∈ ["true", "yes", "1", "on", "false", "no", "0", "off"],
    List.Forall₂ Text.SameLetter word.toList value.toList

/-- A pair whose value has the type that its key asks for. A key that is both an integer's and a
boolean's asks for an integer only. -/
structure Typed (r : Rules) (p : Pair) : Prop where
  integer : p.key ∈ r.integer → IsInteger p.value
  boolean : p.key ∉ r.integer → p.key ∈ r.boolean → IsBoolean p.value

/-- A key of the group is given a value. -/
def Satisfied (ps : List Pair) (group : List String) : Prop :=
  ∃ p ∈ ps, p.key ∈ group ∧ p.value ≠ ""

/-- A connection string that keeps the rules. -/
structure Valid (r : Rules) (raw : String) : Prop where
  given : ¬AllBlank raw.toList
  formed : ∀ segment, HasSegment raw segment → ¬AllBlank segment → WellFormed segment
  known : ∀ p, Holds raw p → p.key ∈ r.known
  typed : ∀ p, Holds raw p → Typed r p
  required : ∀ group ∈ r.required, ∃ p, Holds raw p ∧ p.key ∈ group ∧ p.value ≠ ""

/-- The verdict that a connection string deserves: the first check that fails, about its first
offender. -/
inductive Judged (r : Rules) (raw : String) : Verdict → Prop where
  | empty (blank : AllBlank raw.toList) : Judged r raw .missingConnectionString
  | malformed {segments : List (List Char)} {segment : List Char} {text : String}
      (given : ¬AllBlank raw.toList) (split : IsSplit ';' raw.toList segments)
      (first : IsFirst IsMalformed segments segment) (trimmed : Trimmed segment text.toList) :
      Judged r raw (.malformed text)
  | unknown {ps : List Pair} {p : Pair} (given : ¬AllBlank raw.toList) (read : HasPairs raw ps)
      (first : IsFirst (fun p => p.key ∉ r.known) ps p) :
      Judged r raw (.unsupportedOption p.key r.provider)
  | mistyped {ps : List Pair} {p : Pair} (given : ¬AllBlank raw.toList) (read : HasPairs raw ps)
      (known : ∀ p ∈ ps, p.key ∈ r.known) (first : IsFirst (fun p => ¬Typed r p) ps p) :
      Judged r raw (.invalidParameterValue p.key p.value)
  | unsatisfied {ps : List Pair} {group : List String} (given : ¬AllBlank raw.toList)
      (read : HasPairs raw ps) (known : ∀ p ∈ ps, p.key ∈ r.known) (typed : ∀ p ∈ ps, Typed r p)
      (first : IsFirst (fun group => ¬Satisfied ps group) r.required group) :
      Judged r raw (.missingRequiredParameter (group.headD ""))
  | valid (valid : Valid r raw) : Judged r raw .ok

/-! ## The checks one by one -/

variable {r : Rules} {raw : String} {p : Pair} {ps : List Pair} {group : List String}

/-- The check for an integer accepts exactly the integers of 32 bits. -/
theorem isIntegerText_iff {value : String} : isIntegerText value = true ↔ IsInteger value := by
  unfold isIntegerText IsInteger
  have hbound : ∀ n, n ≤ Text.limit32 ↔ n < 2 ^ 32 := fun n => Nat.le_iff_lt_add_one
  simp only [← hbound, ← Text.numeral_eq_ok_iff]
  cases Text.numeral Text.limit32 value.toList with
  | error fault => simp [Except.toBool]
  | ok n => simp [Except.toBool]

/-- The check for a boolean accepts exactly the words for one. -/
theorem isBooleanText_iff {value : String} : isBooleanText value = true ↔ IsBoolean value := by
  have hsmall : ∀ word ∈ booleanWords, Text.lower word.toList = word.toList := by decide
  unfold isBooleanText IsBoolean
  rw [List.contains_iff_mem]
  constructor
  · intro h
    refine ⟨_, h, ?_⟩
    rw [← Text.lower_eq_lower_iff, hsmall _ h, String.toList_ofList]
  · rintro ⟨word, hword, hsame⟩
    rw [← Text.lower_eq_lower_iff, hsmall word hword] at hsame
    rw [← hsame, String.ofList_toList]
    exact hword

/-- A key is turned down as unknown exactly when the rules do not name it. -/
theorem not_isKnown_iff : (!r.isKnown p.key) = true ↔ p.key ∉ r.known := by
  simp [Rules.isKnown]

/-- A pair is accepted exactly when its value has the type of its key. -/
theorem accepts_iff : r.accepts p = true ↔ Typed r p := by
  have hinteger : r.isInteger p.key = true ↔ p.key ∈ r.integer := List.contains_iff_mem
  have hboolean : r.isBoolean p.key = true ↔ p.key ∈ r.boolean := List.contains_iff_mem
  unfold Rules.accepts
  by_cases hi : p.key ∈ r.integer
  · rw [if_pos (hinteger.mpr hi), isIntegerText_iff]
    exact ⟨fun h => ⟨fun _ => h, fun hnot => absurd hi hnot⟩, fun h => h.integer hi⟩
  · rw [if_neg (fun h => hi (hinteger.mp h))]
    by_cases hb : p.key ∈ r.boolean
    · rw [if_pos (hboolean.mpr hb), isBooleanText_iff]
      exact ⟨fun h => ⟨fun h' => absurd h' hi, fun _ _ => h⟩, fun h => h.boolean hi hb⟩
    · rw [if_neg (fun h => hb (hboolean.mp h))]
      exact ⟨fun _ => ⟨fun h => absurd h hi, fun _ h => absurd h hb⟩, fun _ => rfl⟩

/-- A pair is turned down exactly when its value does not have that type. -/
theorem not_accepts_iff : (!r.accepts p) = true ↔ ¬Typed r p := by
  rw [← accepts_iff, Bool.not_eq_true', Bool.not_eq_true]

/-- A group counts as given exactly when one of its keys has a value. -/
theorem isSatisfied_iff : isSatisfied ps group = true ↔ Satisfied ps group := by
  unfold isSatisfied Satisfied
  simp only [List.any_eq_true, Bool.and_eq_true, beq_iff_eq, Bool.not_eq_true',
    String.isEmpty_eq_false_iff]
  constructor
  · rintro ⟨name, hname, p, hp, rfl, hvalue⟩
    exact ⟨p, hp, hname, hvalue⟩
  · rintro ⟨p, hp, hkey, hvalue⟩
    exact ⟨p.key, hkey, p, hp, rfl, hvalue⟩

/-- A group counts as missing exactly when none of its keys has one. -/
theorem not_isSatisfied_iff : (!isSatisfied ps group) = true ↔ ¬Satisfied ps group := by
  rw [← isSatisfied_iff, Bool.not_eq_true', Bool.not_eq_true]

/-- The first unknown key decides, whatever else is wrong. -/
theorem judge_unknown (first : IsFirst (fun p => p.key ∉ r.known) ps p) :
    r.judge ps = .unsupportedOption p.key r.provider := by
  have hfound := (find?_eq_some_iff_isFirst fun p => not_isKnown_iff).mpr first
  unfold Rules.judge
  rw [hfound]

theorem find?_unknown_eq_none (known : ∀ p ∈ ps, p.key ∈ r.known) :
    ps.find? (fun p => !r.isKnown p.key) = none :=
  (find?_eq_none_iff fun _ => not_isKnown_iff).mpr fun p hp h => h (known p hp)

/-- Where all keys are known, the first value of a wrong type decides. -/
theorem judge_mistyped (known : ∀ p ∈ ps, p.key ∈ r.known)
    (first : IsFirst (fun p => ¬Typed r p) ps p) :
    r.judge ps = .invalidParameterValue p.key p.value := by
  have hfound := (find?_eq_some_iff_isFirst fun p => not_accepts_iff).mpr first
  unfold Rules.judge
  rw [find?_unknown_eq_none known, hfound]

theorem find?_mistyped_eq_none (typed : ∀ p ∈ ps, Typed r p) :
    ps.find? (fun p => !r.accepts p) = none :=
  (find?_eq_none_iff fun _ => not_accepts_iff).mpr fun p hp h => h (typed p hp)

/-- Where all pairs are in order, the first missing group decides. -/
theorem judge_unsatisfied (known : ∀ p ∈ ps, p.key ∈ r.known) (typed : ∀ p ∈ ps, Typed r p)
    (first : IsFirst (fun group => ¬Satisfied ps group) r.required group) :
    r.judge ps = .missingRequiredParameter (group.headD "") := by
  have hfound := (find?_eq_some_iff_isFirst fun group => not_isSatisfied_iff).mpr first
  unfold Rules.judge
  rw [find?_unknown_eq_none known, find?_mistyped_eq_none typed, hfound]

/-- Pairs that pass every check are in order. -/
theorem judge_satisfied (known : ∀ p ∈ ps, p.key ∈ r.known) (typed : ∀ p ∈ ps, Typed r p)
    (required : ∀ group ∈ r.required, Satisfied ps group) : r.judge ps = .ok := by
  have hnone : r.required.find? (fun group => !isSatisfied ps group) = none :=
    (find?_eq_none_iff fun _ => not_isSatisfied_iff).mpr
      fun group hgroup h => h (required group hgroup)
  unfold Rules.judge
  rw [find?_unknown_eq_none known, find?_mistyped_eq_none typed, hnone]

/-! ## The verdict -/

/-- A string whose pairs are read is valid exactly when no check on the pairs fails. -/
theorem valid_iff (given : ¬AllBlank raw.toList) (read : HasPairs raw ps) :
    Valid r raw ↔ (∀ p ∈ ps, p.key ∈ r.known) ∧ (∀ p ∈ ps, Typed r p) ∧
      ∀ group ∈ r.required, Satisfied ps group := by
  constructor
  · intro h
    refine ⟨fun p hp => h.known p (read.mem_iff.mp hp),
      fun p hp => h.typed p (read.mem_iff.mp hp), fun group hgroup => ?_⟩
    obtain ⟨p, hp, hkey, hvalue⟩ := h.required group hgroup
    exact ⟨p, read.mem_iff.mpr hp, hkey, hvalue⟩
  · rintro ⟨known, typed, required⟩
    refine ⟨given, exists_hasPairs_iff.mp ⟨ps, read⟩, fun p hp => known p (read.mem_iff.mpr hp),
      fun p hp => typed p (read.mem_iff.mpr hp), fun group hgroup => ?_⟩
    obtain ⟨p, hp, hkey, hvalue⟩ := required group hgroup
    exact ⟨p, read.mem_iff.mp hp, hkey, hvalue⟩

/-- Every string deserves a verdict: each check finds a first offender or none. -/
theorem exists_judged (r : Rules) (raw : String) : ∃ v, Judged r raw v := by
  by_cases given : AllBlank raw.toList
  · exact ⟨_, .empty given⟩
  -- From here on each check has a first offender, which decides, or it gives the premise of the next.
  have split := isSplit_segments raw.toList
  obtain ⟨segment, first⟩ | formed := exists_isFirst_or_forall IsMalformed (segments raw.toList)
  · have trimmed : Trimmed segment (String.ofList (Text.trim segment)).toList := by
      rw [String.toList_ofList]
      exact Text.trimmed_trim segment
    exact ⟨_, .malformed given split first trimmed⟩
  obtain ⟨ps, reads⟩ := exists_readsAll_iff.mpr fun segment hsegment hblank =>
    of_not_not fun h => formed segment hsegment ⟨hblank, h⟩
  have read : HasPairs raw ps := ⟨_, split, reads⟩
  obtain ⟨p, first⟩ | known := exists_isFirst_or_forall (fun p : Pair => p.key ∉ r.known) ps
  · exact ⟨_, .unknown given read first⟩
  simp only [not_not] at known
  obtain ⟨p, first⟩ | typed := exists_isFirst_or_forall (fun p => ¬Typed r p) ps
  · exact ⟨_, .mistyped given read known first⟩
  simp only [not_not] at typed
  obtain ⟨group, first⟩ | required :=
    exists_isFirst_or_forall (fun group => ¬Satisfied ps group) r.required
  · exact ⟨_, .unsatisfied given read known typed first⟩
  simp only [not_not] at required
  exact ⟨_, .valid ((valid_iff given read).mpr ⟨known, typed, required⟩)⟩

/-- A string that can be read is judged by its pairs. -/
theorem validate_of_hasPairs (given : ¬AllBlank raw.toList) (read : HasPairs raw ps) :
    r.validate raw = r.judge ps := by
  unfold Rules.validate
  rw [if_neg (fun h => given (Text.isEmpty_trim_iff.mp h)), pairs_eq_ok_iff.mpr read]

/-- The verdict that is given is the one deserved. -/
theorem Judged.validate_eq {v : Verdict} (h : Judged r raw v) : r.validate raw = v := by
  cases h with
  | empty blank =>
    unfold Rules.validate
    rw [if_pos (Text.isEmpty_trim_iff.mpr blank)]
  | malformed given split first trimmed =>
    unfold Rules.validate
    rw [if_neg (fun h => given (Text.isEmpty_trim_iff.mp h)),
      pairs_eq_error_iff.mpr ⟨_, _, split, first, trimmed⟩]
  | unknown given read first =>
    rw [validate_of_hasPairs given read, judge_unknown first]
  | mistyped given read known first =>
    rw [validate_of_hasPairs given read, judge_mistyped known first]
  | unsatisfied given read known typed first =>
    rw [validate_of_hasPairs given read, judge_unsatisfied known typed first]
  | valid valid =>
    obtain ⟨ps, read⟩ := exists_hasPairs_iff.mpr valid.formed
    obtain ⟨known, typed, required⟩ := (valid_iff valid.given read).mp valid
    rw [validate_of_hasPairs valid.given read, judge_satisfied known typed required]

/-- A set of rules finds nothing wrong with exactly the strings that keep it, and its verdict on any
other string is the first check that fails, about the first offender. -/
theorem validate_exact (r : Rules) (raw : String) :
    (r.validate raw = .ok ↔ Valid r raw) ∧ ∀ v, r.validate raw = v ↔ Judged r raw v := by
  have hjudged : ∀ v, r.validate raw = v ↔ Judged r raw v := by
    intro v
    constructor
    · rintro rfl
      obtain ⟨v, h⟩ := exists_judged r raw
      rwa [h.validate_eq]
    · exact Judged.validate_eq
  refine ⟨?_, hjudged⟩
  rw [hjudged]
  constructor
  · intro h
    cases h with
    | valid valid => exact valid
  · exact .valid

/-- An unknown key comes before a bad value, wherever the two stand. -/
example : Rules.postgreSql.validate "port=x; Host = db;colour=1" =
    .unsupportedOption "colour" .postgreSql := by
  decide +kernel

end UnitOfWork.ConnectionString
