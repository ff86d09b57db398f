import UnitOfWork.Proofs.Settings.Bounds
import UnitOfWork.Proofs.Text.Blanks
import UnitOfWork.Proofs.Text.Letters
import UnitOfWork.Proofs.Text.Numerals
import UnitOfWork.Settings.Environment

/-!
# What the variables say

A variable says something when its text does: a number of attempts by a numeral, a span by a numeral of
milliseconds with blanks around it, a level by one of its spellings, a boolean by a word for it. `Says`
puts the six variables together: the attempts are given, every other variable that is set says
something, one that is not set leaves its default, and the retry part is usable.

The environment gives settings exactly when its variables say them, but for booleans: no text of a
boolean is at fault, and what is no word for true counts as false (`Presumed`). `settings_eq_ok_iff` is
the exact rule, and `settings_read_iff` compares it with the rule that asks for words.
`stray_word_read` is the smallest case in which the two differ.
-/

set_option autoImplicit false

namespace UnitOfWork

open Text (Names SameLetter Trimmed)

/-! ## What a text says -/

/-- A text spells a level: without blanks, underscores and hyphens it is the keyword text of the level,
ASCII case aside. -/
def IsolationLevel.Spells (text : String) (level : IsolationLevel) : Prop :=
  List.Forall₂ SameLetter (text.toList.filter fun c => !isSeparator c)
    (level.sql.toList.filter fun c => !isSeparator c)

namespace Environment

/-- A numeral for a number of attempts. -/
def SaysCount (text : String) (n : UInt32) : Prop := Names text.toList n.toNat

/-- A numeral of 64 bits for a span in milliseconds, blanks around it aside. -/
def SaysSpan (text : String) (d : Duration) : Prop :=
  ∃ written millis, Trimmed text.toList written ∧ Names written millis ∧ millis < UInt64.size ∧
    d.nanos = millis * 1000000

/-- The words for a boolean. -/
def booleanWords : Bool → List String
  | true => ["1", "true", "yes", "on"]
  | false => ["0", "false", "no", "off"]

/-- A word for a boolean, ASCII case and blanks around it aside. -/
def SaysBoolean (text : String) (b : Bool) : Prop :=
  ∃ written, Trimmed text.toList written ∧
    ∃ word ∈ booleanWords b, List.Forall₂ SameLetter written word.toList

/-- A boolean that is true exactly by a word for true. -/
def Presumed (text : String) (b : Bool) : Prop := b = true ↔ SaysBoolean text true

/-! ## What an environment says -/

/-- What a variable gives: the default when it is not set, and else what its text means. -/
inductive Gives {α : Type} (env : Environment) (name : String) (means : String → α → Prop)
    (default : α) : α → Prop where
  | unset (unset : env name = none) : Gives env name means default default
  | set {text : String} {value : α} (set : env name = some text) (meant : means text value) :
      Gives env name means default value

/-- The settings that the variables say, given how a text says a boolean. -/
structure Says (boolean : String → Bool → Prop) (env : Environment) (s : Settings) : Prop where
  attempts : ∃ text, env attemptsVariable = some text ∧ SaysCount text s.retry.maxAttempts
  baseDelay : Gives env baseDelayVariable SaysSpan Retry.defaultBaseDelay s.retry.baseDelay
  maxDelay : Gives env maxDelayVariable SaysSpan Retry.defaultMaxDelay s.retry.maxDelay
  jitter : Gives env jitterVariable boolean true s.retry.jitter
  isolation : Gives env isolationVariable IsolationLevel.Spells .readCommitted s.scope.isolation
  preferAmbient : Gives env preferAmbientVariable boolean true s.scope.preferAmbient
  usable : s.retry.Usable

/-- Every boolean that is set is a word for one. -/
def BooleansAreWords (env : Environment) : Prop :=
  ∀ name ∈ [jitterVariable, preferAmbientVariable], ∀ text, env name = some text →
    ∃ b, SaysBoolean text b

/-! ## Reading one text -/

section Text

variable {text : String}

/-- A number of attempts is read exactly where the text is a numeral for it. -/
theorem attempts_eq_ok_iff {n : UInt32} : attempts text = .ok n ↔ SaysCount text n := by
  have hbound : n.toNat ≤ Text.limit32 := Nat.le_of_lt_succ n.toNat_lt
  have hread : SaysCount text n ↔ Text.numeral Text.limit32 text.toList = .ok n.toNat := by
    rw [Text.numeral_eq_ok_iff]
    exact ⟨fun h => ⟨h, hbound⟩, And.left⟩
  rw [hread, attempts]
  cases hnumeral : Text.numeral Text.limit32 text.toList with
  | error fault => simp
  | ok m =>
    have hm : m < UInt32.size := Nat.lt_succ_of_le (Text.numeral_eq_ok_iff.mp hnumeral).2
    simp only [Except.ok.injEq]
    constructor
    · rintro rfl
      exact (UInt32.toNat_ofNat_of_lt' hm).symm
    · rintro rfl
      exact UInt32.ofNat_toNat

/-- No count of milliseconds of 64 bits passes the widest span. -/
theorem nanos_ofMillis {millis : Nat} (h : millis ≤ Text.limit64) :
    (Duration.ofMillis millis).nanos = millis * 1000000 := by
  have hlimit : Text.limit64 = 18446744073709551615 := rfl
  rw [Duration.ofMillis, Duration.nanos_ofNanos, Duration.limit]
  omega

/-- A span is what the numeral of its milliseconds is read as. -/
theorem saysSpan_iff {d : Duration} :
    SaysSpan text d ↔
      ∃ millis, Text.numeral Text.limit64 (Text.trim text.toList) = .ok millis ∧
        d = Duration.ofMillis millis := by
  have hbound (millis : Nat) : millis < UInt64.size ↔ millis ≤ Text.limit64 :=
    (Nat.le_sub_one_iff_lt (by decide)).symm
  simp only [Text.numeral_eq_ok_iff, SaysSpan, hbound]
  constructor
  · rintro ⟨written, millis, htrimmed, hnames, hle, hnanos⟩
    rw [← htrimmed.trim_eq] at hnames
    exact ⟨millis, ⟨hnames, hle⟩, Duration.eq_of_nanos (hnanos.trans (nanos_ofMillis hle).symm)⟩
  · rintro ⟨millis, ⟨hnames, hle⟩, rfl⟩
    exact ⟨_, millis, Text.trimmed_trim _, hnames, hle, nanos_ofMillis hle⟩

/-- A text is compared by its small letters once blanks are taken off, and no word has capitals. -/
theorem saysBoolean_iff {b : Bool} :
    SaysBoolean text b ↔
      String.ofList (Text.lower (Text.trim text.toList)) ∈ booleanWords b := by
  have hsmall : ∀ word ∈ booleanWords b, Text.lower word.toList = word.toList := by
    cases b <;> decide
  unfold SaysBoolean
  constructor
  · rintro ⟨written, htrimmed, word, hword, hsame⟩
    rw [← Text.lower_eq_lower_iff, hsmall word hword] at hsame
    rw [htrimmed.trim_eq, hsame, String.ofList_toList]
    exact hword
  · intro h
    refine ⟨_, Text.trimmed_trim _, _, h, ?_⟩
    rw [← Text.lower_eq_lower_iff, hsmall _ h, String.toList_ofList]

/-- A text counts as true exactly by a word for true. -/
theorem isTrue_iff : isTrue text = true ↔ SaysBoolean text true := by
  rw [saysBoolean_iff]
  exact List.contains_iff_mem

/-- No word is for both booleans. -/
theorem SaysBoolean.unique {b b' : Bool} (h : SaysBoolean text b) (h' : SaysBoolean text b') :
    b = b' := by
  have hapart : ∀ b b', ∀ word ∈ booleanWords b, word ∈ booleanWords b' → b = b' := by decide
  exact hapart b b' _ (saysBoolean_iff.mp h) (saysBoolean_iff.mp h')

/-- What is presumed of a text is whether it counts as true. -/
theorem presumed_iff {b : Bool} : Presumed text b ↔ isTrue text = b := by
  rw [Presumed, ← isTrue_iff]
  cases b <;> simp

/-- Where there is a word for it, the boolean that is presumed is the one the word is for. -/
theorem saysBoolean_iff_presumed {b : Bool} :
    SaysBoolean text b ↔ Presumed text b ∧ ∃ b', SaysBoolean text b' := by
  constructor
  · intro h
    refine ⟨?_, b, h⟩
    constructor
    · rintro rfl
      exact h
    · exact h.unique
  · rintro ⟨hpresumed, b', hword⟩
    cases b' with
    | true => rwa [hpresumed.mpr hword]
    | false =>
      cases b with
      | true => exact hpresumed.mp rfl
      | false => exact hword

end Text

end Environment

/-- A level is read from its spellings and from nothing else. -/
theorem IsolationLevel.parse_eq_ok_iff {text : String} {level : IsolationLevel} :
    parse text = .ok level ↔ Spells text level := by
  have hspells : Spells text level ↔ squash text.toList = squash level.sql.toList :=
    (Text.lower_eq_lower_iff _ _).symm
  have hapart : ∀ other : IsolationLevel, squash other.sql.toList = squash level.sql.toList →
      other = level := by
    cases level <;> intro other <;> cases other <;> decide
  have hmem : level ∈ all := by cases level <;> decide
  rw [hspells, parse, ofSquashed?]
  cases hfound : all.find? fun other => squash other.sql.toList == squash text.toList with
  | none =>
    have hnone := List.find?_eq_none.mp hfound level hmem
    simp only [reduceCtorEq, false_iff]
    intro h
    exact hnone (beq_iff_eq.mpr h.symm)
  | some other =>
    have hother : squash other.sql.toList = squash text.toList := by
      simpa using List.find?_some hfound
    simp only [Except.ok.injEq, ← hother]
    exact ⟨fun h => h ▸ rfl, hapart other⟩

namespace Environment

/-! ## Reading one variable -/

section Variables

variable {env : Environment} {name field : String}

section Gives

variable {α : Type} {means : String → α → Prop} {default value : α}

/-- A variable that is not set gives its default. -/
theorem gives_of_unset (h : env name = none) :
    Gives env name means default value ↔ default = value := by
  constructor
  · rintro (- | ⟨hset, -⟩)
    · rfl
    · cases h.symm.trans hset
  · rintro rfl
    exact .unset h

/-- A variable that is set gives what its text means. -/
theorem gives_of_set {text : String} (h : env name = some text) :
    Gives env name means default value ↔ means text value := by
  constructor
  · rintro (hunset | ⟨hset, hmeant⟩)
    · cases h.symm.trans hunset
    · cases h.symm.trans hset
      exact hmeant
  · exact .set h

end Gives

theorem required_eq_ok_iff {text : String} : env.required name = .ok text ↔ env name = some text := by
  unfold required
  cases env name <;> simp

/-- A span is read exactly where the variable gives it. -/
theorem span_eq_ok_iff {default d : Duration} :
    env.span name field default = .ok d ↔ Gives env name SaysSpan default d := by
  unfold span
  cases hset : env name with
  | none => simp [gives_of_unset hset]
  | some text =>
    rw [gives_of_set hset, saysSpan_iff]
    dsimp only
    cases Text.numeral Text.limit64 (Text.trim text.toList) <;> simp [eq_comm]

/-- A boolean is read from every text: it is the presumed one. -/
theorem boolean_eq_iff {default b : Bool} :
    env.boolean name default = b ↔ Gives env name Presumed default b := by
  unfold boolean
  cases hset : env name with
  | none => simp [gives_of_unset hset]
  | some text => simp [gives_of_set hset, presumed_iff]

/-- A level is read exactly where the variable gives it. -/
theorem isolation_eq_ok_iff {default level : IsolationLevel} :
    env.isolation default = .ok level ↔
      Gives env isolationVariable IsolationLevel.Spells default level := by
  unfold isolation
  cases hset : env isolationVariable with
  | none => simp [gives_of_unset hset]
  | some text =>
    rw [gives_of_set hset, ← IsolationLevel.parse_eq_ok_iff]
    exact mapError_eq_ok_iff

end Variables

/-! ## Reading them all -/

variable {env : Environment}

/-- Settings are read exactly when the variables say them, where booleans are presumed. -/
theorem settings_eq_ok_iff {s : Settings} : env.settings = .ok s ↔ Says Presumed env s := by
  unfold settings
  simp only [bind_eq_ok, required_eq_ok_iff, attempts_eq_ok_iff, span_eq_ok_iff,
    isolation_eq_ok_iff, Settings.checked_eq_ok_iff]
  constructor
  · rintro ⟨text, hset, n, hcount, base, hbase, cap, hcap, level, hlevel, rfl, husable⟩
    exact
      { attempts := ⟨text, hset, hcount⟩
        baseDelay := hbase
        maxDelay := hcap
        jitter := boolean_eq_iff.mp rfl
        isolation := hlevel
        preferAmbient := boolean_eq_iff.mp rfl
        usable := husable }
  · intro h
    obtain ⟨text, hset, hcount⟩ := h.attempts
    refine ⟨text, hset, _, hcount, _, h.baseDelay, _, h.maxDelay, _, h.isolation, ?_, h.usable⟩
    have hjitter := boolean_eq_iff.mpr h.jitter
    have hambient := boolean_eq_iff.mpr h.preferAmbient
    rw [hjitter, hambient]

/-- A boolean says a word exactly when it is presumed and some word is there. -/
theorem gives_boolean_iff {name : String} {default b : Bool} :
    Gives env name SaysBoolean default b ↔
      Gives env name Presumed default b ∧
        ∀ text, env name = some text → ∃ b', SaysBoolean text b' := by
  cases hset : env name with
  | none => simp [gives_of_unset hset]
  | some text =>
    rw [gives_of_set hset, gives_of_set hset, saysBoolean_iff_presumed]
    simp

/-- Where every boolean is a word for one, the two rules say the same. -/
theorem says_words_iff {s : Settings} :
    Says SaysBoolean env s ↔ Says Presumed env s ∧ BooleansAreWords env := by
  unfold BooleansAreWords
  rw [List.forall_mem_cons, List.forall_mem_singleton]
  constructor
  · intro h
    obtain ⟨hjitter, hjitterWord⟩ := gives_boolean_iff.mp h.jitter
    obtain ⟨hambient, hambientWord⟩ := gives_boolean_iff.mp h.preferAmbient
    exact ⟨{ h with jitter := hjitter, preferAmbient := hambient }, hjitterWord, hambientWord⟩
  · rintro ⟨h, hjitterWord, hambientWord⟩
    exact
      { h with
        jitter := gives_boolean_iff.mpr ⟨h.jitter, hjitterWord⟩
        preferAmbient := gives_boolean_iff.mpr ⟨h.preferAmbient, hambientWord⟩ }

/-! ## What is turned down -/

section Refused

variable {name field text : String} {e : Refusal}

/-- A missing variable is an error of the settings. -/
theorem required_refused (h : env.required name = .error e) : e.IsConfig := by
  unfold required at h
  split at h
  · cases h
  · cases h
    exact ⟨_, _, rfl⟩

/-- So is a number of attempts that cannot be read. -/
theorem attempts_refused (h : attempts text = .error e) : e.IsConfig := by
  unfold attempts at h
  split at h
  · cases h
  · cases h
    exact ⟨_, _, rfl⟩

/-- So is a span that cannot be read. -/
theorem span_refused {default : Duration} (h : env.span name field default = .error e) :
    e.IsConfig := by
  unfold span at h
  split at h
  · cases h
  · split at h
    · cases h
    · cases h
      exact ⟨_, _, rfl⟩

/-- So is a level that is none. -/
theorem isolation_refused {default : IsolationLevel} (h : env.isolation default = .error e) :
    e.IsConfig := by
  unfold isolation at h
  split at h
  · cases h
  · obtain ⟨-, -, rfl⟩ := mapError_eq_error_iff.mp h
    exact ⟨_, _, rfl⟩

/-- Whatever is wrong with the environment, settings are to blame. -/
theorem settings_refused (h : env.settings = .error e) : e.IsConfig := by
  unfold settings at h
  simp only [bind_eq_error] at h
  obtain h | ⟨text, -, h | ⟨n, -, h | ⟨base, -, h | ⟨cap, -, h | ⟨level, -, h⟩⟩⟩⟩⟩ := h
  · exact required_refused h
  · exact attempts_refused h
  · exact span_refused h
  · exact span_refused h
  · exact isolation_refused h
  · exact Settings.checked_refused h

end Refused

/-! ## The main statement -/

/-- The environment gives settings exactly when its variables say them, a boolean being presumed from
any text, and turns down everything else as settings that are wrong. The rule that asks a word of every
boolean holds besides that exactly where the booleans that are set are words; where one is not, it is
read as false, and nothing is said of it. -/
theorem settings_read_iff (env : Environment) :
    (∀ s, env.settings = .ok s ↔ Says Presumed env s) ∧
    ((∀ s, ¬Says Presumed env s) → ∃ message field, env.settings = .error (.config message field)) ∧
    (∀ s, Says SaysBoolean env s ↔ env.settings = .ok s ∧ BooleansAreWords env) := by
  refine ⟨fun s => settings_eq_ok_iff, ?_, fun s => ?_⟩
  · intro hnone
    cases hread : env.settings with
    | ok s => exact absurd (settings_eq_ok_iff.mp hread) (hnone s)
    | error e =>
      obtain ⟨message, field, rfl⟩ := settings_refused hread
      exact ⟨message, field, rfl⟩
  · rw [says_words_iff, settings_eq_ok_iff]

/-- Three attempts, and a jitter that is `maybe`. -/
def strayWord : Environment := fun name =>
  if name = attemptsVariable then some "3" else if name = jitterVariable then some "maybe" else none

/-- The jitter is no word for a boolean, so no settings are said; the environment gives settings without
jitter. -/
theorem stray_word_read :
    (∀ s, ¬Says SaysBoolean strayWord s) ∧
      strayWord.settings = .ok { retry := { maxAttempts := 3, jitter := false } } ∧
      ¬∀ s, strayWord.settings = .ok s ↔ Says SaysBoolean strayWord s := by
  have hstray : ∀ b, ¬SaysBoolean "maybe" b := by
    intro b
    rw [saysBoolean_iff]
    cases b <;> decide
  have hnone : ∀ s, ¬Says SaysBoolean strayWord s := by
    intro s h
    have hset : strayWord jitterVariable = some "maybe" := rfl
    exact hstray _ ((gives_of_set hset).mp h.jitter)
  have hread : strayWord.settings = .ok { retry := { maxAttempts := 3, jitter := false } } := rfl
  exact ⟨hnone, hread, fun h => hnone _ ((h _).mp hread)⟩

end Environment

end UnitOfWork
