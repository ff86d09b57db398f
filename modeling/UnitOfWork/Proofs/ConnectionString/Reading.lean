import UnitOfWork.ConnectionString.Pairs
import UnitOfWork.Proofs.Text.Blanks

/-!
# How a connection string is read

The form of a segment and of what it holds, as relations on texts. `Reads` splits a segment at its
first equals sign into a key that is not blank and a value; `NormalForm` is what a key is known by, and
`Unquoted` what a value means. `ReadsAll` goes through the segments from left to right and passes over
blank ones. None of these mentions that a segment, a key or a value is trimmed before anything else is
done with it: blanks around a segment fall to the key or the value, where they count for nothing
(`pair?_trim`).

A row of segments is read in full, or it has a first segment that is neither blank nor well formed:
`pairsOf_eq_ok_iff` and `pairsOf_eq_error_iff`.
-/

set_option autoImplicit false

namespace UnitOfWork

/-- An element that is bad, and none before it is. -/
def IsFirst {α : Type} (bad : α → Prop) (xs : List α) (x : α) : Prop :=
  bad x ∧ ∃ before after, xs = before ++ x :: after ∧ ∀ y ∈ before, ¬bad y

section First

variable {α : Type} {bad : α → Prop} {x y : α} {xs : List α}

/-- Nothing is first of no elements. -/
theorem isFirst_nil : ¬IsFirst bad [] y := by
  rintro ⟨-, before, after, heq, -⟩
  cases before with
  | nil => cases heq
  | cons z before => cases heq

/-- The first bad element is the head, if that is bad, and else the first bad one of the rest. -/
theorem isFirst_cons :
    IsFirst bad (x :: xs) y ↔ bad x ∧ y = x ∨ ¬bad x ∧ IsFirst bad xs y := by
  constructor
  · rintro ⟨hbad, before, after, heq, hbefore⟩
    cases before with
    | nil =>
      cases heq
      exact .inl ⟨hbad, rfl⟩
    | cons z before =>
      cases heq
      obtain ⟨hx, hrest⟩ := List.forall_mem_cons.mp hbefore
      exact .inr ⟨hx, hbad, before, after, rfl, hrest⟩
  · rintro (⟨hbad, rfl⟩ | ⟨hx, hbad, before, after, rfl, hbefore⟩)
    · exact ⟨hbad, [], xs, rfl, fun z hz => (nomatch hz)⟩
    · exact ⟨hbad, x :: before, after, rfl, List.forall_mem_cons.mpr ⟨hx, hbefore⟩⟩

/-- There is a first bad element, or no element is bad. -/
theorem exists_isFirst_or_forall (bad : α → Prop) (xs : List α) :
    (∃ x, IsFirst bad xs x) ∨ ∀ x ∈ xs, ¬bad x := by
  induction xs with
  | nil => exact .inr (fun x hx => (nomatch hx))
  | cons x xs ih =>
    by_cases hx : bad x
    · exact .inl ⟨x, isFirst_cons.mpr (.inl ⟨hx, rfl⟩)⟩
    · obtain ⟨y, hy⟩ | hnone := ih
      · exact .inl ⟨y, isFirst_cons.mpr (.inr ⟨hx, hy⟩)⟩
      · exact .inr (List.forall_mem_cons.mpr ⟨hx, hnone⟩)

/-- A search finds the first element that passes its check. -/
theorem find?_eq_some_iff_isFirst {check : α → Bool} (hcheck : ∀ x, check x = true ↔ bad x) :
    xs.find? check = some x ↔ IsFirst bad xs x := by
  rw [List.find?_eq_some_iff_append, IsFirst, hcheck]
  simp only [Bool.not_eq_true', ← Bool.not_eq_true, hcheck]

/-- A search finds nothing when no element passes its check. -/
theorem find?_eq_none_iff {check : α → Bool} (hcheck : ∀ x, check x = true ↔ bad x) :
    xs.find? check = none ↔ ∀ x ∈ xs, ¬bad x := by
  rw [List.find?_eq_none]
  simp only [hcheck]

end First

namespace ConnectionString

open Text (AllBlank Trimmed HasWords IsSplit)

/-! ## The form of a segment -/

/-- The normal form of a key: its words in small letters, one space between them. -/
def NormalForm (key name : List Char) : Prop :=
  ∃ words, HasWords key words ∧ name = Text.lower ([' '].intercalate words)

/-- A quotation mark. -/
def IsQuote (c : Char) : Prop := c = '"' ∨ c = '\''

/-- What a value means: what stands between two quotation marks of one kind at its ends, or the value
itself when it is not so quoted. -/
inductive Unquoted : List Char → List Char → Prop where
  | quoted {mark : Char} (quote : IsQuote mark) (inner : List Char) :
      Unquoted (mark :: (inner ++ [mark])) inner
  | bare {value : List Char}
      (unquoted : ∀ mark inner, IsQuote mark → value ≠ mark :: (inner ++ [mark])) :
      Unquoted value value

/-- A segment has an equals sign, and the key in front of the first one is not blank. -/
def WellFormed (segment : List Char) : Prop :=
  ∃ key value, segment = key ++ '=' :: value ∧ '=' ∉ key ∧ ¬AllBlank key

/-- A segment holds a pair. -/
inductive Reads : List Char → Pair → Prop where
  | intro {key value bare : List Char} {pair : Pair} (first : '=' ∉ key) (named : ¬AllBlank key)
      (normal : NormalForm key pair.key.toList) (trimmed : Trimmed value bare)
      (unquoted : Unquoted bare pair.value.toList) : Reads (key ++ '=' :: value) pair

/-- The pairs of a row of segments, in their order; a blank segment has none. -/
inductive ReadsAll : List (List Char) → List Pair → Prop where
  | nil : ReadsAll [] []
  | blank {segment : List Char} {segments : List (List Char)} {ps : List Pair}
      (blank : AllBlank segment) (rest : ReadsAll segments ps) : ReadsAll (segment :: segments) ps
  | pair {segment : List Char} {segments : List (List Char)} {p : Pair} {ps : List Pair}
      (reads : Reads segment p) (rest : ReadsAll segments ps) :
      ReadsAll (segment :: segments) (p :: ps)

/-! ## Keys and values -/

/-- The normal form of a key is computed as it is defined, and a key has one only. -/
theorem normalKey_eq_iff {key name : List Char} : normalKey key = name ↔ NormalForm key name := by
  unfold NormalForm
  constructor
  · rintro rfl
    exact ⟨Text.words key, Text.words_eq_iff.mp rfl, rfl⟩
  · rintro ⟨words, hwords, rfl⟩
    rw [← hwords.words_eq]
    rfl

/-- Blanks around a key make no difference to its normal form. -/
theorem normalKey_trim (key : List Char) : normalKey (Text.trim key) = normalKey key := by
  unfold normalKey
  rw [Text.words_trim]

/-- What stands between two marks is found exactly when both marks are there. -/
theorem between?_eq_some_iff {mark : Char} {value inner : List Char} :
    between? mark value = some inner ↔ value = mark :: (inner ++ [mark]) := by
  cases value with
  | nil => simp [between?]
  | cons c rest =>
    rw [between?, List.cons.injEq]
    constructor
    · intro h
      by_cases hmarks : (c == mark && rest.getLast? == some mark) = true
      · rw [if_pos hmarks, Option.some.injEq] at h
        obtain ⟨hc, hlast⟩ := Bool.and_eq_true_iff.mp hmarks
        rw [← h]
        exact ⟨beq_iff_eq.mp hc, (List.dropLast_append_getLast? mark (beq_iff_eq.mp hlast)).symm⟩
      · rw [if_neg hmarks] at h
        cases h
    · rintro ⟨rfl, rfl⟩
      simp

/-- Nothing is found where a mark is missing at either end. -/
theorem between?_eq_none_iff {mark : Char} {value : List Char} :
    between? mark value = none ↔ ∀ inner, value ≠ mark :: (inner ++ [mark]) := by
  rw [Option.eq_none_iff_forall_ne_some]
  simp only [ne_eq, between?_eq_some_iff]

/-- A value is unquoted to what it means. -/
theorem unquoted_unquote (value : List Char) : Unquoted value (unquote value) := by
  unfold unquote
  cases hdouble : between? '"' value with
  | some inner =>
    rw [between?_eq_some_iff.mp hdouble]
    exact .quoted (.inl rfl) inner
  | none =>
    cases hsingle : between? '\'' value with
    | some inner =>
      rw [between?_eq_some_iff.mp hsingle]
      exact .quoted (.inr rfl) inner
    | none =>
      refine .bare ?_
      rintro mark inner (rfl | rfl)
      · exact between?_eq_none_iff.mp hdouble inner
      · exact between?_eq_none_iff.mp hsingle inner

/-- The mark in front tells the kind of the quotes, so a value has one meaning. -/
theorem Unquoted.unquote_eq {value meaning : List Char} (h : Unquoted value meaning) :
    unquote value = meaning := by
  unfold unquote
  cases h with
  | @quoted mark quote =>
    obtain rfl | rfl := quote
    · rw [between?_eq_some_iff.mpr rfl]
    · have hother : between? '"' ('\'' :: (meaning ++ ['\''])) = none := by
        rw [between?_eq_none_iff]
        rintro inner h
        cases h
      rw [hother, between?_eq_some_iff.mpr rfl]
      rfl
  | bare unquoted =>
    rw [between?_eq_none_iff.mpr (fun inner => unquoted '"' inner (.inl rfl)),
      between?_eq_none_iff.mpr (fun inner => unquoted '\'' inner (.inr rfl))]
    rfl

/-- A value means one text only, the one that it is unquoted to. -/
theorem unquote_eq_iff {value meaning : List Char} :
    unquote value = meaning ↔ Unquoted value meaning := by
  constructor
  · rintro rfl
    exact unquoted_unquote value
  · exact Unquoted.unquote_eq

/-! ## Segments -/

/-- A segment is taken apart at its first equals sign. -/
theorem pair?_eq {key : List Char} (first : '=' ∉ key) (value : List Char) :
    pair? (key ++ '=' :: value) =
      if (Text.trim key).isEmpty then none
      else some ⟨String.ofList (normalKey key), String.ofList (unquote (Text.trim value))⟩ := by
  have hkey : ∀ c ∈ key, (c != '=') = true := by
    intro c hc
    rw [bne_iff_ne]
    rintro rfl
    exact first hc
  unfold pair?
  rw [List.dropWhile_append_of_pos hkey, List.takeWhile_append_of_pos hkey]
  simp [normalKey_trim]

/-- A segment without an equals sign holds no pair. -/
theorem pair?_of_not_mem {segment : List Char} (h : '=' ∉ segment) : pair? segment = none := by
  have hall : segment.dropWhile (· != '=') = [] := by
    rw [List.dropWhile_eq_nil_iff]
    intro c hc
    rw [bne_iff_ne]
    rintro rfl
    exact h hc
  unfold pair?
  rw [hall]

/-- The reader of segments finds exactly the pair that a segment holds. -/
theorem pair?_eq_some_iff {segment : List Char} {p : Pair} :
    pair? segment = some p ↔ Reads segment p := by
  constructor
  · intro h
    by_cases hsign : '=' ∈ segment
    · obtain ⟨key, value, rfl, first⟩ := List.eq_append_cons_of_mem hsign
      rw [pair?_eq first] at h
      by_cases hblank : (Text.trim key).isEmpty = true
      · rw [if_pos hblank] at h
        cases h
      · rw [if_neg hblank, Option.some.injEq] at h
        subst h
        refine .intro first (fun hall => hblank (Text.isEmpty_trim_iff.mpr hall)) ?_
          (Text.trimmed_trim value) ?_
        · exact normalKey_eq_iff.mp (String.toList_ofList).symm
        · exact unquote_eq_iff.mp (String.toList_ofList).symm
    · rw [pair?_of_not_mem hsign] at h
      cases h
  · intro h
    cases h with
    | @intro key value bare pair first named normal trimmed unquoted =>
      rw [pair?_eq first, if_neg (fun hblank => named (Text.isEmpty_trim_iff.mp hblank)),
        normalKey_eq_iff.mpr normal, trimmed.trim_eq, unquote_eq_iff.mpr unquoted,
        String.ofList_toList, String.ofList_toList]

/-- Blanks around a segment fall to its key and its value, where they count for nothing. -/
theorem pair?_append {before after : List Char} (hbefore : AllBlank before)
    (hafter : AllBlank after) (segment : List Char) :
    pair? (before ++ (segment ++ after)) = pair? segment := by
  have hsign : Text.isBlank '=' = false := by decide
  by_cases hmem : '=' ∈ segment
  · -- The blanks hold no equals sign, so the first one is where it was.
    obtain ⟨key, value, rfl, first⟩ := List.eq_append_cons_of_mem hmem
    have first' : '=' ∉ before ++ key := by
      rw [List.mem_append]
      rintro (h | h)
      · exact hbefore.not_mem hsign h
      · exact first h
    have hkey : Text.trim (before ++ key) = Text.trim key := by
      simpa using Text.trim_append hbefore Text.allBlank_nil key
    have hvalue : Text.trim (value ++ after) = Text.trim value := by
      simpa using Text.trim_append Text.allBlank_nil hafter value
    have hname : normalKey (before ++ key) = normalKey key := by
      rw [← normalKey_trim, hkey, normalKey_trim]
    have hshape : before ++ (key ++ '=' :: value ++ after) =
        (before ++ key) ++ '=' :: (value ++ after) := by simp
    rw [hshape, pair?_eq first', pair?_eq first, hkey, hvalue, hname]
  · have hmem' : '=' ∉ before ++ (segment ++ after) := by
      rw [List.mem_append, List.mem_append]
      rintro (h | h | h)
      · exact hbefore.not_mem hsign h
      · exact hmem h
      · exact hafter.not_mem hsign h
    rw [pair?_of_not_mem hmem, pair?_of_not_mem hmem']

/-- Blanks around a segment do not change what it holds. -/
theorem pair?_trim (segment : List Char) : pair? (Text.trim segment) = pair? segment := by
  obtain ⟨before, after, hbefore, hafter, hsegment⟩ := (Text.trimmed_trim segment).within
  conv_rhs => rw [hsegment]
  exact (pair?_append hbefore hafter _).symm

/-- A segment is well formed exactly when it holds a pair. -/
theorem wellFormed_iff_isSome {segment : List Char} :
    WellFormed segment ↔ (pair? segment).isSome = true := by
  constructor
  · rintro ⟨key, value, rfl, first, named⟩
    rw [pair?_eq first, if_neg (fun hblank => named (Text.isEmpty_trim_iff.mp hblank))]
    rfl
  · intro h
    obtain ⟨p, hp⟩ := Option.isSome_iff_exists.mp h
    cases pair?_eq_some_iff.mp hp with
    | @intro key value _ _ first named => exact ⟨key, value, rfl, first, named⟩

/-- A well-formed segment is not blank. -/
theorem WellFormed.not_allBlank {segment : List Char} (h : WellFormed segment) :
    ¬AllBlank segment := by
  obtain ⟨key, value, rfl, -, named⟩ := h
  intro hblank
  exact named (Text.allBlank_append.mp hblank).1

/-- What holds a pair is well formed. -/
theorem Reads.wellFormed {segment : List Char} {p : Pair} (h : Reads segment p) :
    WellFormed segment := by
  rw [wellFormed_iff_isSome, pair?_eq_some_iff.mpr h]
  rfl

/-! ## Rows of segments -/

/-- A segment that keeps a row from being read. -/
def IsMalformed (segment : List Char) : Prop := ¬AllBlank segment ∧ ¬WellFormed segment

variable {segment : List Char} {segments : List (List Char)} {p : Pair} {ps : List Pair}

/-- A blank segment is passed over. -/
theorem pairsOf_cons_blank (h : AllBlank segment) :
    pairsOf (segment :: segments) = pairsOf segments := by
  rw [pairsOf, if_pos (Text.isEmpty_trim_iff.mpr h)]

/-- A segment with a pair puts it in front of those of the rest. -/
theorem pairsOf_cons_reads (h : Reads segment p) :
    pairsOf (segment :: segments) = (pairsOf segments).map (p :: ·) := by
  have hblank : ¬(Text.trim segment).isEmpty = true := fun hempty =>
    h.wellFormed.not_allBlank (Text.isEmpty_trim_iff.mp hempty)
  rw [pairsOf, if_neg hblank, pair?_trim, pair?_eq_some_iff.mpr h]

/-- A malformed segment ends the reading and is reported without the blanks around it. -/
theorem pairsOf_cons_malformed (h : IsMalformed segment) :
    pairsOf (segment :: segments) = .error (String.ofList (Text.trim segment)) := by
  have hnone : pair? segment = none := by
    simpa [wellFormed_iff_isSome] using h.2
  rw [pairsOf, if_neg (fun hempty => h.1 (Text.isEmpty_trim_iff.mp hempty)), pair?_trim, hnone]

/-- A segment is blank, holds a pair, or is malformed. -/
theorem blank_or_reads_or_malformed (segment : List Char) :
    AllBlank segment ∨ (∃ p, Reads segment p) ∨ IsMalformed segment := by
  by_cases hblank : AllBlank segment
  · exact .inl hblank
  · by_cases hformed : WellFormed segment
    · obtain ⟨p, hp⟩ := Option.isSome_iff_exists.mp (wellFormed_iff_isSome.mp hformed)
      exact .inr (.inl ⟨p, pair?_eq_some_iff.mp hp⟩)
    · exact .inr (.inr ⟨hblank, hformed⟩)

/-- A row of segments is read exactly as its pairs from left to right. -/
theorem pairsOf_eq_ok_iff : pairsOf segments = .ok ps ↔ ReadsAll segments ps := by
  constructor
  · intro h
    induction segments generalizing ps with
    | nil =>
      cases h
      exact .nil
    | cons segment segments ih =>
      obtain hblank | ⟨p, hreads⟩ | hmalformed := blank_or_reads_or_malformed segment
      · rw [pairsOf_cons_blank hblank] at h
        exact .blank hblank (ih h)
      · rw [pairsOf_cons_reads hreads] at h
        cases hrest : pairsOf segments with
        | error text =>
          rw [hrest] at h
          cases h
        | ok rest =>
          rw [hrest] at h
          cases h
          exact .pair hreads (ih hrest)
      · rw [pairsOf_cons_malformed hmalformed] at h
        cases h
  · intro h
    induction h with
    | nil => rfl
    | blank blank _ ih => rw [pairsOf_cons_blank blank, ih]
    | pair reads _ ih =>
      rw [pairsOf_cons_reads reads, ih]
      rfl

theorem map_eq_error_iff {text : String} {row : Except String (List Pair)} :
    row.map (p :: ·) = .error text ↔ row = .error text := by
  cases row with
  | error other => exact Iff.rfl
  | ok rest =>
    constructor
    · intro h
      cases h
    · intro h
      cases h

/-- A row of segments is refused exactly for its first malformed one, without the blanks around it. -/
theorem pairsOf_eq_error_iff {text : String} :
    pairsOf segments = .error text ↔
      ∃ segment, IsFirst IsMalformed segments segment ∧ Trimmed segment text.toList := by
  induction segments with
  | nil =>
    constructor
    · intro h
      cases h
    · rintro ⟨segment, hfirst, -⟩
      exact absurd hfirst isFirst_nil
  | cons segment segments ih =>
    -- A segment in order leaves the question to the rest of the row.
    simp only [isFirst_cons]
    obtain hblank | ⟨p, hreads⟩ | hmalformed := blank_or_reads_or_malformed segment
    · have hfine : ¬IsMalformed segment := fun h => h.1 hblank
      simp only [pairsOf_cons_blank hblank, ih, hfine, false_and, not_false_eq_true, true_and,
        false_or]
    · have hfine : ¬IsMalformed segment := fun h => h.2 hreads.wellFormed
      simp only [pairsOf_cons_reads hreads, map_eq_error_iff, ih, hfine, false_and, not_false_eq_true,
        true_and, false_or]
    · rw [pairsOf_cons_malformed hmalformed, Except.error.injEq, ← String.toList_inj,
        String.toList_ofList, Text.trim_eq_iff]
      constructor
      · intro h
        exact ⟨segment, .inl ⟨hmalformed, rfl⟩, h⟩
      · rintro ⟨other, ⟨-, rfl⟩ | ⟨hfine, -⟩, h⟩
        · exact h
        · exact absurd hmalformed hfine

/-- The pairs of a row that is read are those of its segments. -/
theorem ReadsAll.mem_iff (h : ReadsAll segments ps) :
    p ∈ ps ↔ ∃ segment ∈ segments, Reads segment p := by
  induction h with
  | nil => simp
  | blank blank _ ih =>
    rw [ih, List.exists_mem_cons_iff]
    constructor
    · exact .inr
    · rintro (hreads | hrest)
      · exact absurd blank hreads.wellFormed.not_allBlank
      · exact hrest
  | @pair segment segments q ps reads _ ih =>
    rw [List.mem_cons, ih, List.exists_mem_cons_iff]
    have hq : p = q ↔ Reads segment p := by
      rw [← pair?_eq_some_iff, pair?_eq_some_iff.mpr reads, Option.some.injEq, eq_comm]
    rw [hq]

/-- A row is read exactly when each of its segments is blank or well formed. -/
theorem exists_readsAll_iff :
    (∃ ps, ReadsAll segments ps) ↔
      ∀ segment ∈ segments, ¬AllBlank segment → WellFormed segment := by
  constructor
  · rintro ⟨ps, h⟩
    induction h with
    | nil => simp
    | blank blank _ ih =>
      refine List.forall_mem_cons.mpr ⟨?_, ih⟩
      exact fun hnot => absurd blank hnot
    | pair reads _ ih => exact List.forall_mem_cons.mpr ⟨fun _ => reads.wellFormed, ih⟩
  · intro h
    induction segments with
    | nil => exact ⟨[], .nil⟩
    | cons segment segments ih =>
      obtain ⟨hsegment, hrest⟩ := List.forall_mem_cons.mp h
      obtain ⟨ps, hps⟩ := ih hrest
      obtain hblank | ⟨p, hreads⟩ | hmalformed := blank_or_reads_or_malformed segment
      · exact ⟨ps, .blank hblank hps⟩
      · exact ⟨p :: ps, .pair hreads hps⟩
      · exact absurd (hsegment hmalformed.1) hmalformed.2

/-! ## Connection strings -/

/-- The pairs of a connection string: those of its segments between semicolons. -/
def HasPairs (raw : String) (ps : List Pair) : Prop :=
  ∃ segments, IsSplit ';' raw.toList segments ∧ ReadsAll segments ps

/-- A segment of a connection string. -/
def HasSegment (raw : String) (segment : List Char) : Prop :=
  ∃ segments, IsSplit ';' raw.toList segments ∧ segment ∈ segments

/-- A pair that a segment of a connection string holds. -/
def Holds (raw : String) (p : Pair) : Prop := ∃ segment, HasSegment raw segment ∧ Reads segment p

/-- A string is taken apart at its semicolons. -/
theorem isSplit_segments (raw : List Char) : IsSplit ';' raw (ConnectionString.segments raw) :=
  Text.pieces_eq_iff.mp rfl

/-- A string has the segments that it is taken apart into. -/
theorem hasSegment_iff {raw : String} :
    HasSegment raw segment ↔ segment ∈ ConnectionString.segments raw.toList := by
  constructor
  · rintro ⟨segments, hsplit, hmem⟩
    rwa [← Text.pieces_eq_iff.mpr hsplit] at hmem
  · intro h
    exact ⟨_, isSplit_segments raw.toList, h⟩

/-- A string has the pairs that its segments hold, one by one. -/
theorem hasPairs_iff {raw : String} :
    HasPairs raw ps ↔ ReadsAll (ConnectionString.segments raw.toList) ps := by
  constructor
  · rintro ⟨segments, hsplit, h⟩
    rwa [← Text.pieces_eq_iff.mpr hsplit] at h
  · intro h
    exact ⟨_, isSplit_segments raw.toList, h⟩

/-- The pairs of a string are those that its segments hold. -/
theorem HasPairs.mem_iff {raw : String} (h : HasPairs raw ps) : p ∈ ps ↔ Holds raw p := by
  unfold Holds
  simp only [hasSegment_iff]
  exact (hasPairs_iff.mp h).mem_iff

/-- A string has pairs exactly when each of its segments is blank or well formed. -/
theorem exists_hasPairs_iff {raw : String} :
    (∃ ps, HasPairs raw ps) ↔
      ∀ segment, HasSegment raw segment → ¬AllBlank segment → WellFormed segment := by
  simp only [hasPairs_iff, hasSegment_iff]
  exact exists_readsAll_iff

/-- A string is read exactly when it has pairs, and they are what is read. -/
theorem pairs_eq_ok_iff {raw : String} : pairs raw = .ok ps ↔ HasPairs raw ps := by
  rw [hasPairs_iff, ← pairsOf_eq_ok_iff]
  rfl

/-- A string is turned down for its first malformed segment, without the blanks around it. -/
theorem pairs_eq_error_iff {raw text : String} :
    pairs raw = .error text ↔
      ∃ segments segment, IsSplit ';' raw.toList segments ∧
        IsFirst IsMalformed segments segment ∧ Trimmed segment text.toList := by
  unfold pairs
  rw [pairsOf_eq_error_iff]
  constructor
  · rintro ⟨segment, h⟩
    exact ⟨_, segment, isSplit_segments raw.toList, h⟩
  · rintro ⟨segments, segment, hsplit, h⟩
    rw [← Text.pieces_eq_iff.mpr hsplit] at h
    exact ⟨segment, h⟩

end ConnectionString

end UnitOfWork
