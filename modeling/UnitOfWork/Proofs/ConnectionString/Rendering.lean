import UnitOfWork.Proofs.ConnectionString.Reading
import UnitOfWork.Proofs.Text.Letters

/-!
# Pairs written and read back

A pair is written as its key, an equals sign and its value between double quotes. `Canonical` is what
a pair has to be for that: the key consists of words with one space between them, none of its
characters would be changed or would end it, and the value does not end its segment. Anything else may
stand in the value, also blanks at its ends, equals signs and quotation marks, since nothing is escaped
and only the outermost marks are taken off.

Canonical pairs are read back as they were (`hasPairs_render`), and pairs that were read are canonical
(`HasPairs.canonical`). So the canonical rows are at once those that survive being written and those
that some string holds.
-/

set_option autoImplicit false

namespace UnitOfWork.ConnectionString

open Text (AllBlank Trimmed HasWords IsSplit isBlank)

/-! ## Canonical pairs -/

/-- A character that a key keeps as it is, and that does not end the key. -/
structure KeyLetter (c : Char) : Prop where
  solid : isBlank c = false
  noSemicolon : c ≠ ';'
  noEquals : c ≠ '='
  small : c.isUpper = false

/-- A key in its final form: words, at least one, with one space between them. -/
def CanonicalKey (key : List Char) : Prop :=
  ∃ words : List (List Char), words ≠ [] ∧
    (∀ word ∈ words, word ≠ [] ∧ ∀ c ∈ word, KeyLetter c) ∧ key = [' '].intercalate words

/-- A pair with a key in its final form and a value that can stand in a segment. -/
structure Pair.Canonical (p : Pair) : Prop where
  key : CanonicalKey p.key.toList
  value : ';' ∉ p.value.toList

variable {p : Pair} {ps : List Pair} {key segment : List Char}

/-- Words put together bring in spaces only. -/
theorem mem_intercalate_space {words : List (List Char)} {c : Char}
    (h : c ∈ [' '].intercalate words) : c = ' ' ∨ ∃ word ∈ words, c ∈ word := by
  induction words with
  | nil => cases h
  | cons word more ih =>
    cases more with
    | nil =>
      rw [List.intercalate_singleton] at h
      exact .inr ⟨word, List.mem_cons_self, h⟩
    | cons word' more =>
      rw [List.intercalate_cons_cons, List.append_assoc, List.mem_append, List.mem_append,
        List.mem_singleton] at h
      obtain hword | hspace | hrest := h
      · exact .inr ⟨word, List.mem_cons_self, hword⟩
      · exact .inl hspace
      · obtain hspace | ⟨w, hw, hc⟩ := ih hrest
        · exact .inl hspace
        · exact .inr ⟨w, List.mem_cons_of_mem _ hw, hc⟩

/-- Apart from its spaces, a canonical key has letters only. -/
theorem CanonicalKey.letters (h : CanonicalKey key) {c : Char} (hc : c ∈ key) :
    c = ' ' ∨ KeyLetter c := by
  obtain ⟨words, -, hwords, rfl⟩ := h
  obtain hspace | ⟨word, hword, hmem⟩ := mem_intercalate_space hc
  · exact .inl hspace
  · exact .inr ((hwords word hword).2 c hmem)

/-- A canonical key has no equals sign, so that the first one in a segment ends it. -/
theorem CanonicalKey.not_mem_equals (h : CanonicalKey key) : '=' ∉ key := by
  intro hc
  obtain hspace | hletter := h.letters hc
  · exact absurd hspace (by decide)
  · exact hletter.noEquals rfl

/-- A canonical key does not end a segment. -/
theorem CanonicalKey.not_mem_semicolon (h : CanonicalKey key) : ';' ∉ key := by
  intro hc
  obtain hspace | hletter := h.letters hc
  · exact absurd hspace (by decide)
  · exact hletter.noSemicolon rfl

/-- A canonical key is its own normal form. -/
theorem CanonicalKey.normalForm (h : CanonicalKey key) : NormalForm key key := by
  have hsmall : ∀ c ∈ key, c.isUpper = false := by
    intro c hc
    obtain rfl | hletter := h.letters hc
    · rfl
    · exact hletter.small
  obtain ⟨words, -, hwords, rfl⟩ := h
  refine ⟨words, Text.hasWords_intercalate fun word hword => ?_, (Text.lower_eq_self hsmall).symm⟩
  obtain ⟨hne, hletters⟩ := hwords word hword
  exact ⟨hne, fun c hc => (hletters c hc).solid⟩

/-- A canonical key is not blank. -/
theorem CanonicalKey.not_allBlank (h : CanonicalKey key) : ¬AllBlank key := by
  obtain ⟨words, hne, hwords, rfl⟩ := h
  have hread : HasWords ([' '].intercalate words) words :=
    Text.hasWords_intercalate fun word hword =>
      ⟨(hwords word hword).1, fun c hc => ((hwords word hword).2 c hc).solid⟩
  rw [hread.allBlank_iff]
  exact hne

/-! ## Writing and reading -/

theorem Pair.quoted_eq (p : Pair) :
    p.quoted = p.key.toList ++ '=' :: '"' :: (p.value.toList ++ ['"']) := by
  simp [Pair.quoted]

/-- What begins and ends with a quotation mark has no blanks at its ends. -/
theorem trimmed_quoted (value : List Char) :
    Trimmed ('"' :: (value ++ ['"'])) ('"' :: (value ++ ['"'])) := by
  refine ⟨⟨[], [], Text.allBlank_nil, Text.allBlank_nil, by simp⟩, ?_, ?_⟩
  · intro c hc
    obtain rfl : '"' = c := by simpa using hc
    decide
  · intro c hc
    rw [← List.cons_append, List.getLast?_concat] at hc
    obtain rfl : '"' = c := by simpa using hc
    decide

/-- A canonical pair is what its written form holds. -/
theorem Pair.Canonical.reads (h : p.Canonical) : Reads p.quoted p := by
  rw [Pair.quoted_eq]
  exact .intro h.key.not_mem_equals h.key.not_allBlank h.key.normalForm
    (trimmed_quoted p.value.toList) (.quoted (.inl rfl) p.value.toList)

/-- A canonical pair is written within one segment. -/
theorem Pair.Canonical.not_mem_semicolon (h : p.Canonical) : ';' ∉ p.quoted := by
  rw [Pair.quoted_eq]
  simp [h.key.not_mem_semicolon, h.value]

/-- Canonical pairs are read back from their segments, in their order. -/
theorem readsAll_quoted (h : ∀ p ∈ ps, p.Canonical) : ReadsAll (ps.map Pair.quoted) ps := by
  induction ps with
  | nil => exact .nil
  | cons p ps ih =>
    obtain ⟨hp, hps⟩ := List.forall_mem_cons.mp h
    exact .pair hp.reads (ih hps)

/-- Canonical pairs are the pairs of the string that they are written as. -/
theorem hasPairs_render (h : ∀ p ∈ ps, p.Canonical) : HasPairs (render ps) ps := by
  cases ps with
  | nil =>
    -- No pairs are written as the empty text, which is one blank segment and not none.
    refine ⟨[[]], ⟨List.cons_ne_nil _ _, ?_, rfl⟩, .blank Text.allBlank_nil .nil⟩
    simp
  | cons p ps =>
    refine ⟨(p :: ps).map Pair.quoted, ⟨?_, ?_, ?_⟩, readsAll_quoted h⟩
    · simp
    · intro segment hsegment
      obtain ⟨q, hq, rfl⟩ := List.mem_map.mp hsegment
      exact (h q hq).not_mem_semicolon
    · exact String.toList_ofList.symm

/-! ## What is read is canonical -/

/-- The normal form of a key is canonical, given that the key names something and neither an equals
sign nor a semicolon is in it. -/
theorem NormalForm.canonicalKey {name : List Char} (h : NormalForm key name)
    (named : ¬AllBlank key) (noEquals : '=' ∉ key) (noSemicolon : ';' ∉ key) :
    CanonicalKey name := by
  obtain ⟨words, hwords, rfl⟩ := h
  refine ⟨words.map Text.lower, ?_, ?_, Text.lower_intercalate words⟩
  · rw [ne_eq, List.map_eq_nil_iff, ← hwords.allBlank_iff]
    exact named
  · intro small hsmall
    obtain ⟨word, hword, rfl⟩ := List.mem_map.mp hsmall
    obtain ⟨hne, hsolid, hsub⟩ := hwords.of_mem hword
    refine ⟨by simpa [Text.lower] using hne, fun c hc => ?_⟩
    obtain ⟨d, hd, rfl⟩ := List.mem_map.mp hc
    -- Neither sign is among the small letters, so no capital has become one.
    have hsign : ∀ sign : Char, sign.toNat < 97 → sign ∉ key → d.toLower ≠ sign := by
      rintro _ hlow hnot rfl
      obtain hword' | ⟨hle, -⟩ := Text.mem_lower hc
      · exact hnot (hsub hword')
      · omega
    exact ⟨(Text.isBlank_toLower d).trans (hsolid d hd), hsign ';' (by decide) noSemicolon,
      hsign '=' (by decide) noEquals, Text.isUpper_toLower d⟩

/-- A value means nothing that is not in it. -/
theorem Unquoted.subset {value meaning : List Char} (h : Unquoted value meaning) :
    meaning ⊆ value := by
  cases h with
  | quoted quote =>
    intro c hc
    simp [hc]
  | bare unquoted => exact List.Subset.refl value

/-- The pair that is read from a text without semicolons is canonical. -/
theorem Reads.canonical (h : Reads segment p) (noSemicolon : ';' ∉ segment) : p.Canonical := by
  cases h with
  | @intro key value bare pair first named normal trimmed unquoted =>
    rw [List.mem_append, List.mem_cons, not_or, not_or] at noSemicolon
    obtain ⟨hkey, -, hvalue⟩ := noSemicolon
    refine ⟨normal.canonicalKey named first hkey, fun hmem => hvalue ?_⟩
    exact trimmed.subset (unquoted.subset hmem)

/-- The pairs of a string are canonical. -/
theorem HasPairs.canonical {raw : String} (h : HasPairs raw ps) : ∀ p ∈ ps, p.Canonical := by
  obtain ⟨segments, hsplit, hreads⟩ := h
  intro p hp
  obtain ⟨segment, hsegment, hread⟩ := hreads.mem_iff.mp hp
  exact hread.canonical (hsplit.without segment hsegment)

/-- A row of pairs is read back from what it is written as exactly when all its pairs are canonical;
and the pairs that any string holds are so, hence writing them and reading again gives them back. -/
theorem pairs_render_eq_iff (ps : List Pair) :
    (pairs (render ps) = .ok ps ↔ ∀ p ∈ ps, p.Canonical) ∧
      ∀ raw, pairs raw = .ok ps → (∀ p ∈ ps, p.Canonical) ∧ pairs (render ps) = .ok ps := by
  have hback : (∀ p ∈ ps, p.Canonical) → pairs (render ps) = .ok ps := fun h =>
    pairs_eq_ok_iff.mpr (hasPairs_render h)
  have hcanonical : ∀ raw, pairs raw = .ok ps → ∀ p ∈ ps, p.Canonical := fun raw h =>
    (pairs_eq_ok_iff.mp h).canonical
  refine ⟨⟨hcanonical (render ps), hback⟩, fun raw h => ?_⟩
  exact ⟨hcanonical raw h, hback (hcanonical raw h)⟩

/-- Between the outermost marks a value keeps its blanks, its equals sign and its marks. -/
theorem pairs_render_marked :
    pairs "Pass \t WORD = \" \"a=b' \" ;; k=''" = .ok [⟨"pass word", " \"a=b' "⟩, ⟨"k", ""⟩] ∧
      (∀ p ∈ [(⟨"pass word", " \"a=b' "⟩ : Pair), ⟨"k", ""⟩], p.Canonical) ∧
      pairs (render [⟨"pass word", " \"a=b' "⟩, ⟨"k", ""⟩]) =
        .ok [⟨"pass word", " \"a=b' "⟩, ⟨"k", ""⟩] := by
  have hread : pairs "Pass \t WORD = \" \"a=b' \" ;; k=''" =
      .ok [⟨"pass word", " \"a=b' "⟩, ⟨"k", ""⟩] := by
    decide +kernel
  exact ⟨hread, (pairs_render_eq_iff _).2 _ hread⟩

end UnitOfWork.ConnectionString
