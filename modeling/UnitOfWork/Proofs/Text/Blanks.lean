import Mathlib.Data.List.DropRight
import Mathlib.Data.List.TakeWhile
import UnitOfWork.Text.Blank

/-!
# Trimming, words and segments

What the three ways of taking a text apart are, without a word on how they go about it. `Trimmed` is
a text with blanks taken off its ends until none is left there; `HasWords` reads the words of a text
off one after the other, each of them up to the next blank; `IsSplit` is a row of segments that gives
the text back when it is joined again. Each relation holds of one result only, and `trim_eq_iff`,
`words_eq_iff` and `pieces_eq_iff` say that this result is what is computed.

The laws on blanks at the ends of a text follow: they change neither what is left after trimming nor
the words.
-/

set_option autoImplicit false

namespace UnitOfWork.Text

/-! ## The relations -/

/-- Nothing but blanks; also the empty text. -/
def AllBlank (s : List Char) : Prop := ∀ c ∈ s, isBlank c = true

/-- The text `t` is `s` without the blanks at its ends. -/
structure Trimmed (s t : List Char) : Prop where
  within : ∃ before after, AllBlank before ∧ AllBlank after ∧ s = before ++ (t ++ after)
  start : ∀ c ∈ t.head?, isBlank c = false
  finish : ∀ c ∈ t.getLast?, isBlank c = false

/-- The words of a text, from left to right. A word goes on until a blank or the end. -/
inductive HasWords : List Char → List (List Char) → Prop where
  | none {s : List Char} (blank : AllBlank s) : HasWords s []
  | word {before word rest : List Char} {more : List (List Char)} (blank : AllBlank before)
      (nonempty : word ≠ []) (solid : ∀ c ∈ word, isBlank c = false)
      (stops : ∀ c ∈ rest.head?, isBlank c = true) (words : HasWords rest more) :
      HasWords (before ++ (word ++ rest)) (word :: more)

/-- The segments of a text between the separators; they are at least one. -/
structure IsSplit (separator : Char) (s : List Char) (segments : List (List Char)) : Prop where
  nonempty : segments ≠ []
  without : ∀ segment ∈ segments, separator ∉ segment
  joined : [separator].intercalate segments = s

variable {s t before after : List Char}

/-! ## Blank texts -/

@[simp]
theorem allBlank_nil : AllBlank [] := fun _ hc => nomatch hc

@[simp]
theorem allBlank_cons {c : Char} : AllBlank (c :: s) ↔ isBlank c = true ∧ AllBlank s :=
  List.forall_mem_cons

/-- Text is blank when both of its parts are. -/
@[simp]
theorem allBlank_append : AllBlank (s ++ t) ↔ AllBlank s ∧ AllBlank t := List.forall_mem_append

/-- A character that is no blank is not among blanks. -/
theorem AllBlank.not_mem {c : Char} (h : AllBlank s) (hc : isBlank c = false) : c ∉ s := by
  intro hmem
  rw [h c hmem] at hc
  cases hc

theorem AllBlank.head? (h : AllBlank s) : ∀ c ∈ s.head?, isBlank c = true := fun c hc =>
  h c (List.mem_of_mem_head? hc)

/-! ## Trimming -/

/-- Trimming at the end is dropping from the right. -/
theorem trimEnd_eq_rdropWhile (s : List Char) : trimEnd s = s.rdropWhile isBlank := rfl

/-- Blanks in front do not survive a trim at the start. -/
theorem trimStart_append (h : AllBlank before) (s : List Char) :
    trimStart (before ++ s) = trimStart s := List.dropWhile_append_of_pos h

/-- Blanks behind do not survive a trim at the end. -/
theorem trimEnd_append (h : AllBlank after) (s : List Char) : trimEnd (s ++ after) = trimEnd s := by
  unfold trimEnd
  rw [List.reverse_append, List.dropWhile_append_of_pos]
  intro c hc
  exact h c (List.mem_reverse.mp hc)

/-- A text that starts with no blank has none to lose there. -/
theorem trimStart_eq_self (h : ∀ c ∈ s.head?, isBlank c = false) : trimStart s = s := by
  cases s with
  | nil => rfl
  | cons c rest => exact List.dropWhile_cons_of_neg (by simpa using h)

/-- A text that ends in no blank has none to lose there. -/
theorem trimEnd_eq_self (h : ∀ c ∈ s.getLast?, isBlank c = false) : trimEnd s = s := by
  rw [trimEnd_eq_rdropWhile, List.rdropWhile_eq_self_iff]
  intro hne
  rw [h _ (List.getLast_mem_getLast? hne)]
  exact Bool.false_ne_true

/-- Only one text is left after trimming. -/
theorem Trimmed.trim_eq (h : Trimmed s t) : trim s = t := by
  obtain ⟨before, after, hbefore, hafter, rfl⟩ := h.within
  unfold trim
  rw [trimStart_append hbefore]
  by_cases hempty : t = []
  · subst hempty
    have hgone : trimStart after = [] := List.dropWhile_eq_nil_iff.mpr hafter
    rw [List.nil_append, hgone]
    rfl
  · have hstart : ∀ c ∈ (t ++ after).head?, isBlank c = false := by
      rw [List.head?_append_of_ne_nil _ hempty]
      exact h.start
    rw [trimStart_eq_self hstart, trimEnd_append hafter, trimEnd_eq_self h.finish]

/-- Whatever is kept at the start of a text, dropping blanks has stopped there. -/
theorem isBlank_head?_of_isPrefix (h : t <+: trimStart s) : ∀ c ∈ t.head?, isBlank c = false := by
  intro c hc
  obtain ⟨rest, hrest⟩ := h
  have hhead : (trimStart s).head? = some c := by
    rw [← hrest, List.head?_append, Option.mem_def.mp hc]
    rfl
  have hstops := List.head?_dropWhile_not isBlank s
  unfold trimStart at hhead
  rwa [hhead] at hstops

/-- Trimming takes the blanks off both ends and leaves none there. -/
theorem trimmed_trim (s : List Char) : Trimmed s (trim s) where
  within := by
    refine ⟨s.takeWhile isBlank, (trimStart s).rtakeWhile isBlank, ?_, ?_, ?_⟩
    · intro c hc
      exact List.mem_takeWhile_imp hc
    · intro c hc
      exact List.mem_rtakeWhile_imp hc
    · unfold trim
      rw [trimEnd_eq_rdropWhile, List.rdropWhile_append_rtakeWhile]
      exact List.takeWhile_append_dropWhile.symm
  start := by
    have hkept : trim s <+: trimStart s := List.rdropWhile_prefix isBlank _
    exact isBlank_head?_of_isPrefix hkept
  finish := by
    intro c hc
    obtain ⟨hne, rfl⟩ := List.mem_getLast?_eq_getLast hc
    exact Bool.eq_false_iff.mpr (List.rdropWhile_last_not isBlank _ hne)

/-- The trimmed text is the one without blanks at its ends that only blanks surround. -/
theorem trim_eq_iff : trim s = t ↔ Trimmed s t := by
  constructor
  · rintro rfl
    exact trimmed_trim s
  · exact Trimmed.trim_eq

/-- Blanks around a text are lost with those of its own. -/
theorem trim_append (hbefore : AllBlank before) (hafter : AllBlank after) (s : List Char) :
    trim (before ++ (s ++ after)) = trim s := by
  obtain ⟨before', after', hbefore', hafter', hs⟩ := (trimmed_trim s).within
  apply Trimmed.trim_eq
  refine ⟨⟨before ++ before', after' ++ after, ?_, ?_, ?_⟩, (trimmed_trim s).start,
    (trimmed_trim s).finish⟩
  · exact allBlank_append.mpr ⟨hbefore, hbefore'⟩
  · exact allBlank_append.mpr ⟨hafter', hafter⟩
  · conv_lhs => rw [hs]
    simp only [List.append_assoc]

/-- All that is left was there before. -/
theorem Trimmed.subset (h : Trimmed s t) : t ⊆ s := by
  obtain ⟨before, after, -, -, rfl⟩ := h.within
  intro c hc
  simp [hc]

/-- Nothing is left of a text exactly when it is blank. -/
theorem trim_eq_nil_iff : trim s = [] ↔ AllBlank s := by
  rw [trim_eq_iff]
  constructor
  · intro h
    obtain ⟨before, after, hbefore, hafter, rfl⟩ := h.within
    exact allBlank_append.mpr ⟨hbefore, hafter⟩
  · intro h
    exact ⟨⟨s, [], h, allBlank_nil, by simp⟩, fun c hc => (nomatch hc), fun c hc => (nomatch hc)⟩

/-- Nothing is left of a trim just when all was blank. -/
theorem isEmpty_trim_iff : (trim s).isEmpty = true ↔ AllBlank s := by
  rw [List.isEmpty_iff, trim_eq_nil_iff]

/-! ## Segments -/

/-- The pieces are those of the library's split. -/
theorem pieces_eq_splitOnP (cut : Char → Bool) (s : List Char) : pieces cut s = s.splitOnP cut := by
  induction s with
  | nil => rfl
  | cons c rest ih =>
    rw [pieces, List.splitOnP_cons_eq_if_modifyHead, ih]
    by_cases hc : cut c = true
    · rw [if_pos hc, if_pos hc]
    · rw [if_neg hc, if_neg hc]
      cases hmore : rest.splitOnP cut with
      | nil => exact absurd hmore (List.splitOnP_ne_nil cut rest)
      | cons piece more => rfl

/-- No segment holds the separator. -/
theorem not_mem_of_mem_splitOn {separator : Char} {segment : List Char} (s : List Char)
    (h : segment ∈ s.splitOn separator) : separator ∉ segment := by
  induction s generalizing segment with
  | nil =>
    obtain rfl : segment = [] := by simpa using h
    exact List.not_mem_nil
  | cons c rest ih =>
    rw [List.splitOn_eq_splitOnP, List.splitOnP_cons_eq_if_modifyHead,
      ← List.splitOn_eq_splitOnP] at h
    by_cases hc : (c == separator) = true
    · rw [if_pos hc] at h
      obtain rfl | hmore := List.mem_cons.mp h
      · exact List.not_mem_nil
      · exact ih hmore
    · rw [if_neg hc] at h
      have hne : ¬separator = c := fun heq => hc (beq_iff_eq.mpr heq.symm)
      cases hpieces : rest.splitOn separator with
      | nil => exact absurd hpieces (List.splitOn_ne_nil separator rest)
      | cons piece more =>
        rw [hpieces] at h ih
        obtain rfl | hmore := List.mem_cons.mp h
        · exact List.not_mem_cons_of_ne_of_not_mem hne (ih List.mem_cons_self)
        · exact ih (List.mem_cons_of_mem _ hmore)

/-- A text is in segments in one way only, the one that is computed. -/
theorem pieces_eq_iff {separator : Char} {segments : List (List Char)} :
    pieces (· == separator) s = segments ↔ IsSplit separator s segments := by
  rw [pieces_eq_splitOnP, ← List.splitOn_eq_splitOnP]
  constructor
  · rintro rfl
    exact ⟨List.splitOn_ne_nil _ s, fun segment => not_mem_of_mem_splitOn s,
      List.intercalate_splitOn separator⟩
  · intro h
    rw [← h.joined]
    exact List.splitOn_intercalate separator h.without h.nonempty

/-- A text is blank exactly when it is one blank segment, for between segments there is a separator. -/
theorem IsSplit.allBlank_iff {separator : Char} {segments : List (List Char)}
    (h : IsSplit separator s segments) (hsolid : isBlank separator = false) :
    AllBlank s ↔ ∃ segment, segments = [segment] ∧ AllBlank segment := by
  rw [← h.joined]
  match segments, h.nonempty with
  | [segment], _ => simp
  | segment :: segment' :: more, _ => simp [List.intercalate_cons_cons, hsolid]

/-! ## Words -/

@[simp]
theorem words_nil : words [] = [] := rfl

/-- A blank comes between words. -/
theorem words_append_cons {c : Char} (hc : isBlank c = true) (s rest : List Char) :
    words (s ++ c :: rest) = words s ++ words rest := by
  unfold words
  rw [pieces_eq_splitOnP, List.splitOnP_append_cons s rest hc, List.filter_append,
    ← pieces_eq_splitOnP, ← pieces_eq_splitOnP]

/-- Blanks in front add no word. -/
theorem words_append (h : AllBlank before) (s : List Char) : words (before ++ s) = words s := by
  induction before with
  | nil => rfl
  | cons c rest ih =>
    obtain ⟨hc, hrest⟩ := allBlank_cons.mp h
    have hfirst := words_append_cons hc [] (rest ++ s)
    rw [words_nil, List.nil_append, List.nil_append, ih hrest] at hfirst
    exact hfirst

/-- Blank text has no words. -/
theorem words_of_allBlank (h : AllBlank s) : words s = [] := by
  have hall := words_append h []
  rwa [List.append_nil] at hall

/-- A text without blanks is one word. -/
theorem words_of_solid (hne : s ≠ []) (h : ∀ c ∈ s, isBlank c = false) : words s = [s] := by
  unfold words
  rw [pieces_eq_splitOnP, List.splitOnP_eq_singleton h]
  simpa using hne

/-- The blanks behind the last word are none of the words. -/
theorem words_append_right (h : AllBlank after) (s : List Char) : words (s ++ after) = words s := by
  cases after with
  | nil => rw [List.append_nil]
  | cons c rest =>
    obtain ⟨hc, hrest⟩ := allBlank_cons.mp h
    rw [words_append_cons hc, words_of_allBlank hrest, List.append_nil]

/-- Trimming keeps the words. -/
theorem words_trim (s : List Char) : words (trim s) = words s := by
  obtain ⟨before, after, hbefore, hafter, hs⟩ := (trimmed_trim s).within
  conv_rhs => rw [hs]
  rw [words_append hbefore, words_append_right hafter]

/-- A text has its words in one way only. -/
theorem HasWords.words_eq {ws : List (List Char)} (h : HasWords s ws) : words s = ws := by
  induction h with
  | none blank => exact words_of_allBlank blank
  | @word before word rest more blank nonempty solid stops _ ih =>
    rw [words_append blank]
    cases rest with
    | nil =>
      rw [List.append_nil, words_of_solid nonempty solid, ← ih]
      rfl
    | cons c rest =>
      have hc : isBlank c = true := stops c rfl
      have hmore : words rest = more := by
        rw [← ih]
        exact (words_append (allBlank_cons.mpr ⟨hc, allBlank_nil⟩) rest).symm
      rw [words_append_cons hc, words_of_solid nonempty solid, hmore]
      rfl

/-- A blank in front of a text goes with the blanks that are there. -/
theorem HasWords.cons_blank {c : Char} {ws : List (List Char)} (h : HasWords s ws)
    (hc : isBlank c = true) : HasWords (c :: s) ws := by
  cases h with
  | none blank => exact .none (allBlank_cons.mpr ⟨hc, blank⟩)
  | word blank nonempty solid stops words =>
    exact .word (allBlank_cons.mpr ⟨hc, blank⟩) nonempty solid stops words

/-- Any other character in front of a text is a word by itself when a blank or nothing follows it, and
else a letter of the first word. -/
theorem HasWords.cons_solid {c : Char} {ws : List (List Char)} (h : HasWords s ws)
    (hc : isBlank c = false) : ∃ ws', HasWords (c :: s) ws' := by
  have hsolid : ∀ a ∈ [c], isBlank a = false := by simpa using hc
  cases h with
  | none blank =>
    exact ⟨_, .word allBlank_nil (List.cons_ne_nil c []) hsolid blank.head? (.none blank)⟩
  | @word before word rest more blank nonempty solid stops words =>
    cases before with
    | nil =>
      have hword : ∀ a ∈ c :: word, isBlank a = false := List.forall_mem_cons.mpr ⟨hc, solid⟩
      exact ⟨_, .word allBlank_nil (List.cons_ne_nil c word) hword stops words⟩
    | cons b before =>
      have hstops : ∀ a ∈ (b :: before ++ (word ++ rest)).head?, isBlank a = true := blank.head?
      exact ⟨_, .word allBlank_nil (List.cons_ne_nil c []) hsolid hstops
        (.word blank nonempty solid stops words)⟩

/-- Every text has words, in one way at least. -/
theorem exists_hasWords (s : List Char) : ∃ ws, HasWords s ws := by
  induction s with
  | nil => exact ⟨[], .none allBlank_nil⟩
  | cons c rest ih =>
    obtain ⟨ws, h⟩ := ih
    by_cases hc : isBlank c = true
    · exact ⟨ws, h.cons_blank hc⟩
    · exact h.cons_solid (Bool.eq_false_iff.mpr hc)

/-- The words of a text are those it is made of, with blanks between them. -/
theorem words_eq_iff {ws : List (List Char)} : words s = ws ↔ HasWords s ws := by
  constructor
  · rintro rfl
    obtain ⟨ws, h⟩ := exists_hasWords s
    rwa [h.words_eq]
  · exact HasWords.words_eq

/-- A word is not empty, has no blanks, and all its characters are those of the text. -/
theorem HasWords.of_mem {ws : List (List Char)} {w : List Char} (h : HasWords s ws) (hw : w ∈ ws) :
    w ≠ [] ∧ (∀ c ∈ w, isBlank c = false) ∧ w ⊆ s := by
  induction h with
  | none => cases hw
  | @word before word rest more _ nonempty solid _ _ ih =>
    obtain rfl | hmore := List.mem_cons.mp hw
    · refine ⟨nonempty, solid, fun c hc => ?_⟩
      simp [hc]
    · obtain ⟨hne, hsolid, hsub⟩ := ih hmore
      refine ⟨hne, hsolid, fun c hc => ?_⟩
      simp [hsub hc]

/-- A text is without words exactly when it is blank. -/
theorem HasWords.allBlank_iff {ws : List (List Char)} (h : HasWords s ws) :
    AllBlank s ↔ ws = [] := by
  rw [← h.words_eq]
  constructor
  · exact words_of_allBlank
  · intro hnil
    cases words_eq_iff.mp hnil with
    | none blank => exact blank

/-- Words with one space between them are the words of that text. -/
theorem hasWords_intercalate {ws : List (List Char)}
    (h : ∀ w ∈ ws, w ≠ [] ∧ ∀ c ∈ w, isBlank c = false) :
    HasWords ([' '].intercalate ws) ws := by
  rw [← words_eq_iff]
  induction ws with
  | nil => rfl
  | cons w more ih =>
    obtain ⟨⟨hne, hsolid⟩, hmore⟩ := List.forall_mem_cons.mp h
    cases more with
    | nil => rw [List.intercalate_singleton, words_of_solid hne hsolid]
    | cons w' more =>
      have hspace : isBlank ' ' = true := by decide
      rw [List.intercalate_cons_cons, List.append_assoc, List.singleton_append,
        words_append_cons hspace, words_of_solid hne hsolid, ih hmore]
      rfl

end UnitOfWork.Text
