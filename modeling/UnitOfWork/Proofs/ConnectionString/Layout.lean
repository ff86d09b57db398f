import UnitOfWork.Proofs.ConnectionString.Judgement

/-!
# Layout and order of a connection string

Three ways of writing a string differently, each as a relation on its segments. `Padded` puts blank
segments in, anywhere. `Relaid` spells one segment differently: the case of ASCII letters in the key
and the blanks around the key, around the value and between the words of the key are free, while the
blanks inside a quoted value belong to it. The third is a permutation of the segments.

Blank segments change nothing at all. A relaid string holds the same pairs, or it is malformed like the
one it comes from, and then only the segment that the message quotes may differ. A permuted string
holds the same pairs in another order (`ReadsAll.perm`); every check asks whether there is an offender
before it asks which one is first, so the kind of the verdict stays, and so does the missing group,
which does not depend on the order of the pairs at all.
-/

set_option autoImplicit false

namespace UnitOfWork.ConnectionString

open Text (AllBlank Trimmed HasWords IsSplit SameLetter)

/-! ## Ways of writing a string differently -/

/-- The segments of two strings are so related. -/
def Rewritten (related : List (List Char) → List (List Char) → Prop) (raw raw' : String) : Prop :=
  ∃ segments segments', IsSplit ';' raw.toList segments ∧ IsSplit ';' raw'.toList segments' ∧
    related segments segments'

/-- The second row is the first with blank segments put in. -/
inductive Padded : List (List Char) → List (List Char) → Prop where
  | nil : Padded [] []
  | blank {segment : List Char} {segments segments' : List (List Char)} (blank : AllBlank segment)
      (rest : Padded segments segments') : Padded segments (segment :: segments')
  | keep {segment : List Char} {segments segments' : List (List Char)}
      (rest : Padded segments segments') : Padded (segment :: segments) (segment :: segments')

/-- Two spellings of a key: the same words, but for the case of ASCII letters. -/
def SameKey (key key' : List Char) : Prop :=
  ∃ words words', HasWords key words ∧ HasWords key' words' ∧
    List.Forall₂ (List.Forall₂ SameLetter) words words'

/-- The same value, but for the blanks around it. -/
def SameValue (value value' : List Char) : Prop :=
  ∃ bare, Trimmed value bare ∧ Trimmed value' bare

/-- Two spellings of a segment. One without an equals sign is taken for a key. -/
inductive Relaid : List Char → List Char → Prop where
  | unpaired {segment segment' : List Char} (bare : '=' ∉ segment) (bare' : '=' ∉ segment')
      (same : SameKey segment segment') : Relaid segment segment'
  | paired {key key' value value' : List Char} (first : '=' ∉ key) (first' : '=' ∉ key')
      (sameKey : SameKey key key') (sameValue : SameValue value value') :
      Relaid (key ++ '=' :: value) (key' ++ '=' :: value')

/-- Two segments that come to the same in a row: both are blank, both hold the same pair, or both are
malformed. -/
structure Interchangeable (segment segment' : List Char) : Prop where
  allBlank_iff : AllBlank segment ↔ AllBlank segment'
  reads_iff : ∀ p, Reads segment p ↔ Reads segment' p

/-- Verdicts of one kind. They may differ in the first offender, but not in the missing parameter. -/
inductive Akin : Verdict → Verdict → Prop where
  | same (v : Verdict) : Akin v v
  | malformed (segment segment' : String) : Akin (.malformed segment) (.malformed segment')
  | unsupportedOption (key key' : String) (provider : Provider) :
      Akin (.unsupportedOption key provider) (.unsupportedOption key' provider)
  | invalidParameterValue (key key' value value' : String) :
      Akin (.invalidParameterValue key value) (.invalidParameterValue key' value')

variable {r : Rules} {raw raw' : String} {segment segment' : List Char}
  {segments segments' : List (List Char)} {ps ps' : List Pair} {v v' : Verdict}

/-! ## Rows of segments -/

/-- A row is read segment by segment: a blank one adds nothing, any other adds its pair. -/
theorem readsAll_cons_iff :
    ReadsAll (segment :: segments) ps ↔
      AllBlank segment ∧ ReadsAll segments ps ∨
        ∃ p rest, Reads segment p ∧ ReadsAll segments rest ∧ ps = p :: rest := by
  constructor
  · intro h
    cases h with
    | blank blank rest => exact .inl ⟨blank, rest⟩
    | pair reads rest => exact .inr ⟨_, _, reads, rest, rfl⟩
  · rintro (⟨blank, rest⟩ | ⟨p, more, reads, rest, rfl⟩)
    · exact .blank blank rest
    · exact .pair reads rest

/-- Blank segments make no difference to what a row comes to, its first malformed segment included. -/
theorem Padded.pairsOf_eq (h : Padded segments segments') : pairsOf segments' = pairsOf segments := by
  induction h with
  | nil => rfl
  | blank blank _ ih => rw [pairsOf_cons_blank blank, ih]
  | keep _ ih => simp only [pairsOf, ih]

/-- Interchangeable segments hold the same pairs. -/
theorem readsAll_congr (h : List.Forall₂ Interchangeable segments segments') :
    ReadsAll segments ps ↔ ReadsAll segments' ps := by
  induction h generalizing ps with
  | nil => exact Iff.rfl
  | cons hsegment _ ih =>
    simp only [readsAll_cons_iff, hsegment.allBlank_iff, hsegment.reads_iff, ih]

/-- A row in another order holds its pairs in another order. -/
theorem ReadsAll.perm (h : ReadsAll segments ps) (order : segments.Perm segments') :
    ∃ ps', ps.Perm ps' ∧ ReadsAll segments' ps' := by
  induction order generalizing ps with
  | nil => exact ⟨ps, .refl ps, h⟩
  | cons segment _ ih =>
    cases h with
    | blank blank rest =>
      obtain ⟨ps', hperm, hread⟩ := ih rest
      exact ⟨ps', hperm, .blank blank hread⟩
    | @pair _ _ p _ reads rest =>
      obtain ⟨ps', hperm, hread⟩ := ih rest
      exact ⟨p :: ps', hperm.cons p, .pair reads hread⟩
  | swap first second row =>
    cases h with
    | blank blank rest =>
      cases rest with
      | blank blank' rest => exact ⟨_, .refl _, .blank blank' (.blank blank rest)⟩
      | pair reads rest => exact ⟨_, .refl _, .pair reads (.blank blank rest)⟩
    | @pair _ _ p _ reads rest =>
      cases rest with
      | blank blank rest => exact ⟨_, .refl _, .blank blank (.pair reads rest)⟩
      | @pair _ _ q more reads' rest =>
        exact ⟨_, .swap q p more, .pair reads' (.pair reads rest)⟩
  | trans _ _ ih ih' =>
    obtain ⟨ps₁, hperm₁, hread₁⟩ := ih h
    obtain ⟨ps₂, hperm₂, hread₂⟩ := ih' hread₁
    exact ⟨ps₂, hperm₁.trans hperm₂, hread₂⟩

/-! ## Spellings of a segment -/

/-- Two texts spell one key exactly when their words are equal in small letters. -/
theorem sameKey_iff {key key' : List Char} :
    SameKey key key' ↔ (Text.words key).map Text.lower = (Text.words key').map Text.lower := by
  have hlower : ∀ words words' : List (List Char),
      words.map Text.lower = words'.map Text.lower ↔
        List.Forall₂ (List.Forall₂ SameLetter) words words' := by
    intro words words'
    rw [← List.forall₂_eq_eq_eq, List.forall₂_map_left_iff, List.forall₂_map_right_iff]
    simp only [Text.lower_eq_lower_iff]
  rw [hlower]
  constructor
  · rintro ⟨words, words', hwords, hwords', hsame⟩
    rwa [hwords.words_eq, hwords'.words_eq]
  · intro hsame
    exact ⟨_, _, Text.words_eq_iff.mp rfl, Text.words_eq_iff.mp rfl, hsame⟩

/-- Values are the same when they differ by blanks around them. -/
theorem sameValue_iff {value value' : List Char} :
    SameValue value value' ↔ Text.trim value = Text.trim value' := by
  constructor
  · rintro ⟨bare, htrimmed, htrimmed'⟩
    rw [htrimmed.trim_eq, htrimmed'.trim_eq]
  · intro h
    exact ⟨_, Text.trimmed_trim value, Text.trim_eq_iff.mp h.symm⟩

/-- Of two spellings of a key both are blank or none is. -/
theorem SameKey.allBlank_iff {key key' : List Char} (h : SameKey key key') :
    AllBlank key ↔ AllBlank key' := by
  obtain ⟨words, words', hwords, hwords', hsame⟩ := h
  rw [hwords.allBlank_iff, hwords'.allBlank_iff]
  cases hsame with
  | nil => simp
  | cons => simp

/-- Two spellings of a key have one normal form. -/
theorem SameKey.normalKey_eq {key key' : List Char} (h : SameKey key key') :
    normalKey key = normalKey key' := by
  unfold normalKey
  rw [Text.lower_intercalate, Text.lower_intercalate, sameKey_iff.mp h]

/-- Segments are told to be spellings of each other by their keys in small letters and their values
without blanks around them. -/
theorem relaid_of_eq (key key' value value' : List Char) (first : '=' ∉ key) (first' : '=' ∉ key')
    (hkey : (Text.words key).map Text.lower = (Text.words key').map Text.lower)
    (hvalue : Text.trim value = Text.trim value') :
    Relaid (key ++ '=' :: value) (key' ++ '=' :: value') :=
  .paired first first' (sameKey_iff.mpr hkey) (sameValue_iff.mpr hvalue)

/-- Two spellings of a segment hold the same pair, or neither holds one. -/
theorem Relaid.pair?_eq (h : Relaid segment segment') : pair? segment = pair? segment' := by
  cases h with
  | unpaired bare bare' => rw [pair?_of_not_mem bare, pair?_of_not_mem bare']
  | @paired key key' value value' first first' sameKey sameValue =>
    have hempty : (Text.trim key).isEmpty = (Text.trim key').isEmpty := by
      rw [Bool.eq_iff_iff, Text.isEmpty_trim_iff, Text.isEmpty_trim_iff]
      exact sameKey.allBlank_iff
    rw [ConnectionString.pair?_eq first, ConnectionString.pair?_eq first', hempty,
      sameKey.normalKey_eq, sameValue_iff.mp sameValue]

/-- A segment that is laid out anew holds the same pair. -/
theorem Relaid.interchangeable (h : Relaid segment segment') :
    Interchangeable segment segment' where
  allBlank_iff := by
    cases h with
    | unpaired _ _ same => exact same.allBlank_iff
    | paired =>
      have hsign : Text.isBlank '=' = false := by decide
      simp [hsign]
  reads_iff := by
    intro p
    rw [← pair?_eq_some_iff, ← pair?_eq_some_iff, h.pair?_eq]

/-! ## Verdicts on the pairs in another order -/

/-- A check that fails on a list of pairs fails on it in any order. -/
theorem exists_isFirst_of_perm {bad : Pair → Prop} {p : Pair} (first : IsFirst bad ps p)
    (order : ps.Perm ps') : ∃ p', IsFirst bad ps' p' := by
  obtain hfirst | hnone := exists_isFirst_or_forall bad ps'
  · exact hfirst
  · obtain ⟨hbad, before, after, rfl, -⟩ := first
    have hmem : p ∈ before ++ p :: after := by simp
    exact absurd hbad (hnone p (order.mem_iff.mp hmem))

/-- The order of the pairs does not matter to a group. -/
theorem isSatisfied_perm (order : ps.Perm ps') (group : List String) :
    isSatisfied ps group = isSatisfied ps' group := by
  unfold isSatisfied
  simp only [order.any_eq]

/-- Pairs in another order get a verdict of the same kind: the first offender may be another one. -/
theorem judge_perm (r : Rules) (order : ps.Perm ps') : Akin (r.judge ps) (r.judge ps') := by
  obtain ⟨p, hfirst⟩ | hknown := exists_isFirst_or_forall (fun p : Pair => p.key ∉ r.known) ps
  · obtain ⟨p', hfirst'⟩ := exists_isFirst_of_perm hfirst order
    rw [judge_unknown hfirst, judge_unknown hfirst']
    exact .unsupportedOption p.key p'.key r.provider
  simp only [not_not] at hknown
  have hknown' : ∀ p ∈ ps', p.key ∈ r.known := fun p hp => hknown p (order.mem_iff.mpr hp)
  obtain ⟨p, hfirst⟩ | htyped := exists_isFirst_or_forall (fun p => ¬Typed r p) ps
  · obtain ⟨p', hfirst'⟩ := exists_isFirst_of_perm hfirst order
    rw [judge_mistyped hknown hfirst, judge_mistyped hknown' hfirst']
    exact .invalidParameterValue p.key p'.key p.value p'.value
  simp only [not_not] at htyped
  have htyped' : ∀ p ∈ ps', Typed r p := fun p hp => htyped p (order.mem_iff.mpr hp)
  -- What is left of the judgement asks for the groups, and there the order plays no part.
  have hsame : r.judge ps = r.judge ps' := by
    unfold Rules.judge
    simp only [find?_unknown_eq_none hknown, find?_unknown_eq_none hknown',
      find?_mistyped_eq_none htyped, find?_mistyped_eq_none htyped', isSatisfied_perm order]
  rw [hsame]
  exact .same _

/-- Verdicts that are akin are of one kind. -/
theorem Akin.kind_eq (h : Akin v v') : v'.kind = v.kind := by
  cases h with
  | same => rfl
  | malformed => rfl
  | unsupportedOption => rfl
  | invalidParameterValue => rfl

/-- Verdicts of one kind are fine both or neither, and they miss the same parameter. -/
theorem Akin.eq_iff (h : Akin v v') :
    (v' = .ok ↔ v = .ok) ∧
      ∀ name, v' = .missingRequiredParameter name ↔ v = .missingRequiredParameter name := by
  cases h with
  | same => exact ⟨Iff.rfl, fun name => Iff.rfl⟩
  | malformed => simp
  | unsupportedOption => simp
  | invalidParameterValue => simp

/-! ## Strings written differently -/

/-- A string that is written differently is blank only if it was blank before, given that this holds of
a single segment. -/
theorem Rewritten.not_allBlank {related : List (List Char) → List (List Char) → Prop}
    (h : Rewritten related raw raw') (given : ¬AllBlank raw.toList)
    (hsingle : ∀ segments segment', segments ≠ [] → related segments [segment'] →
      AllBlank segment' → ∃ segment, segments = [segment] ∧ AllBlank segment) :
    ¬AllBlank raw'.toList := by
  obtain ⟨segments, segments', hsplit, hsplit', hrelated⟩ := h
  have hsolid : Text.isBlank ';' = false := by decide
  intro hall
  obtain ⟨segment', rfl, hsegment'⟩ := (hsplit'.allBlank_iff hsolid).mp hall
  apply given
  rw [hsplit.allBlank_iff hsolid]
  exact hsingle segments segment' hsplit.nonempty hrelated hsegment'

/-- A string that cannot be read is reported with the segment at fault. -/
theorem validate_of_pairs_error {text : String} (given : ¬AllBlank raw.toList)
    (h : pairs raw = .error text) : r.validate raw = .malformed text := by
  unfold Rules.validate
  rw [if_neg (fun hempty => given (Text.isEmpty_trim_iff.mp hempty)), h]

/-- Blank segments make no difference to the verdict. -/
theorem validate_padded (r : Rules) (given : ¬AllBlank raw.toList)
    (h : Rewritten Padded raw raw') : r.validate raw' = r.validate raw := by
  have given' : ¬AllBlank raw'.toList := by
    apply h.not_allBlank given
    intro segments segment' hne hpadded hblank
    cases hpadded with
    | blank _ rest =>
      cases rest
      exact absurd rfl hne
    | keep rest =>
      cases rest
      exact ⟨segment', rfl, hblank⟩
  obtain ⟨segments, segments', hsplit, hsplit', hpadded⟩ := h
  have hpairs : pairs raw' = pairs raw := by
    unfold pairs ConnectionString.segments
    rw [Text.pieces_eq_iff.mpr hsplit, Text.pieces_eq_iff.mpr hsplit', hpadded.pairsOf_eq]
  unfold Rules.validate
  rw [if_neg (fun hempty => given (Text.isEmpty_trim_iff.mp hempty)),
    if_neg (fun hempty => given' (Text.isEmpty_trim_iff.mp hempty)), hpairs]

/-- Strings that hold related pairs are judged by them; strings that hold none are malformed both. -/
theorem validate_of_related (related : List Pair → List Pair → Prop) (r : Rules)
    (given : ¬AllBlank raw.toList) (given' : ¬AllBlank raw'.toList)
    (hto : ∀ ps, HasPairs raw ps → ∃ ps', related ps ps' ∧ HasPairs raw' ps')
    (hfrom : ∀ ps', HasPairs raw' ps' → ∃ ps, HasPairs raw ps) :
    (∃ ps ps', related ps ps' ∧ r.validate raw = r.judge ps ∧ r.validate raw' = r.judge ps') ∨
      ∃ text text', r.validate raw = .malformed text ∧ r.validate raw' = .malformed text' := by
  cases hpairs : pairs raw with
  | ok ps =>
    have hread := pairs_eq_ok_iff.mp hpairs
    obtain ⟨ps', hrelated, hread'⟩ := hto ps hread
    exact .inl ⟨ps, ps', hrelated, validate_of_hasPairs given hread,
      validate_of_hasPairs given' hread'⟩
  | error text =>
    cases hpairs' : pairs raw' with
    | ok ps' =>
      obtain ⟨ps, hread⟩ := hfrom ps' (pairs_eq_ok_iff.mp hpairs')
      rw [pairs_eq_ok_iff.mpr hread] at hpairs
      cases hpairs
    | error text' =>
      exact .inr ⟨text, text', validate_of_pairs_error given hpairs,
        validate_of_pairs_error given' hpairs'⟩

/-- A string has the pairs of its segments. -/
theorem hasPairs_iff_readsAll (split : IsSplit ';' raw.toList segments) :
    HasPairs raw ps ↔ ReadsAll segments ps := by
  rw [hasPairs_iff, ConnectionString.segments, Text.pieces_eq_iff.mpr split]

/-- Another spelling of the segments leaves the verdict as it is, or both strings are malformed. -/
theorem validate_relaid (r : Rules) (given : ¬AllBlank raw.toList)
    (h : Rewritten (List.Forall₂ Relaid) raw raw') :
    r.validate raw' = r.validate raw ∨
      ∃ text text', r.validate raw = .malformed text ∧ r.validate raw' = .malformed text' := by
  have given' : ¬AllBlank raw'.toList := by
    apply h.not_allBlank given
    intro segments segment' _ hrelaid hblank
    cases hrelaid with
    | cons hsegment hrest =>
      cases hrest
      exact ⟨_, rfl, hsegment.interchangeable.allBlank_iff.mpr hblank⟩
  obtain ⟨segments, segments', hsplit, hsplit', hrelaid⟩ := h
  have hsame : ∀ ps, HasPairs raw ps ↔ HasPairs raw' ps := by
    intro ps
    rw [hasPairs_iff_readsAll hsplit, hasPairs_iff_readsAll hsplit']
    exact readsAll_congr (hrelaid.imp fun _ _ => Relaid.interchangeable)
  have hto : ∀ ps, HasPairs raw ps → ∃ ps', ps = ps' ∧ HasPairs raw' ps' := fun ps hps =>
    ⟨ps, rfl, (hsame ps).mp hps⟩
  have hfrom : ∀ ps, HasPairs raw' ps → ∃ ps, HasPairs raw ps := fun ps hps =>
    ⟨ps, (hsame ps).mpr hps⟩
  obtain ⟨ps, ps', rfl, hjudge, hjudge'⟩ | hmalformed :=
    validate_of_related Eq r given given' hto hfrom
  · exact .inl (hjudge'.trans hjudge.symm)
  · exact .inr hmalformed

/-- Another order of the segments leaves the kind of the verdict as it is. -/
theorem validate_permuted (r : Rules) (given : ¬AllBlank raw.toList)
    (h : Rewritten List.Perm raw raw') : Akin (r.validate raw) (r.validate raw') := by
  have given' : ¬AllBlank raw'.toList := by
    apply h.not_allBlank given
    intro segments segment' _ horder hblank
    exact ⟨segment', List.perm_singleton.mp horder, hblank⟩
  obtain ⟨segments, segments', hsplit, hsplit', horder⟩ := h
  have hto : ∀ ps, HasPairs raw ps → ∃ ps', ps.Perm ps' ∧ HasPairs raw' ps' := by
    intro ps hps
    obtain ⟨ps', hperm, hread⟩ := ((hasPairs_iff_readsAll hsplit).mp hps).perm horder
    exact ⟨ps', hperm, (hasPairs_iff_readsAll hsplit').mpr hread⟩
  have hfrom : ∀ ps', HasPairs raw' ps' → ∃ ps, HasPairs raw ps := by
    intro ps' hps'
    obtain ⟨ps, -, hread⟩ := ((hasPairs_iff_readsAll hsplit').mp hps').perm horder.symm
    exact ⟨ps, (hasPairs_iff_readsAll hsplit).mpr hread⟩
  obtain ⟨ps, ps', hperm, hjudge, hjudge'⟩ | ⟨text, text', htext, htext'⟩ :=
    validate_of_related List.Perm r given given' hto hfrom
  · rw [hjudge, hjudge']
    exact judge_perm r hperm
  · rw [htext, htext']
    exact .malformed text text'

/-- A string that is not blank gets the same verdict with blank segments put in, the same kind and
parameter when its segments are spelled differently, and the same kind and missing parameter when they
come in another order. -/
theorem validate_rewritten (r : Rules) (raw raw' : String) (given : ¬AllBlank raw.toList) :
    (Rewritten Padded raw raw' → r.validate raw' = r.validate raw) ∧
      (Rewritten (List.Forall₂ Relaid) raw raw' →
        (r.validate raw').kind = (r.validate raw).kind ∧
          (r.validate raw').parameter = (r.validate raw).parameter) ∧
      (Rewritten List.Perm raw raw' →
        (r.validate raw').kind = (r.validate raw).kind ∧
          (r.validate raw' = .ok ↔ r.validate raw = .ok) ∧
          ∀ name, r.validate raw' = .missingRequiredParameter name ↔
            r.validate raw = .missingRequiredParameter name) := by
  refine ⟨validate_padded r given, fun h => ?_, fun h => ?_⟩
  · obtain hsame | ⟨text, text', htext, htext'⟩ := validate_relaid r given h
    · rw [hsame]
      exact ⟨rfl, rfl⟩
    · rw [htext, htext']
      exact ⟨rfl, rfl⟩
  · have hakin := validate_permuted r given h
    exact ⟨hakin.kind_eq, hakin.eq_iff⟩

/-- Of two unknown keys another order makes the other one the first; the kind is the same. -/
theorem validate_rewritten_shade :
    ¬AllBlank "Host=;Colour=1;Shade=2".toList ∧
      Rules.postgreSql.validate " ;Host=;Colour=1;;Shade=2;" =
        Rules.postgreSql.validate "Host=;Colour=1;Shade=2" ∧
      (Rules.postgreSql.validate " HOST\t= ; colour= 1;SHADE=2 ").parameter =
        (Rules.postgreSql.validate "Host=;Colour=1;Shade=2").parameter ∧
      (Rules.postgreSql.validate "Shade=2;Host=;Colour=1").kind =
        (Rules.postgreSql.validate "Host=;Colour=1;Shade=2").kind := by
  have given : ¬AllBlank "Host=;Colour=1;Shade=2".toList := fun h =>
    absurd (h 'H' (by decide)) (by decide)
  have hsplit : IsSplit ';' "Host=;Colour=1;Shade=2".toList
      ["Host=".toList, "Colour=1".toList, "Shade=2".toList] := Text.pieces_eq_iff.mp (by decide)
  have hpadded : Rewritten Padded "Host=;Colour=1;Shade=2" " ;Host=;Colour=1;;Shade=2;" := by
    refine ⟨_, [[' '], "Host=".toList, "Colour=1".toList, [], "Shade=2".toList, []], hsplit,
      Text.pieces_eq_iff.mp (by decide), ?_⟩
    have hspace : AllBlank [' '] := Text.allBlank_cons.mpr ⟨by decide, Text.allBlank_nil⟩
    exact .blank hspace (.keep (.keep (.blank Text.allBlank_nil (.keep
      (.blank Text.allBlank_nil .nil)))))
  have hrelaid : Rewritten (List.Forall₂ Relaid) "Host=;Colour=1;Shade=2"
      " HOST\t= ; colour= 1;SHADE=2 " := by
    refine ⟨_, [" HOST\t= ".toList, " colour= 1".toList, "SHADE=2 ".toList], hsplit,
      Text.pieces_eq_iff.mp (by decide), .cons ?_ (.cons ?_ (.cons ?_ .nil))⟩
    · exact relaid_of_eq "Host".toList " HOST\t".toList [] [' '] (by decide) (by decide)
        (by decide) (by decide)
    · exact relaid_of_eq "Colour".toList " colour".toList ['1'] [' ', '1'] (by decide) (by decide)
        (by decide) (by decide)
    · exact relaid_of_eq "Shade".toList "SHADE".toList ['2'] ['2', ' '] (by decide) (by decide)
        (by decide) (by decide)
  have hpermuted : Rewritten List.Perm "Host=;Colour=1;Shade=2" "Shade=2;Host=;Colour=1" := by
    refine ⟨_, ["Shade=2".toList, "Host=".toList, "Colour=1".toList], hsplit,
      Text.pieces_eq_iff.mp (by decide), ?_⟩
    decide
  exact ⟨given, (validate_rewritten _ _ _ given).1 hpadded,
    ((validate_rewritten _ _ _ given).2.1 hrelaid).2,
    ((validate_rewritten _ _ _ given).2.2 hpermuted).1⟩

end UnitOfWork.ConnectionString
