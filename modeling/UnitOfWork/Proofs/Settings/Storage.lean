import UnitOfWork.Proofs.Document.Json
import UnitOfWork.Proofs.Settings.Variables
import UnitOfWork.Settings.Source

/-!
# Settings that are written and read again

A document keeps of settings everything but the fraction of a millisecond in the two delays, and what
the delays have beyond 64 bits of milliseconds: `Kept` says so field by field. Reading a record goes by
the names of its fields, so `fields?_table` is the law of all three records, and a level is read back
because its keyword text is one of its spellings.

Keeping whole milliseconds preserves the order of the delays (`kept_mono`), so settings that a retry can
be built from stay so. Every source of settings hands on such settings only (`usable_of_source`).
-/

set_option autoImplicit false

namespace UnitOfWork

/-! ## The statement -/

namespace Settings

/-- What is kept of settings: the fraction of a millisecond in a delay is dropped, and a delay of more
milliseconds than 64 bits count is cut at the most they count. -/
structure Kept (s t : Settings) : Prop where
  attempts : t.retry.maxAttempts = s.retry.maxAttempts
  baseDelay : t.retry.baseDelay.nanos =
    min (s.retry.baseDelay.nanos / 1000000) (UInt64.size - 1) * 1000000
  maxDelay : t.retry.maxDelay.nanos =
    min (s.retry.maxDelay.nanos / 1000000) (UInt64.size - 1) * 1000000
  jitter : t.retry.jitter = s.retry.jitter
  scope : t.scope = s.scope

/-- Both delays are whole milliseconds that 64 bits count. -/
def InMillis (s : Settings) : Prop :=
  ∀ d ∈ [s.retry.baseDelay, s.retry.maxDelay], ∃ millis < UInt64.size, d.nanos = millis * 1000000

/-- Options are built from the settings, with their attempts and delays, whatever the draws. -/
def Accepted (s : Settings) : Prop :=
  ∀ draw, ∃ options, s.retry.options draw = .ok options ∧
    options.maxAttempts = s.retry.maxAttempts.toNat ∧ options.baseDelay = s.retry.baseDelay ∧
      options.maxDelay = s.retry.maxDelay

/-- What the sources of settings return: the environment, the file at a path, the first file that is
found, and all of them in their order. -/
def sources (w : Surroundings) (path : String) (log : Log) : List (Except Refusal Settings) :=
  [w.environment.settings, ((ofPath w.tree path).run log).1,
    ((ofFound w.tree w.directories).run log).1, ((load w).run log).1]

end Settings

/-! ## Spans -/

namespace Duration

/-- What a document keeps of a span: whole milliseconds, as far as 64 bits go. -/
def kept (d : Duration) : Duration := ofMillis d.storedMillis

variable {d d' : Duration}

theorem storedMillis_le (d : Duration) : d.storedMillis ≤ Text.limit64 := Nat.min_le_right _ _

/-- What is kept of a span, in nanoseconds. -/
theorem nanos_kept (d : Duration) :
    d.kept.nanos = min (d.nanos / 1000000) (UInt64.size - 1) * 1000000 :=
  Environment.nanos_ofMillis d.storedMillis_le

/-- Of two spans the longer one is still no shorter. -/
theorem kept_mono (h : d ≤ d') : d.kept ≤ d'.kept := by
  show d.kept.nanos ≤ d'.kept.nanos
  have hle : d.nanos / 1000000 ≤ d'.nanos / 1000000 := Nat.div_le_div_right h
  rw [nanos_kept, nanos_kept]
  omega

/-- Whole milliseconds of 64 bits are kept as they are. -/
theorem kept_eq_self {millis : Nat} (hmillis : millis < UInt64.size) (h : d.nanos = millis * 1000000) :
    d.kept = d := by
  apply eq_of_nanos
  rw [nanos_kept, h]
  omega

/-- What was kept once is kept as it is. -/
theorem kept_kept (d : Duration) : d.kept.kept = d.kept := by
  have hsize : UInt64.size = 18446744073709551616 := rfl
  exact kept_eq_self (by omega) (nanos_kept d)

end Duration

/-! ## Records -/

namespace Document

/-- Names that have a value are read with their values. -/
theorem mapM_named (given : List (String × Document)) :
    (given.map fun m => ((some m.1, m.2) : Quoted × Document)).mapM
      (fun (name, x) => name.map (·, x)) = some given := by
  rw [List.mapM_map]
  exact (mapM_eq_some_map fun m _ => rfl).trans (congrArg some (List.map_id given))

/-- The fields of a table of known names, each given once, are its members. -/
theorem fields?_table {excess : Excess} {names : List String} (given : List (String × Document))
    (hknown : ∀ m ∈ given, m.1 ∈ names) (hnodup : (given.map Prod.fst).Nodup) :
    fields? excess names (.table (given.map fun m => (some m.1, m.2))) = some given := by
  have hgiven : given.filter (fun m => names.contains m.1) = given :=
    List.filter_eq_self.mpr fun m hm => List.contains_iff_mem.mpr (hknown m hm)
  have hother : given.filter (fun m => !names.contains m.1) = [] :=
    List.filter_eq_nil_iff.mpr fun m hm => by simp [hknown m hm]
  rw [fields?, mapM_named]
  simp only [Option.bind_eq_bind, Option.bind_some, List.partition_eq_filter_filter]
  change (if ((given.filter fun m => names.contains m.1).map Prod.fst).Nodup ∧
    (given.filter fun m => !names.contains m.1).all (·.2.isSound) then _ else _) = _
  rw [hgiven, hother, if_pos ⟨hnodup, rfl⟩]
  rfl

/-- A span is read back to whole milliseconds. -/
theorem span?_ofSpan (d : Duration) : (ofSpan d).span? = some d.kept := by
  have hbounds : (0 : Int) ≤ d.storedMillis ∧ (d.storedMillis : Int) ≤ Text.limit64 := by
    have hle := d.storedMillis_le
    omega
  rw [ofSpan, span?, count?, if_pos hbounds]
  rfl

theorem boolean?_boolean (b : Bool) : (boolean b).boolean? = some b := rfl

/-- A level is read back from its keyword text. -/
theorem isolation?_ofIsolation (level : IsolationLevel) :
    (ofIsolation level).isolation? = some level := by
  have hread : IsolationLevel.parse level.sql = .ok level :=
    IsolationLevel.parse_eq_ok_iff.mpr (List.forall₂_same.mpr fun c _ => .inl rfl)
  simp [ofIsolation, isolation?, hread, Except.toOption]

end Document

/-! ## Settings -/

namespace RetrySettings

variable {s : RetrySettings} {base cap : Duration}

/-- The settings with other delays. -/
def withDelays (s : RetrySettings) (base cap : Duration) : RetrySettings :=
  { s with baseDelay := base, maxDelay := cap }

/-- What is kept of settings that are written and read. -/
def kept (s : RetrySettings) : RetrySettings := s.withDelays s.baseDelay.kept s.maxDelay.kept

theorem baseDelay_kept : s.kept.baseDelay = s.baseDelay.kept := rfl

theorem maxDelay_kept : s.kept.maxDelay = s.maxDelay.kept := rfl

theorem kept_eq_self (hbase : s.baseDelay.kept = s.baseDelay) (hcap : s.maxDelay.kept = s.maxDelay) :
    s.kept = s := by
  rw [kept, hbase, hcap, withDelays]

/-- A retry that was written once is kept as it is. -/
theorem kept_kept (s : RetrySettings) : s.kept.kept = s.kept := by
  apply kept_eq_self
  · rw [baseDelay_kept, Duration.kept_kept]
  · rw [maxDelay_kept, Duration.kept_kept]

/-- Other delays leave a retry usable, as long as the base is no longer than the cap. -/
theorem Usable.withDelays (h : s.Usable) (hle : base ≤ cap) : (s.withDelays base cap).Usable where
  least := h.least
  most := h.most
  ordered := hle

/-- Settings that a retry can be built from stay so. -/
theorem Usable.kept (h : s.Usable) : s.kept.Usable := h.withDelays (Duration.kept_mono h.ordered)

end RetrySettings

section Forms

variable {excess : Document.Excess}

/-- The options of a scope are read back as they were. -/
theorem ScopeOptions.ofDocument?_document (o : ScopeOptions) :
    ofDocument? excess o.document = some o := by
  have hfields : o.document.fields? excess ["isolation", "prefer_ambient"] = _ :=
    Document.fields?_table
      [("isolation", .ofIsolation o.isolation), ("prefer_ambient", .boolean o.preferAmbient)]
      (by simp) (by simp)
  rw [ofDocument?, hfields]
  simp [Document.field, List.lookup_cons, Document.isolation?_ofIsolation,
    Document.boolean?_boolean]

/-- A retry is read back but for what its delays lose. -/
theorem RetrySettings.ofDocument?_document (s : RetrySettings) :
    ofDocument? excess s.document = some s.kept := by
  have hfields :
      s.document.fields? excess ["max_attempts", "base_delay_ms", "max_delay_ms", "jitter"] = _ :=
    Document.fields?_table
      [("max_attempts", .integer s.maxAttempts.toNat), ("base_delay_ms", .ofSpan s.baseDelay),
        ("max_delay_ms", .ofSpan s.maxDelay), ("jitter", .boolean s.jitter)]
      (by simp) (by simp)
  have hattempts : (Document.integer s.maxAttempts.toNat).count? Text.limit32 =
      some s.maxAttempts.toNat := by
    have hle : s.maxAttempts.toNat ≤ Text.limit32 := Nat.le_of_lt_succ s.maxAttempts.toNat_lt
    rw [Document.count?, if_pos ⟨Int.natCast_nonneg _, Int.ofNat_le.mpr hle⟩]
    rfl
  rw [ofDocument?, hfields]
  simp [Document.field, List.lookup_cons, hattempts, Document.span?_ofSpan,
    Document.boolean?_boolean, kept, withDelays]

end Forms

namespace Settings

variable {s t : Settings} {excess : Document.Excess}

/-- What is kept of settings that are written and read. -/
def kept (s : Settings) : Settings := { s with retry := s.retry.kept }

/-- Settings are read back but for what the delays lose. -/
theorem ofDocument?_document (s : Settings) : ofDocument? excess s.document = some s.kept := by
  have hfields : s.document.fields? excess ["retry", "transaction"] = _ :=
    Document.fields?_table [("retry", s.retry.document), ("transaction", s.scope.document)]
      (by simp) (by simp)
  rw [ofDocument?, hfields]
  simp [Document.field, List.lookup_cons, RetrySettings.ofDocument?_document,
    ScopeOptions.ofDocument?_document, kept]

/-- Settings are read from the JSON text that is written for them. -/
theorem ofJson?_json (s : Settings) : ofJson? s.json = some s.kept := by
  have hplain : Document.Json.isPlain s.document = true := rfl
  rw [ofJson?, json, Document.Json.read_write hplain]
  exact ofDocument?_document s

theorem retry_kept : s.kept.retry = s.retry.kept := rfl

/-- Settings are kept where their retry is; nothing else of them can be lost. -/
theorem kept_eq_self (h : s.retry.kept = s.retry) : s.kept = s := by rw [kept, h]

/-- Settings that were written once are kept as they are. -/
theorem kept_kept (s : Settings) : s.kept.kept = s.kept := by
  apply kept_eq_self
  rw [retry_kept, RetrySettings.kept_kept]

/-- What is kept of settings, field by field. -/
theorem kept_of_delays {base cap : Duration}
    (hbase : base.nanos = min (s.retry.baseDelay.nanos / 1000000) (UInt64.size - 1) * 1000000)
    (hcap : cap.nanos = min (s.retry.maxDelay.nanos / 1000000) (UInt64.size - 1) * 1000000) :
    Kept s { s with retry := s.retry.withDelays base cap } where
  attempts := rfl
  baseDelay := hbase
  maxDelay := hcap
  jitter := rfl
  scope := rfl

/-- What is kept loses no more than a document does. -/
theorem kept_of_kept (s : Settings) : Kept s s.kept :=
  kept_of_delays (Duration.nanos_kept _) (Duration.nanos_kept _)

/-- Settings in whole milliseconds are kept as they are. -/
theorem kept_of_inMillis (h : InMillis s) : s.kept = s := by
  obtain ⟨⟨base, hbase, hbaseNanos⟩, ⟨cap, hcap, hcapNanos⟩, -⟩ := by
    simpa only [InMillis, List.forall_mem_cons] using h
  apply kept_eq_self
  exact RetrySettings.kept_eq_self (Duration.kept_eq_self hbase hbaseNanos)
    (Duration.kept_eq_self hcap hcapNanos)

/-! ## Sources -/

/-- A retry can be built from the defaults. -/
theorem usable_default : ({} : Settings).retry.Usable := RetrySettings.check_eq_ok_iff.mp rfl

/-- A file hands on settings that passed the check. -/
theorem usable_ofStored {path : String} {stored : Stored} (h : ofStored path stored = .ok s) :
    s.retry.Usable := by
  unfold ofStored at h
  split at h
  · obtain ⟨read, -, hchecked⟩ := bind_eq_ok.mp h
    exact (checked_eq_ok_iff.mp hchecked).2
  · cases h

/-- So does a path, whatever stands there. -/
theorem usable_ofPath {tree : FileTree} {path : String} {log : Log}
    (h : ((ofPath tree path).run log).1 = .ok s) : s.retry.Usable := by
  unfold ofPath at h
  split at h
  · cases h
  · exact usable_ofStored h

/-- So does a search for a file. -/
theorem usable_ofFound {tree : FileTree} {directories : List String} {log : Log}
    (h : ((ofFound tree directories).run log).1 = .ok s) : s.retry.Usable := by
  unfold ofFound at h
  split at h
  · cases h
  · exact usable_ofPath h

/-- So does the whole search, down to the defaults. -/
theorem usable_load {w : Surroundings} {log : Log} (h : ((load w).run log).1 = .ok s) :
    s.retry.Usable := by
  unfold load at h
  split at h
  · next hread =>
    cases h
    exact (Environment.settings_eq_ok_iff.mp hread).usable
  · unfold ofFoundOrDefault at h
    split at h
    · exact usable_ofPath h
    · cases h
      exact usable_default

/-- Every source of settings hands on usable ones only. -/
theorem usable_of_source {w : Surroundings} {path : String} {log : Log}
    (h : .ok s ∈ sources w path log) : s.retry.Usable := by
  simp only [sources, List.mem_cons, List.not_mem_nil, or_false] at h
  obtain henvironment | hpath | hfound | hload := h
  · exact (Environment.settings_eq_ok_iff.mp henvironment.symm).usable
  · exact usable_ofPath hpath.symm
  · exact usable_ofFound hfound.symm
  · exact usable_load hload.symm

/-! ## The main statement -/

/-- From usable settings options are built with their attempts and delays. -/
theorem accepted_of_usable (h : s.retry.Usable) : Accepted s := by
  intro draw
  obtain ⟨options, hoptions⟩ := RetrySettings.usable_iff.mp h
  have hdraft := RetrySettings.options_eq_ok_iff.mp hoptions
  exact ⟨options, hoptions, congrArg Retry.Draft.maxAttempts hdraft,
    congrArg Retry.Draft.baseDelay hdraft, congrArg Retry.Draft.maxDelay hdraft⟩

/-- Settings that are written and read come back but for what a document does not keep of the delays,
and come back unchanged from then on; what a retry could be built from before, it can be built from
after. And a retry can be built from whatever a source of settings hands on. -/
theorem settings_survive :
    (∀ s : Settings, ∃ t : Settings,
      (∀ excess, ofDocument? excess s.document = some t) ∧ ofJson? s.json = some t ∧
        Kept s t ∧ (InMillis s → t = s) ∧ ofJson? t.json = some t ∧
          ∀ draw options, s.retry.options draw = .ok options → Accepted t) ∧
    ∀ (w : Surroundings) (path : String) (log : Log) (s : Settings),
      .ok s ∈ sources w path log → Accepted s := by
  constructor
  · intro s
    refine ⟨s.kept, fun excess => ofDocument?_document s, ofJson?_json s, kept_of_kept s,
      kept_of_inMillis, ?_, ?_⟩
    · rw [ofJson?_json, kept_kept]
    · intro draw options hoptions
      exact accepted_of_usable (RetrySettings.usable_iff.mpr ⟨options, hoptions⟩).kept
  · intro w path log s hsource
    exact accepted_of_usable (usable_of_source hsource)

end Settings

end UnitOfWork
