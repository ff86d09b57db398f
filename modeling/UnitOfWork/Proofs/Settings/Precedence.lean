import UnitOfWork.Settings.Source

/-!
# Which source decides the settings

Settings come from the environment when it names the number of attempts, else from the first settings
file in the order of the search, else from the defaults; and the source that decides is reported as it
is, whatever is wrong with it. `Given` is that rule. It is stated over what the environment holds and
which files exist, and looks at no outcome.

Loading keeps the rule for an environment that is silent and for one that is valid. An environment that
names the attempts and holds something invalid is passed over in silence, and the files or the defaults
take its place: `load_given_iff` is the exact condition, `invalid_environment_passed_over` the smallest
case.
-/

set_option autoImplicit false

namespace UnitOfWork

/-! ## The search for a file -/

namespace FileTree

/-- The paths that may hold a settings file, in the order of the search. -/
def candidates (directories : List String) : List String :=
  directories.flatMap fun directory => settingsNames.map (join directory)

/-- A path is the first of the candidates that is a file. -/
def IsFirst (tree : FileTree) (directories : List String) (path : String) : Prop :=
  ∃ before after, candidates directories = before ++ path :: after ∧ tree.isFile path = true ∧
    ∀ earlier ∈ before, tree.isFile earlier = false

/-- No candidate is a file. -/
def HasNone (tree : FileTree) (directories : List String) : Prop :=
  ∀ path ∈ candidates directories, tree.isFile path = false

variable {tree : FileTree} {directories : List String}

/-- The file that is found is the first of those that are there. -/
theorem find?_eq_some_iff {path : String} :
    tree.find? directories = some path ↔ tree.IsFirst directories path := by
  unfold find? IsFirst
  rw [List.find?_eq_some_iff_append]
  constructor
  · rintro ⟨file, before, after, split, earlier⟩
    exact ⟨before, after, split, file, by simpa using earlier⟩
  · rintro ⟨before, after, split, file, earlier⟩
    exact ⟨file, before, after, split, by simpa using earlier⟩

theorem find?_eq_none_iff : tree.find? directories = none ↔ tree.HasNone directories := by
  unfold find? HasNone
  rw [List.find?_eq_none]
  simp only [Bool.not_eq_true]
  rfl

end FileTree

/-! ## The rule -/

namespace Settings

/-- What the settings files give, or the defaults when there is none. -/
inductive GivenByFiles (s : Surroundings) : Except Refusal Settings → Prop where
  | file {path : String} (first : s.tree.IsFirst s.directories path) (log : Log) :
      GivenByFiles s ((ofPath s.tree path).run log).1
  | defaults (none : s.tree.HasNone s.directories) : GivenByFiles s (.ok {})

/-- What the sources give in their order. -/
inductive Given (s : Surroundings) : Except Refusal Settings → Prop where
  | environment (named : (s.environment Environment.attemptsVariable).isSome = true) :
      Given s s.environment.settings
  | files {result : Except Refusal Settings}
      (unnamed : (s.environment Environment.attemptsVariable).isSome = false)
      (given : GivenByFiles s result) : Given s result

/-! ## What loading does -/

variable {s : Surroundings} {result : Except Refusal Settings}

/-- An environment that names the attempts decides. -/
theorem Given.of_named (given : Given s result)
    (named : (s.environment Environment.attemptsVariable).isSome = true) :
    result = s.environment.settings := by
  cases given with
  | environment => rfl
  | files unnamed => cases named.symm.trans unnamed

/-- What a file gives does not depend on what was recorded before it was read. -/
theorem ofPath_run (tree : FileTree) (path : String) (log log' : Log) :
    ((ofPath tree path).run log).1 = ((ofPath tree path).run log').1 := by
  unfold ofPath
  cases tree path with
  | none => rfl
  | some stored => rfl

/-- Files give one result. -/
theorem GivenByFiles.unique {other : Except Refusal Settings} (h : GivenByFiles s result)
    (h' : GivenByFiles s other) : result = other := by
  cases h with
  | file first log =>
    have found := FileTree.find?_eq_some_iff.mpr first
    cases h' with
    | file first' log' =>
      cases found.symm.trans (FileTree.find?_eq_some_iff.mpr first')
      exact ofPath_run s.tree _ log log'
    | defaults none => cases found.symm.trans (FileTree.find?_eq_none_iff.mpr none)
  | defaults none =>
    have missing := FileTree.find?_eq_none_iff.mpr none
    cases h' with
    | file first log => cases missing.symm.trans (FileTree.find?_eq_some_iff.mpr first)
    | defaults => rfl

/-- What the files give is settled by the first file, or by there being none. -/
theorem ofFoundOrDefault_given (s : Surroundings) (log : Log) :
    GivenByFiles s ((ofFoundOrDefault s).run log).1 := by
  unfold ofFoundOrDefault
  cases found : s.tree.find? s.directories with
  | some path => exact .file (FileTree.find?_eq_some_iff.mp found) log
  | none => exact .defaults (FileTree.find?_eq_none_iff.mp found)

/-- An environment that does not name the attempts gives no settings. -/
theorem settings_of_unnamed (env : Environment)
    (unnamed : (env Environment.attemptsVariable).isSome = false) :
    ∃ e, env.settings = .error e := by
  have missing : env Environment.attemptsVariable = none := by
    simpa using unnamed
  unfold Environment.settings Environment.required
  rw [missing]
  exact ⟨_, rfl⟩

/-- A valid environment decides. -/
theorem load_of_valid {settings : Settings} (valid : s.environment.settings = .ok settings)
    (log : Log) : ((load s).run log).1 = .ok settings := by
  unfold load
  rw [valid]
  rfl

/-- An environment that gives no settings is passed over, whatever the reason. -/
theorem load_of_invalid {e : Refusal} (invalid : s.environment.settings = .error e) (log : Log) :
    GivenByFiles s ((load s).run log).1 := by
  unfold load
  rw [invalid]
  exact ofFoundOrDefault_given s _

/-- Loading takes a valid environment, and else what the files or the defaults give. So it follows
the order of the sources exactly when the environment names no attempts, or is valid, or fails as the
files happen to fail as well. -/
theorem load_given_iff (s : Surroundings) (log : Log) :
    let result := ((load s).run log).1
    (∀ settings, s.environment.settings = .ok settings → result = .ok settings) ∧
    (∀ e, s.environment.settings = .error e → GivenByFiles s result) ∧
    (Given s result ↔
      ((s.environment Environment.attemptsVariable).isSome = true →
        (∃ settings, s.environment.settings = .ok settings) ∨
          GivenByFiles s s.environment.settings)) := by
  intro result
  have valid (settings : Settings) (h : s.environment.settings = .ok settings) :
      result = .ok settings := load_of_valid h log
  have invalid (e : Refusal) (h : s.environment.settings = .error e) : GivenByFiles s result :=
    load_of_invalid h log
  refine ⟨valid, invalid, ?_, ?_⟩
  · intro given named
    cases henv : s.environment.settings with
    | ok settings => exact .inl ⟨settings, rfl⟩
    | error e =>
      -- The files decided, so the rule is kept only where they say what the environment says.
      right
      rw [← henv, ← given.of_named named]
      exact invalid e henv
  · intro agrees
    cases hnamed : (s.environment Environment.attemptsVariable).isSome with
    | false =>
      obtain ⟨e, henv⟩ := settings_of_unnamed s.environment hnamed
      exact .files hnamed (invalid e henv)
    | true =>
      have hresult : result = s.environment.settings := by
        cases henv : s.environment.settings with
        | ok settings => exact valid settings henv
        | error e =>
          rcases agrees hnamed with ⟨settings, hok⟩ | files
          · cases henv.symm.trans hok
          · rw [← henv]
            exact (invalid e henv).unique files
      rw [hresult]
      exact .environment hnamed

/-- An environment that asks for `many` attempts, and no settings file anywhere. -/
def manyAttempts : Surroundings where
  environment name := if name = Environment.attemptsVariable then some "many" else none
  tree _ := none
  directories := ["work", "program"]

/-- The number of attempts cannot be read, which is the result that the order of the sources asks for;
loading returns the defaults. -/
theorem invalid_environment_passed_over :
    Given manyAttempts
        (.error (.config "invalid value: invalid digit found in string" (some "max_attempts"))) ∧
      ((load manyAttempts).run {}).1 = .ok {} ∧
      ¬ Given manyAttempts ((load manyAttempts).run {}).1 := by
  have named : (manyAttempts.environment Environment.attemptsVariable).isSome = true := rfl
  have refused : manyAttempts.environment.settings =
      .error (.config "invalid value: invalid digit found in string" (some "max_attempts")) := rfl
  have loaded : ((load manyAttempts).run {}).1 = .ok {} := rfl
  refine ⟨refused ▸ .environment named, loaded, ?_⟩
  intro given
  cases (given.of_named named).symm.trans loaded

end Settings

end UnitOfWork
