import UnitOfWork.Settings.Environment
import UnitOfWork.Settings.File

/-!
# Where settings come from

Loading asks the environment first, then the settings files, and takes the defaults when there is
neither. An environment that gives no settings is passed over whatever the reason; a file that is found
decides, for better or worse.
-/

set_option autoImplicit false

namespace UnitOfWork

/-- What a process can read settings from. -/
structure Surroundings where
  environment : Environment
  tree : FileTree
  /-- The directories that may hold a settings file, in the order of the search. -/
  directories : List String

namespace Settings

def fromEnvironmentEntry : Log.Entry := ⟨.info, "Configuration loaded from environment variables", []⟩

def environmentUnavailableEntry (e : Refusal) : Log.Entry :=
  ⟨.debug, "Environment configuration unavailable, trying file", [("error", e.message)]⟩

def defaultsEntry : Log.Entry := ⟨.debug, "No configuration file found, using defaults", []⟩

/-- The settings of a file if there is one, or the defaults. -/
def ofFoundOrDefault (s : Surroundings) : LogM (Except Refusal Settings) :=
  match s.tree.find? s.directories with
  | some path => ofPath s.tree path
  | none => do
    Log.record defaultsEntry
    pure (.ok {})

/-- The settings of a process. -/
def load (s : Surroundings) : LogM (Except Refusal Settings) :=
  match s.environment.settings with
  | .ok settings => do
    Log.record fromEnvironmentEntry
    pure (.ok settings)
  | .error e => do
    Log.record (environmentUnavailableEntry e)
    ofFoundOrDefault s

end Settings

end UnitOfWork
