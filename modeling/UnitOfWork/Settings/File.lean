import UnitOfWork.Log
import UnitOfWork.Settings.Form

/-!
# Settings files

A settings file is looked for under four names in each directory in turn, or given by its path. Its
notation is chosen by the extension of its name, and a name without one is taken for TOML. The content
is read before the notation is chosen, so a file that cannot be read is reported as such whatever its
name.
-/

set_option autoImplicit false

namespace UnitOfWork

/-- What stands at a path. -/
inductive Stored where
  /-- A file; its text, unless the bytes are no text. -/
  | file (text : Option String)
  | directory
deriving DecidableEq, Repr

/-- What stands at each path. -/
abbrev FileTree := String → Option Stored

namespace FileTree

/-- The pieces of a path between its slashes. -/
def pieces (path : String) : List String := (Text.pieces (· == '/') path.toList).map String.ofList

/-- The names on a path. Empty names and the name of the same directory count for nothing. -/
def pathNames (path : String) : List String :=
  (pieces path).filter fun name => name != "" && name != "."

/-- What stands under a chain of names: the last entry there. The directories on the way to an entry are
there as well. -/
def under? (entries : List (String × Stored)) (names : List String) : Option Stored :=
  match entries.reverse.find? fun (other, _) => pathNames other == names with
  | some (_, stored) => some stored
  | none =>
    if entries.any fun (other, _) => names.isPrefixOf (pathNames other) then some .directory
    else none

/-- What the pieces of a path lead to from a place. Only a directory leads further, be it to itself or
to the one above it. -/
def follow? (entries : List (String × Stored)) (place : List String) : List String → Option Stored
  | [] => under? entries place
  | name :: rest =>
    if under? entries place != some .directory then none
    else if name = "" || name = "." then follow? entries place rest
    else if name = ".." then follow? entries place.dropLast rest
    else follow? entries (place ++ [name]) rest

/-- The tree with the given entries. -/
def ofList (entries : List (String × Stored)) : FileTree := fun path =>
  follow? entries [] (pieces path)

def isFile (tree : FileTree) (path : String) : Bool :=
  match tree path with
  | some (.file _) => true
  | _ => false

/-- A path taken from a directory. A path that begins at the root stays as it is. -/
def join (directory path : String) : String :=
  if path.toList.head? = some '/' then path else s!"{directory}/{path}"

/-- The names of settings files, the preferred first. -/
def settingsNames : List String := ["polytx.toml", "polytx.json", "config.toml", "config.json"]

/-- The first settings file in some directories, searched in order. -/
def find? (tree : FileTree) (directories : List String) : Option String :=
  (directories.flatMap fun directory => settingsNames.map (join directory)).find? tree.isFile

/-- The part of a name after its last point; nothing without a point, or when nothing stands before
it. -/
def extension? (name : String) : Option String :=
  let backward := name.toList.reverse
  match backward.dropWhile (· != '.') with
  | _ :: _ :: _ => some (String.ofList (backward.takeWhile (· != '.')).reverse)
  | _ => none

/-- The extension that decides the notation of the file at a path. -/
def formatOf (path : String) : String :=
  (((pathNames path).getLast?).bind extension?).getD "toml"

end FileTree

namespace Settings

/-- The failure of a source of settings. -/
def fault (message : String) : Refusal := .config message none

/-- The settings of a text in the notation of an extension. -/
def ofText (extension text : String) : Except Refusal Settings :=
  match extension with
  | "toml" => (ofToml? text).elim (.error (fault "Invalid TOML format")) .ok
  | "json" => (ofJson? text).elim (.error (fault "Invalid JSON format")) .ok
  | other => .error (fault s!"Unsupported config format: {other}")

/-- The settings of what stands at a path. -/
def ofStored (path : String) : Stored → Except Refusal Settings
  | .file (some text) => do
    let settings ← ofText (FileTree.formatOf path) text
    settings.checked
  | _ => .error (fault "Failed to read config file")

/-- The log entry about a file that is going to be read. -/
def loadingEntry (path : String) : Log.Entry :=
  ⟨.info, "Loading configuration from file", [("path", path)]⟩

/-- The settings of the file at a path. -/
def ofPath (tree : FileTree) (path : String) : LogM (Except Refusal Settings) :=
  match tree path with
  | none => pure (.error (fault s!"Config file not found: {path}"))
  | some stored => do
    Log.record (loadingEntry path)
    pure (ofStored path stored)

/-- The settings of the first settings file in some directories. -/
def ofFound (tree : FileTree) (directories : List String) : LogM (Except Refusal Settings) :=
  match tree.find? directories with
  | none => pure (.error (fault "No config file found in any of the standard locations"))
  | some path => ofPath tree path

end Settings

end UnitOfWork
