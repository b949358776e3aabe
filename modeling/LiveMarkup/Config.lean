import LiveMarkup.Files.Tree
import LiveMarkup.Format
import LiveMarkup.Toml.Document

/-! # Configuration

The configuration is a TOML document in which every section and every key may be missing. A section
may also be given as an array of its values in order. Keys that are not known are passed over. A file
that is missing or not accepted gives the defaults.
-/
namespace LiveMarkup

def usualDebounce : Nat := 500

structure SchedulerSettings where
  /-- Milliseconds of quiet before an update, as configured. -/
  debounce : Nat := usualDebounce
deriving DecidableEq, Repr

def usualProgram : String := "sommark"

structure EngineSettings where
  program : String := usualProgram
  arguments : List String := []
deriving DecidableEq, Repr

def usualDirectory : String := "playground-out"

structure OutputSettings where
  outputDirectory : String := usualDirectory
deriving DecidableEq, Repr

structure StorageSettings where
  statePath : Option String := none
deriving DecidableEq, Repr

def usualFormat : String := "html"

structure EditorSettings where
  defaultFormat : String := usualFormat
deriving DecidableEq, Repr

structure HighlightSettings where
  classes : List (String × String) := []
deriving DecidableEq, Repr

/-- The settings of all sections. -/
structure Settings extends SchedulerSettings, EngineSettings, OutputSettings, StorageSettings,
  EditorSettings, HighlightSettings
deriving DecidableEq, Repr

def maxDebounce : Nat := 10000

def Settings.effectiveDebounce (s : Settings) : Nat := min s.debounce maxDebounce

namespace Settings

/-- The values of a section under the given keys. A date counts as a table without known keys. -/
def fieldsOf (keys : List String) : Toml → Option (List (Option Toml))
  | .table _ entries => some (keys.map (Toml.find? entries))
  | .array items | .tables items => some ((List.range keys.length).map fun i => items[i]?)
  | .datetime _ => some (keys.map fun _ => none)
  | _ => none

/-- A section of a document: the usual one if it is missing, else what its fields say. -/
def section? {α : Type} (document : List (String × Toml)) (name : String) (keys : List String)
    (usual : α) (read : List (Option Toml) → Option α) : Option α :=
  match Toml.find? document name with
  | none => some usual
  | some v => (fieldsOf keys v).bind read

def natural? : Toml → Option Nat
  | .int v => if 0 ≤ v ∧ v < 0x10000000000000000 then some v.toNat else none
  | _ => none

def string? : Toml → Option String
  | .str text => some text
  | _ => none

def strings? : Toml → Option (List String)
  | .array items | .tables items => items.mapM string?
  | _ => none

/-- A table of texts. A date counts as a table that has its normal form under a key of its own. -/
def stringTable? : Toml → Option (List (String × String))
  | .table _ entries => do
    let pairs ← entries.mapM fun e => (string? e.2).map fun text => (e.1, text)
    some (pairs.foldl (fun acc e => insertMember e.1 e.2 acc) [])
  | .datetime text => some [("$__toml_private_datetime", text)]
  | _ => none

/-- A field: its default if it is missing, and nothing if it is of the wrong type. -/
def field {α : Type} (read : Toml → Option α) (default : α) : Option (Option Toml) → Option α
  | some (some v) => read v
  | _ => some default

end Settings

open Settings

def SchedulerSettings.ofFields? (fields : List (Option Toml)) : Option SchedulerSettings := do
  some { debounce := ← field natural? usualDebounce fields[0]? }

def EngineSettings.ofFields? (fields : List (Option Toml)) : Option EngineSettings := do
  some
    { program := ← field string? usualProgram fields[0]?
      arguments := ← field strings? [] fields[1]? }

def OutputSettings.ofFields? (fields : List (Option Toml)) : Option OutputSettings := do
  some { outputDirectory := ← field string? usualDirectory fields[0]? }

def StorageSettings.ofFields? (fields : List (Option Toml)) : Option StorageSettings := do
  some { statePath := ← field (fun v => (string? v).map some) none fields[0]? }

def EditorSettings.ofFields? (fields : List (Option Toml)) : Option EditorSettings := do
  some { defaultFormat := ← field string? usualFormat fields[0]? }

def HighlightSettings.ofFields? (fields : List (Option Toml)) : Option HighlightSettings := do
  some { classes := ← field stringTable? [] fields[0]? }

/-- The settings of a document, unless a value is of the wrong type. -/
def Settings.ofDocument (document : List (String × Toml)) : Option Settings := do
  let scheduler ← section? document "scheduler" ["debounce_ms"] {} SchedulerSettings.ofFields?
  let engine ← section? document "engine" ["program", "args"] {} EngineSettings.ofFields?
  let output ← section? document "output" ["dir"] {} OutputSettings.ofFields?
  let storage ← section? document "storage" ["path"] {} StorageSettings.ofFields?
  let editor ← section? document "editor" ["default_format"] {} EditorSettings.ofFields?
  let highlight ← section? document "highlight" ["classes"] {} HighlightSettings.ofFields?
  some
    { toSchedulerSettings := scheduler
      toEngineSettings := engine
      toOutputSettings := output
      toStorageSettings := storage
      toEditorSettings := editor
      toHighlightSettings := highlight }

structure Platform where
  configDirectory : Option String := none
  dataDirectory : Option String := none

/-- A configuration with the file it came from, if one was accepted. -/
structure Config where
  settings : Settings := {}
  path : Option String := none
  raw : Option String := none

namespace Config

def fileName : String := "sommark-playground.toml"

def directoryName : String := "sommark-playground"

/-- Where the configuration is looked for: beside the program's files first, then where the platform
keeps configurations. -/
def discover (t : FileTree) (platform : Platform) : String :=
  if t.pathExists fileName then fileName
  else match platform.configDirectory with
    | some dir => Path.join (Path.join dir directoryName) fileName
    | none => fileName

def loadAt (t : FileTree) (path : String) : Config :=
  match t.readText path with
  | .error _ => {}
  | .ok raw => match (Toml.ofText? raw).bind Settings.ofDocument with
    | some settings => { settings, path := some path, raw := some raw }
    | none => {}

/-- The configuration at a path, or where it is looked for when none is given. -/
def load (t : FileTree) (platform : Platform) (path : Option String) : Config :=
  loadAt t (path.getD (discover t platform))

def statePath (c : Config) (platform : Platform) : Option String :=
  match c.settings.statePath with
  | some path => some path
  | none => platform.dataDirectory.map fun dir =>
    Path.join (Path.join dir directoryName) "state.json"

end Config

/-- The format at the start: the one asked for if it is known, else the stored one, else the
configured one. A stored or configured tag that is not known means the first format. -/
def Settings.startFormat (s : Settings) (asked stored : Option String) : Format :=
  match asked.bind Format.ofTag? with
  | some format => format
  | none => Format.ofTag (stored.getD s.defaultFormat)

end LiveMarkup
