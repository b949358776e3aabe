import LiveMarkup.Engine.Error
import LiveMarkup.Files.Tree
import LiveMarkup.Json.Reader

/-! # Key and value stores

A store maps strings to strings. The file store keeps its entries in a file that holds one JSON object;
every change writes the whole object to a temporary file beside it and moves that into place. The steps
of a write may fail on their own account, which a `WriteFault` says.
-/
namespace LiveMarkup

abbrev Entries := List (String × String)

namespace Entries

def get? (e : Entries) (key : String) : Option String :=
  (e.find? fun m => m.1 = key).map (·.2)

def set (e : Entries) (key value : String) : Entries := insertMember key value e

def toText (e : Entries) : String := (Json.obj (e.map fun m => (m.1, .str m.2))).compactText

/-- The string members of an object; others are left out. -/
def ofMembers (members : List (String × Json)) : Entries :=
  members.filterMap fun m => match m.2 with
    | .str value => some (m.1, value)
    | _ => none

end Entries

/-- Why a store could not be opened or written. -/
inductive StoreError where
  | io (path : String) (cause : IoError)
  | corrupt (path : String) (cause : JsonFault)

namespace StoreError

def message : StoreError → String
  | io path _ => "state file i/o failed: " ++ path
  | corrupt path _ => "state file is not a JSON object of strings: " ++ path

def causes : StoreError → List String
  | io _ cause => [cause.message]
  | corrupt _ cause => [cause.message]

end StoreError

structure WriteFault where
  directory : Option IoError := none
  /-- The temporary file cannot be written; that many bytes of it are. -/
  temporary : Option (IoError × Nat) := none
  move : Option IoError := none

/-- A disk and the outcome of what was done to it. -/
structure DiskOutcome where
  tree : FileTree
  result : Except IoError Unit

/-- Replaces a file by writing a temporary one and moving it into place. -/
def FileTree.replaceFile (t : FileTree) (temporary path text : String) (fault : WriteFault) :
    DiskOutcome :=
  let bytes := encodeUtf8 text.toList
  let written := match fault.temporary with
    | some (_, count) => bytes.take count
    | none => bytes
  match t.writeBytes temporary written with
  | .error e => ⟨t, .error e⟩
  | .ok t => match fault.temporary, fault.move with
    | some (e, _), _ => ⟨t, .error e⟩
    | none, some e => ⟨t, .error e⟩
    | none, none => match t.rename temporary path with
      | .error e => ⟨t, .error e⟩
      | .ok t => ⟨t, .ok ()⟩

/-- A store in a file: its path, and the entries in memory. -/
structure FileStore where
  path : String
  entries : Entries := []

namespace FileStore

def parse (path text : String) : Except StoreError Entries :=
  match Json.membersOfText? text with
  | .ok members => .ok (Entries.ofMembers members)
  | .error fault => .error (.corrupt path fault)

/-- Opens a store. A file that is not there is an empty store. -/
def openAt (t : FileTree) (path : String) : Except StoreError FileStore :=
  match t.readText path with
  | .ok text => (parse path text).map fun entries => ⟨path, entries⟩
  | .error e => if e = .notFound then .ok ⟨path, []⟩ else .error (.io path e)

def empty (path : String) : FileStore := ⟨path, []⟩

def temporaryPath (s : FileStore) : String := Path.withExtension s.path "json.tmp"

def flush (s : FileStore) (t : FileTree) (fault : WriteFault) : DiskOutcome :=
  let made : Except IoError FileTree := match Path.parent? s.path with
    | none | some "" => .ok t
    | some parent => match fault.directory with
      | some e => .error e
      | none => t.makeDirectories parent
  match made with
  | .error e => ⟨t, .error e⟩
  | .ok t => t.replaceFile s.temporaryPath s.path s.entries.toText fault

def get? (s : FileStore) (key : String) : Option String := s.entries.get? key

/-- A store, the disk, and whether the last change was written. -/
structure Outcome where
  store : FileStore
  tree : FileTree
  result : Except StoreError Unit

/-- Sets a value. Setting the value that is there already writes nothing. -/
def set (s : FileStore) (t : FileTree) (key value : String) (fault : WriteFault) : Outcome :=
  if s.get? key = some value then ⟨s, t, .ok ()⟩
  else
    -- the memory has the value from here on, whether it can be written or not
    let s := { s with entries := s.entries.set key value }
    let done := s.flush t fault
    ⟨s, done.tree, done.result.mapError (.io s.path)⟩

/-- The store at a path, or an empty one if the file there cannot be used. -/
def openOrEmpty (t : FileTree) (path : String) : FileStore :=
  match openAt t path with
  | .ok store => store
  | .error _ => empty path

end FileStore

/-- A store that keeps its entries in memory and counts the writes. -/
structure MemoryStore where
  entries : Entries := []
  writes : Nat := 0

def MemoryStore.set (s : MemoryStore) (key value : String) : MemoryStore :=
  ⟨s.entries.set key value, s.writes + 1⟩

end LiveMarkup
