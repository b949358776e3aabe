import LiveMarkup.Files.IoError
import LiveMarkup.Files.Path
import LiveMarkup.Text.Utf8

/-! # File trees

A file tree is what a program sees of a disk: directories and files at absolute locations, and the
directory in which relative paths start. There are no links and no special files, so no two locations
share a file, and a path leads to one location at most. Operations take paths and fail the way an operating
system does; one that fails changes nothing.
-/
namespace LiveMarkup

/-- What stands at a location: a directory or a plain file, never a link. -/
inductive FileNode where
  | directory
  | file (bytes : List UInt8)
deriving DecidableEq, Repr

/-- An absolute location: the names from the root on. -/
abbrev Location := List String

/-- Directories and files by location. The root is always a directory. A file has one location and no other
name, since there are no links, hard or symbolic. -/
structure FileTree where
  nodes : List (Location × FileNode) := []
  home : Location := []

namespace FileTree

def node? (t : FileTree) (loc : Location) : Option FileNode :=
  if loc = [] then some .directory else (t.nodes.find? fun n => n.1 = loc).map (·.2)

def isDirectoryAt (t : FileTree) (loc : Location) : Bool := t.node? loc = some .directory

def put (t : FileTree) (loc : Location) (node : FileNode) : FileTree :=
  { t with nodes := (loc, node) :: t.nodes.filter fun n => n.1 ≠ loc }

def erase (t : FileTree) (loc : Location) : FileTree :=
  { t with nodes := t.nodes.filter fun n => n.1 ≠ loc }

def walk (t : FileTree) : Location → List (List Char) → Except IoError Location
  | loc, [] => .ok loc
  | loc, piece :: more =>
    if piece = [] ∨ piece = ['.'] then walk t loc more
    else if piece = ['.', '.'] then walk t loc.dropLast more
    else
      let next := loc ++ [String.ofList piece]
      match t.node? next with
      | some .directory => walk t next more
      | some (.file _) => .error .notADirectory
      | none => .error .notFound

def longestName : Nat := 255

/-- The location that a path names, all directories on the way to it being there, and whether the path
can only name a directory. -/
def locate (t : FileTree) (path : String) : Except IoError (Location × Bool) :=
  let ps := Path.pieces path.toList
  let start := if Path.isAbsolute path then [] else t.home
  if path = "" then .error .notFound
  else if path.toList.contains '\x00' then
    .error (.custom "file name contained an unexpected NUL byte")
  else if ps.any fun p => longestName < (String.ofList p).utf8ByteSize then .error (.os 36)
  else
    let kept := (ps.reverse.dropWhile (· = [])).reverse
    match kept.getLast? with
    | none => .ok ([], true)
    | some name =>
      if name = ['.'] ∨ name = ['.', '.'] then do .ok (← t.walk start kept, true)
      else do
        let loc ← t.walk start kept.dropLast
        .ok (loc ++ [String.ofList name], decide (kept.length < ps.length))

def lookup (t : FileTree) (path : String) : Except IoError FileNode := do
  let (loc, directoryOnly) ← t.locate path
  match t.node? loc with
  | none => .error .notFound
  | some .directory => .ok .directory
  | some (.file bytes) => if directoryOnly then .error .notADirectory else .ok (.file bytes)

def pathExists (t : FileTree) (path : String) : Bool := (t.lookup path).isOk

def isDirectory (t : FileTree) (path : String) : Bool :=
  match t.lookup path with
  | .ok .directory => true
  | _ => false

def readBytes (t : FileTree) (path : String) : Except IoError (List UInt8) := do
  match ← t.lookup path with
  | .directory => .error .isADirectory
  | .file bytes => .ok bytes

def readText (t : FileTree) (path : String) : Except IoError String := do
  match decodeUtf8 (← t.readBytes path) with
  | some text => .ok (String.ofList text)
  | none => .error .notText

def writeBytes (t : FileTree) (path : String) (bytes : List UInt8) : Except IoError FileTree := do
  let (loc, directoryOnly) ← t.locate path
  match t.node? loc with
  | some .directory => .error .isADirectory
  | some (.file _) => if directoryOnly then .error .notADirectory else .ok (t.put loc (.file bytes))
  | none => if directoryOnly then .error .isADirectory else .ok (t.put loc (.file bytes))

def writeText (t : FileTree) (path : String) (text : String) : Except IoError FileTree :=
  t.writeBytes path (encodeUtf8 text.toList)

def makeDirectory (t : FileTree) (path : String) : Except IoError FileTree := do
  let (loc, _) ← t.locate path
  match t.node? loc with
  | some _ => .error .alreadyExists
  | none => .ok (t.put loc .directory)

/-- Makes a directory and those on the way to it, as far as they are missing. The number bounds how
many are tried. -/
def makeDirectoriesWithin (t : FileTree) : Nat → String → Except IoError FileTree
  | 0, _ => .error .notFound
  | fuel + 1, path =>
    if path = "" then .ok t
    else match t.makeDirectory path with
      | .ok t => .ok t
      | .error e =>
        if e = .notFound then
          match Path.parent? path with
          | none => .error (.custom "failed to create whole tree")
          | some parent => do
            let t ← makeDirectoriesWithin t fuel parent
            match t.makeDirectory path with
            | .ok t => .ok t
            | .error e => if t.isDirectory path then .ok t else .error e
        else if t.isDirectory path then .ok t
        else .error e

/-- Makes a directory and those on the way to it, as far as they are missing. -/
def makeDirectories (t : FileTree) (path : String) : Except IoError FileTree :=
  t.makeDirectoriesWithin (path.length + 1) path

def rename (t : FileTree) (source target : String) : Except IoError FileTree := do
  let bytes ← t.readBytes source
  let (old, _) ← t.locate source
  let (new, directoryOnly) ← t.locate target
  match t.node? new with
  | some .directory => .error .isADirectory
  | _ =>
    if directoryOnly then .error .notADirectory
    else .ok ((t.erase old).put new (.file bytes))

def removeFile (t : FileTree) (path : String) : Except IoError FileTree := do
  let _ ← t.readBytes path
  let (loc, _) ← t.locate path
  .ok (t.erase loc)

def insertName (name : String) : List String → List String
  | [] => [name]
  | other :: rest => if name < other then name :: other :: rest else other :: insertName name rest

def namesIn (t : FileTree) (path : String) : List String :=
  match t.locate path with
  | .error _ => []
  | .ok (loc, _) =>
    (t.nodes.filterMap fun n =>
      if n.1.dropLast = loc ∧ n.1 ≠ [] then n.1.getLast? else none).foldr insertName []

end FileTree
end LiveMarkup
