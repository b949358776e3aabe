import LiveMarkup.Application
import LiveMarkup.Shell.Run

/-! # The program

The outer layer: it brings the files that matter into a file tree, lets the application decide, and
writes back what the application has changed. While watching it looks at the source file and at the
command lines again and again. Engines are the programs that the shell of this library knows.
-/
namespace LiveMarkup.Program

def textOf (loc : Location) : String := "/" ++ "/".intercalate loc

def locationOf (home : Location) (path : String) : Location :=
  let start := if Path.isAbsolute path then [] else home
  (Path.pieces path.toList).foldl (fun loc piece =>
    if piece = [] ∨ piece = ['.'] then loc
    else if piece = ['.', '.'] then loc.dropLast
    else loc ++ [String.ofList piece]) start

def nodeAt (loc : Location) : IO (Option FileNode) := do
  try
    if ← (← IO.FS.realPath (textOf loc)).isDir then return some .directory
    return some (.file (← IO.FS.readBinFile (textOf loc)).toList)
  catch _ => return none

def bring (t : FileTree) (path : String) : IO FileTree := do
  let full := locationOf t.home path
  let mut t := t
  for n in List.range full.length do
    let loc := full.take (n + 1)
    t := match ← nodeAt loc with
      | some node => t.put loc node
      | none => t.erase loc
  return t

/-- Writes to the disk what is new in a tree, and removes what is gone from it. -/
def writeBack (before after : FileTree) : IO Unit := do
  for (loc, _) in before.nodes do
    if (after.node? loc).isNone then IO.FS.removeFile (textOf loc)
  for (loc, node) in after.nodes.reverse do
    if before.node? loc ≠ some node then
      match node with
      | .directory => IO.FS.createDirAll (textOf loc)
      | .file bytes => IO.FS.writeBinFile (textOf loc) ⟨bytes.toArray⟩

def platform : IO Platform := do
  let home ← IO.getEnv "HOME"
  let config ← IO.getEnv "XDG_CONFIG_HOME"
  let data ← IO.getEnv "XDG_DATA_HOME"
  return ⟨config.or (home.map fun h => Path.join h ".config"),
    data.or (home.map fun h => Path.join h ".local/share")⟩

def configPaths (p : Platform) (a : Arguments) : List String :=
  a.config.toList ++ [Config.fileName] ++ [Config.discover {} p]

def jobPaths (p : Platform) (a : Arguments) (config : Config) : List String :=
  match a.job with
  | .highlight path => [path]
  | .watch path =>
    let sink : DirectorySink := ⟨config.settings.outputDirectory⟩
    [path.getD defaultSourcePath] ++ (config.statePath p).toList ++ Pane.all.map sink.pathOf

/-- Watches until the playground has ended. The task, if there is one, reads the next command line. -/
partial def serve (w : Watch) (start : Nat) (line : Option (Task (Except IO.Error String))) :
    IO Unit := do
  let time := (← IO.monoMsNow) - start
  let before ← bring w.tree w.watcher.path
  let mut w := (w.withTree before).look time
  let mut next := line
  if let some task := line then
    if ← IO.hasFinished task then
      match task.get with
      | .error _ | .ok "" => next := none
      | .ok text =>
        w := w.command time text.toList
        next := some (← IO.asTask (← IO.getStdin).getLine)
  w := w.settle (some time)
  writeBack before w.tree
  if w.run.ended.isNone then
    IO.sleep 20
    serve w start next

def run (arguments : List String) : IO UInt32 := do
  let platform ← platform
  let home := locationOf [] (← IO.currentDir).toString
  let mut tree : FileTree := { home }
  if let .ok a := Arguments.read arguments then
    for path in configPaths platform a do tree ← bring tree path
    for path in jobPaths platform a (Config.load tree platform a.config) do tree ← bring tree path
  let environment : Environment := { tree, platform, launch := Shell.launch tree }
  match environment.reply arguments with
  | .done code output errors =>
    (← IO.getStdout).putStr output
    (← IO.getStderr).putStr errors
    return code.toUInt32
  | .watching w =>
    writeBack tree w.tree
    serve w (← IO.monoMsNow) (some (← IO.asTask (← IO.getStdin).getLine))
    return 0

end LiveMarkup.Program

def main (arguments : List String) : IO UInt32 := LiveMarkup.Program.run arguments
