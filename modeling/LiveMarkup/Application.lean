import LiveMarkup.Arguments
import LiveMarkup.Command
import LiveMarkup.Engine.Process
import LiveMarkup.Notice
import LiveMarkup.Playground.Run
import LiveMarkup.Playground.Workspace

/-! # The application

The command line asks for one of two jobs. Highlighting prints the markup of a file and is done.
Watching opens the session, finds or seeds the source file, and then runs a playground until it is told
to quit. What goes wrong on the way is reported with its cause.
-/
namespace LiveMarkup

def versionText : String := "sommark-playground 0.0.1\n"

def defaultSourcePath : String := "playground.sml"

def failureReport (doing : String) (cause : IoError) : String :=
  "Error: " ++ doing ++ "\n\nCaused by:\n    " ++ cause.message ++ "\n"

def Settings.engine (s : Settings) (launch : Launcher) : ProgramEngine :=
  ⟨s.program, s.arguments, launch⟩

def Settings.styles (s : Settings) : StyleMap := .ofEntries s.classes

/-- A playground at work on the files of a workspace. -/
structure Watch where
  setting : Setting Workspace
  run : Run Workspace
  watcher : SourceWatcher

namespace Watch

def tree (w : Watch) : FileTree := w.run.world.tree

def withTree (w : Watch) (tree : FileTree) : Watch :=
  { w with run := { w.run with world := { w.run.world with tree } } }

def tell (w : Watch) (time : Nat) (e : PlaygroundEvent) : Watch :=
  { w with run := w.run.tell w.setting time e }

def look (w : Watch) (time : Nat) : Watch :=
  match w.watcher.take w.tree .modify [w.watcher.path] with
  | (some text, watcher) => { w with watcher }.tell time (.sourceChanged text)
  | (none, watcher) => { w with watcher }

def command (w : Watch) (time : Nat) (line : List Char) : Watch :=
  match Command.ofLine line with
  | .ok (some (.setFormat format)) => w.tell time (.setFormat format)
  | .ok (some .quit) => w.tell time .quit
  | .ok none | .error _ => w

def settle (w : Watch) (limit : Option Nat) : Watch :=
  { w with run := w.run.settle w.setting limit }

end Watch

inductive Reply where
  | done (code : Nat) (output errors : String)
  | watching (w : Watch)

structure Environment where
  tree : FileTree
  platform : Platform
  launch : Launcher

namespace Environment

def highlight (e : Environment) (config : Config) (path : String) : Reply :=
  match e.tree.readText path with
  | .error cause => .done 1 "" (failureReport ("reading " ++ path) cause)
  | .ok source =>
    let lexer := (config.settings.engine e.launch).editorLexer
    .done 0 (LiveMarkup.highlight source lexer config.settings.styles ++ "\n") ""

/-- The source file's text. A file that is missing is written first. -/
def openSource (t : FileTree) (path seed : String) : Except String (String × FileTree) :=
  match t.readText path with
  | .ok text => .ok (text, t)
  | .error cause =>
    if cause = .notFound then
      match t.writeText path seed with
      | .ok t => .ok (seed, t)
      | .error cause => .error (failureReport ("seeding " ++ path) cause)
    else .error (failureReport ("reading " ++ path) cause)

def watch (e : Environment) (config : Config) (asked path : Option String) : Except String Watch := do
  let settings := config.settings
  let store := SessionStore.ofConfig e.tree e.platform config
  let session := Session.load store.get?
  let format := settings.startFormat asked session.format
  let path := path.getD defaultSourcePath
  let (source, tree) ← openSource e.tree path session.source
  let directory := settings.outputDirectory
  let (sink, tree) ← (DirectorySink.create tree directory).mapError
    (failureReport ("creating " ++ directory))
  let program := settings.engine e.launch
  let start := Playground.new program.editorLexer settings.styles source format
    settings.effectiveDebounce
  let setting : Setting Workspace := { engine := program.engine, outlet := Workspace.outlet }
  .ok ⟨setting, Run.start setting start ⟨tree, sink, store⟩, ⟨path, ⟨some source⟩⟩⟩

def reply (e : Environment) (arguments : List String) : Reply :=
  match Arguments.read arguments with
  | .error .versionAsked => .done 0 versionText ""
  | .error .helpAsked => .done 0 "" ""
  | .error _ => .done 2 "" ""
  | .ok a =>
    let config := Config.load e.tree e.platform a.config
    match a.job with
    | .highlight path => e.highlight config path
    | .watch path => match e.watch config a.format path with
      | .ok w => .watching w
      | .error report => .done 1 "" report

end Environment
end LiveMarkup
