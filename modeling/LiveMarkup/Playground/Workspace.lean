import LiveMarkup.Config
import LiveMarkup.Output.Sink
import LiveMarkup.Playground.Outlet

/-! # Workspaces

A workspace is the outlet of a playground that works on files: documents go into an output directory,
and the session is kept in the state file.
-/
namespace LiveMarkup

/-- Where a session is kept: in a file, or in memory when there is no place for a file. -/
inductive SessionStore where
  | file (store : FileStore)
  | memory (store : MemoryStore)

namespace SessionStore

def get? : SessionStore → String → Option String
  | file store, key => store.get? key
  | memory store, key => store.entries.get? key

/-- Opens the store of a configuration. A state file that cannot be used counts as empty. -/
def ofConfig (t : FileTree) (platform : Platform) (config : Config) : SessionStore :=
  match config.statePath platform with
  | some path => file (.openOrEmpty t path)
  | none => memory {}

def set (s : SessionStore) (t : FileTree) (key value : String) :
    SessionStore × FileTree × Except StoreError Unit :=
  match s with
  | file store =>
    let done := store.set t key value {}
    (file done.store, done.tree, done.result)
  | memory store => (memory (store.set key value), t, .ok ())

end SessionStore

/-- Files, the output directory among them, and the store. -/
structure Workspace where
  tree : FileTree
  sink : DirectorySink
  store : SessionStore

namespace Workspace

def put (w : Workspace) (pane : Pane) (document : String) : Workspace × Except IoError Unit :=
  let done := w.sink.show w.tree pane document {}
  ({ w with tree := done.tree }, done.result)

def set (w : Workspace) (key value : String) : Workspace × Except StoreError Unit :=
  let (store, tree, result) := w.store.set w.tree key value
  ({ w with tree, store }, result)

def outlet : Outlet Workspace := ⟨put, set⟩

end Workspace
end LiveMarkup
