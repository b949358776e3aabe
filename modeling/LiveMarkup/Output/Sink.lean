import LiveMarkup.Store

/-! # Where documents are shown

A pane is a region of the display. The directory sink keeps each pane in a file of its own, which is
replaced as a whole; the memory sink keeps the latest document of each pane.
-/
namespace LiveMarkup

inductive Pane where
  | editor | preview | transpiled | ast | tokens
deriving DecidableEq, Repr

namespace Pane

def all : List Pane := [editor, preview, transpiled, ast, tokens]

def name : Pane → String
  | editor => "editor"
  | preview => "preview"
  | transpiled => "transpiled"
  | ast => "ast"
  | tokens => "tokens"

def ofName? (name : String) : Option Pane := all.find? fun p => p.name = name

def fileName (p : Pane) : String := p.name ++ ".html"

end Pane

structure DirectorySink where
  directory : String

namespace DirectorySink

def create (t : FileTree) (directory : String) : Except IoError (DirectorySink × FileTree) := do
  .ok (⟨directory⟩, ← t.makeDirectories directory)

def pathOf (s : DirectorySink) (p : Pane) : String := Path.join s.directory p.fileName

def «show» (s : DirectorySink) (t : FileTree) (p : Pane) (document : String)
    (fault : WriteFault) : DiskOutcome :=
  let path := s.pathOf p
  t.replaceFile (Path.withExtension path "html.tmp") path document fault

end DirectorySink

/-- A sink that keeps documents in memory, with a log of the panes written. -/
structure MemorySink where
  latest : Pane → Option String := fun _ => none
  writes : List Pane := []

def MemorySink.put (s : MemorySink) (p : Pane) (document : String) : MemorySink :=
  { latest := fun q => if q = p then some document else s.latest q, writes := s.writes ++ [p] }

end LiveMarkup
