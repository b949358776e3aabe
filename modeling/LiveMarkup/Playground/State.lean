import LiveMarkup.Debounce
import LiveMarkup.Editor
import LiveMarkup.Generation
import LiveMarkup.Output.Document

/-! # The playground

The playground holds the edited text, its format, and what is pending. It is told events one at a time
and answers with requests; it never waits and never looks at the display or at the store.

A changed text is highlighted and painted at once, and its update waits in the debouncer. Choosing a
format drops what waits there and starts an update of the current text. The result of an update is
presented if the generation gate lets it through.
-/
namespace LiveMarkup

inductive PlaygroundEvent where
  | sourceChanged (text : String)
  | setFormat (format : Format)
  | finished (generation : Nat) (report : UpdateReport)
  | quit
  | shutdown

inductive EndReason where
  | interrupted | quitCommand
deriving DecidableEq, Repr

inductive Request where
  | paint (document : String)
  | update (generation : Nat) (source : String) (format : Format)
  /-- The report's documents in the result panes, and its source and format in the store. -/
  | present (report : UpdateReport)

structure Playground where
  editor : Editor
  surface : Surface
  format : Format
  debouncer : Debouncer String
  gate : GenerationGate := {}

/-- A step of the playground: the state after it, the requests in order, and whether it is the last. -/
structure PlaygroundStep where
  after : Playground
  requests : List Request := []
  ended : Option EndReason := none

namespace Playground

/-- A playground before its first step, with one subscription that feeds the debouncer. -/
def new (lexer : Lexer) (styles : StyleMap) (source : String) (format : Format) (window : Nat) :
    Playground where
  editor := ({ lexer, styles } : Editor).subscribe.2
  surface := .new source
  format
  debouncer := .new window

def paint (p : Playground) : Request := .paint (editorDocument p.surface.markup p.editor.styles)

def startUpdate (p : Playground) (source : String) : Playground × Request :=
  let (generation, gate) := p.gate.issue
  ({ p with gate }, .update generation source p.format)

def begin (p : Playground) : PlaygroundStep :=
  let p := { p with surface := p.editor.render p.surface }
  let (after, update) := p.startUpdate p.surface.text
  { after, requests := [p.paint, update] }

/-- A text from outside. The text that is there already changes nothing. -/
def changeSource (p : Playground) (text : String) (now : Nat) : PlaygroundStep :=
  match p.surface.setText text with
  | (false, _) => { after := p }
  | (true, surface) =>
    let change := p.editor.handleChange surface
    let debouncer := change.notified.foldl (fun d _ => d.submit change.text now) p.debouncer
    let after := { p with editor := change.editor, surface := change.surface, debouncer }
    { after, requests := [after.paint] }

def chooseFormat (p : Playground) (format : Format) : PlaygroundStep :=
  let p := { p with format, debouncer := p.debouncer.cancel.2 }
  let (after, update) := p.startUpdate p.surface.text
  { after, requests := [update] }

/-- The result of an update is presented unless a newer one has been. -/
def finish (p : Playground) (generation : Nat) (report : UpdateReport) : PlaygroundStep :=
  let (newer, gate) := p.gate.accept generation
  { after := { p with gate }, requests := if newer then [.present report] else [] }

def handle (p : Playground) (event : PlaygroundEvent) (now : Nat) : PlaygroundStep :=
  match event with
  | .sourceChanged text => p.changeSource text now
  | .setFormat format => p.chooseFormat format
  | .finished generation report => p.finish generation report
  | .quit => { after := p, ended := some .quitCommand }
  | .shutdown => { after := p, ended := some .interrupted }

/-- Wakes the playground up at a time: the text whose deadline has come is updated. -/
def wake (p : Playground) (now : Nat) : PlaygroundStep :=
  match p.debouncer.poll now with
  | (none, debouncer) => { after := { p with debouncer } }
  | (some text, debouncer) =>
    let (after, update) := { p with debouncer }.startUpdate text
    { after, requests := [update] }

end Playground
end LiveMarkup
