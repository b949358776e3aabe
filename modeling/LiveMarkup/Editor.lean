import LiveMarkup.Engine.Error
import LiveMarkup.Reconcile
import LiveMarkup.Surface

/-! # The live editor

On every change the editor highlights the surface's text, writes the markup back, and then tells every
subscriber the text, in the order of their subscriptions.
-/
namespace LiveMarkup

abbrev Lexer := String → Except LexError (List Token)

def fallsBack : Except LexError (List Token) → Bool
  | .ok tokens => tokens.isEmpty
  | .error _ => true

/-- The markup of a source. Without tokens, or when the lexer fails, it is the escaped source. -/
def highlight (source : String) (lexer : Lexer) (styles : StyleMap) : String :=
  match lexer source with
  | .ok [] => escapeText source
  | .ok tokens => reconcile source tokens styles
  | .error _ => escapeText source

structure Editor where
  lexer : Lexer
  styles : StyleMap
  /-- The current subscriptions, oldest first. -/
  subscriptions : List Nat := []
  /-- The number of the next subscription; numbers are not used again. -/
  nextId : Nat := 0
  changes : Nat := 0

namespace Editor

def subscribe (e : Editor) : Nat × Editor :=
  (e.nextId, { e with subscriptions := e.subscriptions ++ [e.nextId], nextId := e.nextId + 1 })

def unsubscribe (e : Editor) (id : Nat) : Bool × Editor :=
  (e.subscriptions.contains id,
    { e with subscriptions := e.subscriptions.filter fun s => s != id })

def render (e : Editor) (s : Surface) : Surface := s.setMarkup (highlight s.text e.lexer e.styles)

structure Change where
  editor : Editor
  surface : Surface
  text : String
  notified : List Nat

def handleChange (e : Editor) (s : Surface) : Change :=
  { editor := { e with changes := e.changes + 1 }
    surface := e.render s
    text := s.text
    notified := e.subscriptions }

end Editor
end LiveMarkup
