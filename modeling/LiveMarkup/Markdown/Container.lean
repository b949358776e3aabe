import LiveMarkup.Markdown.Line

/-! # Containers

Quotes, lists and items hold other blocks. Every line of what is inside carries the marks of the
containers around it, except that a paragraph goes on without them.
-/
namespace LiveMarkup.Markdown

inductive Container where
  | document
  | quote
  /-- A list, with its first number if it is numbered, and the character that marks its items. -/
  | list (start : Option Nat) (mark : Char)
  | item (indent : Nat)
deriving DecidableEq, Repr

namespace Container

def isList : Container → Bool
  | list _ _ => true
  | _ => false

def isItem : Container → Bool
  | item _ => true
  | _ => false

/-- The place behind the mark of a container, if a line carries it. The line of an item is indented, or
it is empty. -/
def enter? (l : Line) : Container → Option Line
  | document | list _ _ => some l
  | quote =>
    let inner := (l.takeColumns 3).2
    if inner.rest.head? = some '>' then some ((inner.advance 1).takeColumns 1).2 else none
  | item indent =>
    let (missing, inner) := l.takeColumns indent
    if missing = 0 || inner.atEnd then some inner else none

end Container

/-- Enters containers, given outermost first, as far as a line carries their marks. Answers with the
containers it does not get into and the place behind the marks. -/
def enter : List Container → Line → List Container × Line
  | [], l => ([], l)
  | c :: inner, l =>
    match c.enter? l with
    | some l => enter inner l
    | none => (c :: inner, l)

def enterAll? (containers : List Container) (text : List Char) : Option Line :=
  match enter containers { rest := text } with
  | ([], l) => some l
  | _ => none

end LiveMarkup.Markdown
