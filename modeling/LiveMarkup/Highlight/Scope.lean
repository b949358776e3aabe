import LiveMarkup.Text.Entities

/-! # Scopes

A scope names what a part of a text is. Scopes open and close at places of a line; in markup an open
scope is a span. Spans may stay open from line to line, and those still open at the end of the text are
closed there.
-/
namespace LiveMarkup.Highlight

/-- A scope: names from the general to the special one. -/
abbrev Scope := List String

inductive ScopeMark where
  | opens (scope : Scope)
  | closes
deriving DecidableEq, Repr

structure ScopeEvent where
  position : Nat
  mark : ScopeMark
deriving DecidableEq, Repr

def openTag (scope : Scope) : List Char :=
  "<span class=\"".toList ++ (" ".intercalate (scope.map fun name => "hl-" ++ name)).toList ++
    ['"', '>']

def closeTag : List Char := "</span>".toList

/-- The markup of a line, as far as it is written. -/
structure LineMarkup where
  written : List Char := []
  /-- Where the tag of the scope that was opened last begins. -/
  start : Nat := 0
  /-- Whether that tag is the last thing written. -/
  bare : Bool := false
  /-- How many more scopes have been opened than closed. -/
  opened : Int := 0

namespace LineMarkup

def text (m : LineMarkup) (content : List Char) : LineMarkup :=
  if content.isEmpty then m
  else { m with written := m.written ++ escapeShort content, bare := false }

/-- Opens or closes a scope. The tag of a scope that is closed as soon as it is opened is taken back. -/
def mark (m : LineMarkup) : ScopeMark → LineMarkup
  | .opens scope => ⟨m.written ++ openTag scope, m.written.length, true, m.opened + 1⟩
  | .closes =>
    let written := if m.bare then m.written.take m.start else m.written ++ closeTag
    ⟨written, m.start, false, m.opened - 1⟩

/-- Writes what is left of a line behind a position, with marks put at their positions. A mark whose
position has been passed is put in front. -/
def line (m : LineMarkup) (position : Nat) (rest : List Char) : List ScopeEvent → LineMarkup
  | [] => m.text rest
  | e :: later =>
    let width := e.position - position
    ((m.text (rest.take width)).mark e.mark).line (position + width) (rest.drop width) later

end LineMarkup

/-- The markup of lines with their marks, behind lines that have opened some more scopes than they have
closed; at the end these are closed. -/
def linesMarkup (opened : Int) : List (List Char × List ScopeEvent) → List Char
  | [] => (List.replicate opened.toNat closeTag).flatten
  | (content, events) :: rest =>
    let m := LineMarkup.line {} 0 content events
    m.written ++ linesMarkup (opened + m.opened) rest

end LiveMarkup.Highlight
