import LiveMarkup.Text.Utf16
import LiveMarkup.Text.Lines

/-! # Positions in a source text

A position is a line and a column, both counted from one; columns count UTF-16 code units. Positions
are ordered by line first. `Position.after` moves a position over a piece of text, and
`Source.index` finds the place in the source that a position names, clamped to the text.
-/
namespace LiveMarkup

/-- A line and a column, both counted from one. -/
@[ext] structure Position where
  line : Nat
  column : Nat
deriving DecidableEq, Repr

namespace Position

def origin : Position := ⟨1, 1⟩

/-- One position precedes another: line first, then column. -/
def Before (p q : Position) : Prop :=
  p.line < q.line ∨ (p.line = q.line ∧ p.column < q.column)

instance : LT Position := ⟨Before⟩

instance (p q : Position) : Decidable (p < q) :=
  inferInstanceAs (Decidable (p.line < q.line ∨ (p.line = q.line ∧ p.column < q.column)))

def afterChar (p : Position) (c : Char) : Position :=
  if c = '\n' then ⟨p.line + 1, 1⟩ else ⟨p.line, p.column + unitsOf c⟩

/-- The position behind a piece of text that starts at `p`. -/
def after (p : Position) (text : List Char) : Position := text.foldl afterChar p

@[simp] theorem after_nil (p : Position) : p.after [] = p := rfl

@[simp] theorem after_cons (p : Position) (c : Char) (cs : List Char) :
    p.after (c :: cs) = (p.afterChar c).after cs := rfl

theorem after_append (p : Position) (s t : List Char) :
    p.after (s ++ t) = (p.after s).after t := by
  simp [after, List.foldl_append]

end Position

structure Source where
  text : List Char
  lines : List (List Char)
  lines_eq : lines = splitLines text

namespace Source

def ofText (text : List Char) : Source := ⟨text, splitLines text, rfl⟩

def line? (src : Source) (n : Nat) : Option (List Char) :=
  if n = 0 then none else src.lines[n - 1]?

def linesFrom (src : Source) (n : Nat) : List (List Char) :=
  if n = 0 then [] else src.lines.drop (n - 1)

/-- The number of characters up to the start of a line, line feeds included. -/
def lineStart (src : Source) (n : Nat) : Nat :=
  totalLength (src.lines.take (n - 1))

/-- How many characters of the source lie before a position.

A column past the end of its line names the end of the line, a line past the last one the end of the
source, and line zero its beginning. -/
def index (src : Source) (p : Position) : Nat :=
  match src.line? p.line with
  | some line => src.lineStart p.line + charsBefore line (p.column - 1)
  | none => if p.line = 0 then 0 else src.text.length

end Source
end LiveMarkup
