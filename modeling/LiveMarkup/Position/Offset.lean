import LiveMarkup.Position
import LiveMarkup.Text.Bytes

/-! # Byte places of positions

The place in the source that a position names, worked out in bytes: the place where its line starts, from
a table of the lines, and behind it the first character of the line that starts at or behind the column.
-/
namespace LiveMarkup

/-- The bytes in front of the first character that starts at or behind the point `units` code units into
a line, for a line of which `seen` units and `place` bytes have been passed. -/
def scanUnits (units : Nat) : Nat → Nat → List Char → Nat
  | _, place, [] => place
  | seen, place, c :: cs =>
    if units ≤ seen then place
    else scanUnits units (seen + unitsOf c) (place + c.utf8Size) cs

/-- The place of a column in a line, clamped to the end of the line. -/
def byteColumn (line : List Char) (column : Nat) : Nat := scanUnits (column - 1) 0 0 line

/-- The places at which lines start, the first of them at `place`. -/
def startsFrom (place : Nat) : List (List Char) → List Nat
  | [] => []
  | line :: later => place :: startsFrom (place + byteLength line + 1) later

namespace Source

def starts (src : Source) : List Nat := startsFrom 0 src.lines

/-- The place that a position names, clamped to the text. There is none if the line of the position is
missing in the table. -/
def offset? (src : Source) (p : Position) : Option Nat :=
  match src.line? p.line with
  | some line => src.starts[p.line - 1]?.map (· + byteColumn line p.column)
  | none => some (if p.line = 0 then 0 else byteLength src.text)

end Source
end LiveMarkup
