/-! # Lines of a text

A line feed ends a line and belongs to none: a text with `n` line feeds has `n + 1` lines, the last
one possibly empty.
-/
namespace LiveMarkup

/-- The lines of a text, without their line feeds. -/
def splitLines : List Char → List (List Char)
  | [] => [[]]
  | c :: cs =>
    if c = '\n' then [] :: splitLines cs
    else match splitLines cs with
      | [] => [[c]]
      | line :: later => (c :: line) :: later

theorem splitLines_ne_nil (s : List Char) : splitLines s ≠ [] := by
  cases s with
  | nil => simp [splitLines]
  | cons c s =>
    unfold splitLines
    split
    · simp
    · split <;> simp

/-- Lines put together again, with a line feed between any two. -/
def joinLines : List (List Char) → List Char
  | [] => []
  | [line] => line
  | line :: later => line ++ '\n' :: joinLines later

/-- The number of characters of lines, a line feed behind each of them included. -/
def totalLength : List (List Char) → Nat
  | [] => 0
  | line :: later => line.length + 1 + totalLength later

def newlineCount (s : List Char) : Nat := s.count '\n'

/-- The lines of a text with their line feeds; the last one may lack it, and no line is empty. -/
def linesWithEndings : List Char → List (List Char)
  | [] => []
  | c :: cs =>
    if c = '\n' then [c] :: linesWithEndings cs
    else match linesWithEndings cs with
      | [] => [[c]]
      | line :: later => (c :: line) :: later

end LiveMarkup
