import LiveMarkup.Markdown.Container
import LiveMarkup.Markdown.Node

/-! # Tables

A table starts with a line of column heads and a line of dashes, colons and bars that gives the
alignment of the columns. Bars separate cells unless they are escaped.
-/
namespace LiveMarkup.Markdown

/-! ## The line of alignments -/

/-- What has been read of a line of alignments. -/
structure AlignmentLine where
  /-- The columns that are complete, last one first. -/
  columns : List Alignment := []
  current : Alignment := .unset
  fresh : Bool := true
  dashed : Bool := false
  bars : Bool := false
  dashes : Bool := false

/-- Reads one character of a line of alignments. A column that a bar ends has a dash. -/
def AlignmentLine.add? (a : AlignmentLine) (c : Char) : Option AlignmentLine :=
  if c = ' ' then some a
  else if c = ':' then
    let current := match a.fresh, a.current with
      | true, .unset => .left
      | false, .left => .center
      | false, .unset => .right
      | _, current => current
    some { a with current, fresh := false }
  else if c = '-' then some { a with fresh := false, dashed := true, dashes := true }
  else if c = '|' && a.dashed then
    some { a with
      columns := a.current :: a.columns, current := .unset, fresh := true, dashed := false,
      bars := true }
  else none

/-- The alignments of a line, which has a bar and a dash and is indented by three spaces at most. -/
def alignments? (line : List Char) : Option (List Alignment) :=
  let marks := line.dropWhile (· = ' ')
  if 3 < line.length - marks.length then none
  else
    let start : AlignmentLine := { bars := marks.head? = some '|' }
    let marks := if start.bars then marks.drop 1 else marks
    match marks.foldlM AlignmentLine.add? start with
    | none => none
    | some a =>
      let columns := if a.fresh then a.columns else a.current :: a.columns
      if a.bars && a.dashes && !columns.isEmpty then some columns.reverse else none

/-! ## The line of heads -/

/-- How many bars a line has that no backslash stands directly in front of, and what is behind the last
one. -/
def openBars (before : Char) : List Char → Nat × List Char
  | [] => (0, [])
  | c :: cs =>
    let (count, behind) := openBars c cs
    if c = '|' && before != '\\' then (count + 1, if count = 0 then cs else behind)
    else (count, behind)

/-- How many columns a line of heads has: one more than bars, but the bar in front of the first one and
the bar behind the last one separate none. -/
def headColumns (line : List Char) : Nat :=
  let (bars, behind) := openBars ' ' line
  let inner := if (line.dropWhile isSpace).head? = some '|' then bars - 1 else bars
  if bars = 0 then 0 else if behind.all isSpace then inner else inner + 1

/-- The columns of a table that starts with a line of heads, if the line of alignments follows in the
same containers, and the text behind. `behind` is what follows the line of heads. -/
def tableColumns? (containers : List Container) (heads behind : List Char) :
    Option (List Alignment × List Char) :=
  let columns := headColumns heads
  if columns = 0 then none
  else do
    let l ← enterAll? containers behind
    let (marks, _, rest) := splitLine l.rest
    let alignments ← alignments? marks
    if alignments.length = columns then some (alignments, rest) else none

/-! ## Cells -/

def cellText : List Char → List Char × List Char
  | [] => ([], [])
  | '\\' :: '\\' :: '|' :: cs =>
    let (cell, rest) := cellText cs
    ('\\' :: '\\' :: '|' :: cell, rest)
  | '\\' :: c :: cs =>
    if isMark c then
      let (cell, rest) := cellText cs
      ('\\' :: c :: cell, rest)
    else
      let (cell, rest) := cellText (c :: cs)
      ('\\' :: cell, rest)
  | c :: cs =>
    if c = '|' then ([], c :: cs)
    else
      let (cell, rest) := cellText cs
      (c :: cell, rest)

def trimSpacesEnd (text : List Char) : List Char := (text.reverse.dropWhile isSpace).reverse

/-- The cells of a line. A bar in front of the first one or behind the last one makes no cell. `before`
is the character in front of the line; the number bounds the count of cells. -/
def cellsWithin : Nat → Option Char → List Char → List Prose
  | 0, _, _ => []
  | fuel + 1, before, line =>
    let (before, line) := match line with
      | '|' :: line => (none, line)
      | line => (before, line)
    let content := line.dropWhile isSpace
    if content.isEmpty then []
    else
      let before := if content.length < line.length then some ' ' else before
      let (cell, rest) := cellText content
      { before, signs := signsOf (trimSpacesEnd cell), cell := true } :: cellsWithin fuel none rest

def cellsOf (before : Char) (line : List Char) : List Prose :=
  cellsWithin (line.length + 1) (some before) line

/-- Exactly as many cells as there are columns: more are dropped, missing ones are empty. -/
def fitRow (columns : Nat) (cells : List Prose) : List Prose :=
  cells.take columns ++
    List.replicate (columns - cells.length) { before := none, signs := [], cell := true }

end LiveMarkup.Markdown
