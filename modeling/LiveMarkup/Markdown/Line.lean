import LiveMarkup.Markdown.Escape

/-! # Places in a document

The text behind a place is read from left to right. A tab fills up to the next multiple of four
columns, counted from the start of the line or from the tab before it; where only a part of a tab is
used up, the rest of it is left as spaces.
-/
namespace LiveMarkup.Markdown

/-! ## Lines of a text -/

/-- The end of a line at the start of a text, and the text behind it. The end of the text ends a line
too. -/
def lineEnd? : List Char → Option (List Char × List Char)
  | [] => some ([], [])
  | '\r' :: '\n' :: rest => some (['\r', '\n'], rest)
  | c :: rest => if endsLine c then some ([c], rest) else none

def blankRest? (text : List Char) : Option (List Char) :=
  (lineEnd? (text.dropWhile isSpace)).map (·.2)

def splitLine (text : List Char) : List Char × List Char × List Char :=
  let content := text.takeWhile fun c => !endsLine c
  match lineEnd? (text.drop content.length) with
  | some (ending, rest) => (content, ending, rest)
  | none => (content, [], [])

/-- A text up to its first line feed, which belongs to it, and the text behind. -/
def splitFeed : List Char → List Char × List Char
  | [] => ([], [])
  | c :: cs =>
    if c = '\n' then ([c], cs)
    else
      let (line, rest) := splitFeed cs
      (c :: line, rest)

/-- A line of code or markup as it is shown: a carriage return in front of its last character goes. -/
def shownLine (line : List Char) : List Char :=
  match line.reverse with
  | last :: '\r' :: front => front.reverse ++ [last]
  | _ => line

/-! ## Places -/

structure Line where
  rest : List Char
  /-- What stands in front of the place on its line, last character first. -/
  front : List Char := []
  /-- How many characters there are since the start of the line or the last tab. -/
  column : Nat := 0
  /-- The columns that are left of a tab in front of the place. -/
  spaces : Nat := 0

/-- Takes columns of blanks from a text that has no rest of a tab in front. Answers with the columns
that are missing and the place behind. -/
def takeBlanks (wanted column : Nat) (front : List Char) : List Char → Nat × Line
  | [] => (wanted, ⟨[], front, column, 0⟩)
  | c :: cs =>
    if wanted = 0 then (0, ⟨c :: cs, front, column, 0⟩)
    else if c = ' ' then takeBlanks (wanted - 1) (column + 1) (c :: front) cs
    else if c = '\t' then
      let width := 4 - column % 4
      if wanted < width then (0, ⟨cs, c :: front, 0, width - wanted⟩)
      else takeBlanks (wanted - width) 0 (c :: front) cs
    else (wanted, ⟨c :: cs, front, column, 0⟩)

namespace Line

/-- Takes columns of blanks. Answers with the columns that are missing and the place behind. -/
def takeColumns (wanted : Nat) (l : Line) : Nat × Line :=
  if wanted ≤ l.spaces then (0, { l with spaces := l.spaces - wanted })
  else takeBlanks (wanted - l.spaces) l.column l.front l.rest

/-- The place behind some characters. What is left of a tab in front of them stays. -/
def advance (n : Nat) (l : Line) : Line :=
  { l with
    rest := l.rest.drop n
    front := (l.rest.take n).reverse ++ l.front
    column := l.column + n }

def skipIndent (l : Line) : Line :=
  { l.advance (l.rest.takeWhile isIndent).length with spaces := 0 }

def atEnd (l : Line) : Bool := (lineEnd? l.rest).isSome

/-- The character in front of the place; a line feed at the start of a line. -/
def before (l : Line) : Char := l.front.head?.getD '\n'

end Line

end LiveMarkup.Markdown
