import LiveMarkup.Markdown.BlockStart
import LiveMarkup.Markdown.Link
import LiveMarkup.Markdown.Table

/-! # Passages

A passage is what a paragraph at a place can take in: the lines up to one that is blank, starts another
block, or makes a heading of what stands in front. Lines without the marks of the containers around
belong to it too.
-/
namespace LiveMarkup.Markdown

structure PassageLine where
  lead : List Char
  content : List Char
  ending : List Char
  rest : List Char

inductive Following where
  | other
  | underline (level : Nat) (rest : List Char)
  | line (lead text : List Char)

/-- What follows a line, given the text behind it. A line that starts with a bar and starts a table
does not go on. -/
def following (containers : List Container) (text : List Char) : Following :=
  let (left, l) := enter containers { rest := text }
  let whole := left.isEmpty
  let (missing, inner) := l.takeColumns 4
  let startsTable :=
    let (content, ending, rest) := splitLine inner.rest
    inner.rest.head? = some '|' && !ending.isEmpty && (tableColumns? containers content rest).isSome
  let goesOn : Following :=
    if inner.skipIndent.atEnd then .other else .line l.front.reverse l.rest
  if missing = 0 then goesOn
  else match if whole then underline? inner.rest else none with
    | some (level, rest) => .underline level rest
    | none => if interrupts (!whole) inner.rest || startsTable then .other else goesOn

/-- A passage: its lines and, if it becomes a heading, the level and the text behind the underline. -/
structure Passage where
  lines : List PassageLine
  underline : Option (Nat × List Char)

/-- The passage of a text whose first line has no marks in front of it any more. The number bounds the
count of lines. -/
def passageWithin (containers : List Container) : Nat → List Char → List Char → Passage
  | 0, _, _ => ⟨[], none⟩
  | fuel + 1, lead, text =>
    let (content, ending, rest) := splitLine text
    let first : PassageLine := ⟨lead, content, ending, rest⟩
    match following containers rest with
    | .other => ⟨[first], none⟩
    | .underline level rest => ⟨[first], some (level, rest)⟩
    | .line lead text =>
      let more := passageWithin containers fuel lead text
      ⟨first :: more.lines, more.underline⟩

def Passage.at (containers : List Container) (text : List Char) : Passage :=
  passageWithin containers (text.length + 1) [] text

namespace Passage

def signsBehind (ending : List Char) : List PassageLine → List Sign
  | [] => []
  | l :: more => .lineBreak ending l.lead :: (signsOf l.content ++ signsBehind l.ending more)

def signs (p : Passage) : List Sign :=
  match p.lines with
  | [] => []
  | l :: more => signsOf l.content ++ signsBehind l.ending more

def restBehind (p : Passage) (lines : Nat) : List Char :=
  match p.lines[lines - 1]? with
  | some l => l.rest
  | none => []

/-- The running text of a passage, without the blanks at its end. `before` is the character in front. -/
def prose (p : Passage) (before : Char) : Prose :=
  { before := some before, signs := (p.signs.reverse.dropWhile Sign.isSpace).reverse }

/-- The definition that a passage starts with, and the text behind its last line. -/
def definition? (p : Passage) : Option ((List Char × Target) × List Char) :=
  (Markdown.definition? p.signs).map fun (found, rest) =>
    let linesLeft := (rest.filter fun s => !(s matches .char _)).length
    (found, p.restBehind (p.lines.length - linesLeft))

end Passage

end LiveMarkup.Markdown
