import LiveMarkup.Markdown.Line
import LiveMarkup.Markdown.Tag

/-! # How blocks start

What stands at the start of a line, behind the marks of containers and at most three columns of
blanks, decides which block the line starts. A reader is given the text from there on.
-/
namespace LiveMarkup.Markdown

/-- The text behind a rule of a mark, of which so many have been passed: three or more, and blanks. -/
def ruleOf? (mark : Char) : Nat → List Char → Option (List Char)
  | count, [] => if 3 ≤ count then some [] else none
  | count, c :: cs =>
    if c = mark then ruleOf? mark (count + 1) cs
    else if isIndent c then ruleOf? mark count cs
    else if endsLine c && 3 ≤ count then (lineEnd? (c :: cs)).map (·.2)
    else none

def rule? (text : List Char) : Option (List Char) :=
  match text with
  | [] => none
  | mark :: _ => if mark = '*' || mark = '-' || mark = '_' then ruleOf? mark 0 text else none

def headingLevel? (text : List Char) : Option Nat :=
  let level := (text.takeWhile (· = '#')).length
  let closed := match text.drop level with
    | [] => true
    | c :: _ => isSpace c || endsLine c
  if 1 ≤ level && level ≤ 6 && closed then some level else none

/-- The mark and the length of an opening fence. Behind backticks no other may stand on the line. -/
def fence? (text : List Char) : Option (Char × Nat) :=
  match text with
  | [] => none
  | mark :: _ =>
    let length := (text.takeWhile (· = mark)).length
    let info := (splitFeed (text.drop length)).1
    if (mark = '\x60' && !info.contains '\x60' || mark = '~') && 3 ≤ length then
      some (mark, length)
    else none

/-- The text behind a closing fence. The end of the document closes too. -/
def fenceEnd? (mark : Char) (length : Nat) (text : List Char) : Option (List Char) :=
  let run := (text.takeWhile (· = mark)).length
  if text.isEmpty then some []
  else if run < length then none
  else (lineEnd? ((text.drop run).dropWhile (· = ' '))).map (·.2)

/-- The level of the heading that a line makes of the paragraph before it, and the text behind. -/
def underline? (text : List Char) : Option (Nat × List Char) :=
  match text with
  | [] => none
  | mark :: _ =>
    if mark = '=' || mark = '-' then
      (blankRest? (text.dropWhile (· = mark))).map fun rest => (if mark = '=' then 1 else 2, rest)
    else none

structure Marker where
  /-- The first number of the list, if the marker has one. -/
  start : Option Nat
  mark : Char
  width : Nat
  behind : Line

/-- The marker at a place. A rule is none. -/
def marker? (l : Line) : Option Marker :=
  let digits := l.rest.takeWhile Char.isDigit
  match l.rest.drop digits.length with
  | [] => none
  | mark :: _ =>
    let numbered := !digits.isEmpty
    let fits :=
      if numbered then digits.length ≤ 9 && (mark = '.' || mark = ')')
      else (mark = '-' || mark = '+' || mark = '*') && (rule? l.rest).isNone
    let width := digits.length + 1
    let (missing, behind) := (l.advance width).takeColumns 1
    if fits && (missing = 0 || behind.atEnd) then
      let start := if numbered then some (numberOf 10 (digits.map fun c => c.toNat - 48)) else none
      some { start, mark, width, behind }
    else none

/-- The mark of a task at the start of an item, and the place behind it. A blank must follow. -/
def task? (l : Line) : Option (Bool × Line) :=
  let inner := (l.takeColumns 3).2
  match inner.rest with
  | '[' :: c :: ']' :: s :: _ =>
    if !isSpace s then none
    else if isSpace c then some (false, inner.advance 3)
    else if c = 'x' || c = 'X' then some (true, inner.advance 3)
    else none
  | _ => none

/-- Whether a line can start an item in the middle of other text: in a table, or where marks of
containers are missing, any item can; in a paragraph the item is not empty, and the first of its list
has the number one. -/
def interruptsAsItem (anyItem : Bool) (text : List Char) : Bool :=
  match marker? { rest := text } with
  | none => false
  | some m => anyItem || (m.start.all (· = 1) && (blankRest? m.behind.rest).isNone)

def interrupts (anyItem : Bool) (text : List Char) : Bool :=
  (lineEnd? text).isSome || (rule? text).isSome || (headingLevel? text).isSome ||
    (fence? text).isSome || text.head? = some '>' || interruptsAsItem anyItem text ||
    (match text with
      | '<' :: rest => (strongMarkupStart? rest).isSome
      | _ => false)

end LiveMarkup.Markdown
