import LiveMarkup.Markdown.Leaf

/-! # The blocks of a document

Blocks are found from the start of a line on. The outline keeps the containers that are open, innermost
first. A line first enters the open containers whose marks it carries, and the others are closed; then
it may open new containers; what is left starts a block that is read as a whole.
-/
namespace LiveMarkup.Markdown

structure Frame where
  container : Container
  /-- The blocks inside, last one first. -/
  children : List Block := []
  loose : Bool := false

structure Outline where
  /-- The open containers, innermost first. -/
  frames : List Frame := [{ container := .document }]
  blank : Bool := false
  /-- Whether an item has just begun whose first line holds nothing but marks. -/
  begun : Bool := false
  definitions : Definitions := []

namespace Outline

def containers (o : Outline) : List Container := (o.frames.map Frame.container).reverse

def push (o : Outline) (b : Block) : Outline :=
  match o.frames with
  | [] => o
  | f :: outer => { o with frames := { f with children := b :: f.children } :: outer }

def openFrame (o : Outline) (container : Container) : Outline :=
  { o with frames := { container } :: o.frames }

/-! ## Closing containers -/

/-- Closes the innermost container. With a tight list ends also what it has begun. -/
def closeFrame (o : Outline) : Outline :=
  match o.frames with
  | f :: outer@(_ :: _) =>
    let rest := { o with frames := outer }
    let children := f.children.reverse
    match f.container with
    | .document => o
    | .quote => rest.push (.quote children)
    | .list start _ => { rest with begun := rest.begun && f.loose }.push (.list start (!f.loose) children)
    | .item _ => rest.push (.item children)
  | _ => o

def closeFrames (o : Outline) (count : Nat) : Outline := Nat.repeat closeFrame count o

/-- Closes an item that has begun with an empty line if another one follows: an item can start with one
blank line only. -/
def finishEmptyItem (o : Outline) : Outline :=
  let o := match o.frames with
    | f :: _ => if o.begun && o.blank && f.container.isItem then o.closeFrame else o
    | [] => o
  { o with begun := false }

/-- Makes room for a block that is no item of the innermost list: the list ends. If a blank line is in
front of the block and the block belongs to an item, the list around it is loose. -/
def finishList (o : Outline) : Outline :=
  let o := o.finishEmptyItem
  let o := match o.frames with
    | f :: _ => if f.container.isList then o.closeFrame else o
    | [] => o
  let o := match o.frames with
    | f :: outer :: more =>
      if o.blank && outer.container.isList then
        { o with frames := f :: { outer with loose := true } :: more }
      else o
    | _ => o
  { o with blank := false }

/-- Opens an item, in the list at hand if it has the same mark or in a new one. A blank line in front of
the item makes the list loose. -/
def openItem (o : Outline) (start : Option Nat) (mark : Char) (indent : Nat) : Outline :=
  let o := o.finishEmptyItem
  let startsList := match o.frames with
    | f :: _ => match f.container with
      | .list _ m => m != mark
      | _ => true
    | [] => true
  let o := if startsList then o.finishList.openFrame (.list start mark) else o
  let o := match o.frames with
    | f :: outer => { o with frames := { f with loose := f.loose || o.blank } :: outer, blank := false }
    | [] => o
  o.openFrame (.item indent)

/-! ## Blocks -/

/-- Takes note of a blank line. In a quote it means nothing. An item that has begun with an empty line
and holds nothing yet takes in lines however they are indented, so that the next one can end it. -/
def blankLine (o : Outline) : Outline :=
  match o.frames with
  | [] => { o with blank := true }
  | f :: outer =>
    match f.container with
    | .quote => o
    | .item _ =>
      let f := if o.begun then { f with container := .item 0 } else f
      { o with frames := f :: outer, blank := true }
    | _ => { o with blank := true }

def text (o : Outline) (done : Option Bool) (l : Line) : Outline × List Char :=
  match table? o.containers l with
  | some (table, rest) => (o.push table, rest)
  | none =>
    let p := Passage.at o.containers l.rest
    let prose := p.prose l.before
    match p.underline with
    | some (level, rest) => (o.push (.heading level done prose), rest)
    | none => (o.push (.paragraph done prose), p.restBehind p.lines.length)

def define? (o : Outline) (l : Line) : Option (Outline × List Char) :=
  (Passage.at o.containers l.rest).definition?.map fun (found, rest) =>
    ({ o with definitions := o.definitions ++ [found] }, rest)

/-- Reads indented code behind the blanks that make it code. Blank lines at its end go. -/
def indentedCode (o : Outline) (l : Line) : Outline × List Char :=
  let (lines, rest) := indentedLines o.containers (l.rest.length + 1) l
  let content := (lines.reverse.dropWhile Prod.snd).reverse.flatMap Prod.fst
  ({ o with blank := (lines.getLast?.map Prod.snd).getD false }.push (.code [] content), rest)

def markupStart? (text : List Char) : Option MarkupEnd :=
  match text with
  | '<' :: rest => strongMarkupStart? rest <|> weakMarkupStart? rest
  | _ => none

def block (o : Outline) (l : Line) : Outline × List Char :=
  match blankRest? l.rest with
  | some rest => (o.blankLine, rest)
  | none =>
    let o := o.finishList
    let (missing, inner) := l.takeColumns 4
    let indent := 4 - missing
    let text := inner.rest
    if missing = 0 then o.indentedCode inner
    else match markupStart? text with
    | some stop =>
      let (content, rest) :=
        markupLines o.containers stop (text.length + 1) (max l.spaces indent) text
      (o.push (.markup content), rest)
    | none =>
      match rule? text, headingLevel? text, fence? text with
      | some rest, _, _ => (o.push .rule, rest)
      | none, some level, _ =>
        let (b, rest) := markedHeading level (text.drop level)
        (o.push b, rest)
      | none, none, some (mark, length) =>
        let (b, rest) := fencedCode o.containers mark length indent (text.drop length)
        (o.push b, rest)
      | none, none, none =>
        match if text.head? = some '[' then o.define? inner else none with
        | some found => found
        | none => o.text none inner

/-- Opens an item behind its marker, which is indented by some columns. Answers with the place where its
content starts, or with the text behind the line if there is none. -/
def openMarked (o : Outline) (indent : Nat) (m : Marker) : Outline × (Line ⊕ List Char) :=
  let indent := indent + m.width + 1
  match blankRest? m.behind.rest with
  | some rest => ({ o.openItem m.start m.mark indent with begun := true }, .inr rest)
  | none =>
    let (missing, inner) := m.behind.takeColumns 4
    if missing = 0 then (o.openItem m.start m.mark indent, .inl m.behind)
    else (o.openItem m.start m.mark (indent + (4 - missing)), .inl inner)

/-- Reads a task behind its mark. Its text starts no block. -/
def task (o : Outline) (done : Bool) (l : Line) : Outline × List Char :=
  match blankRest? l.rest with
  | some rest => ({ o with begun := true }.push (.task done), rest)
  | none => o.text (some done) l.skipIndent

/-- Opens the containers that a line starts and reads the block behind them. The number bounds the count
of containers. -/
def openBlocks : Nat → Outline → Line → Outline × List Char
  | 0, o, l => o.block l
  | fuel + 1, o, l =>
    let (missing, inner) := l.takeColumns 4
    if missing = 0 then o.block l
    else match marker? inner with
    | some m =>
      match o.openMarked (4 - missing) m with
      | (o, .inr rest) => (o, rest)
      | (o, .inl l) =>
        match task? l with
        | some (done, l) => o.task done l
        | none => openBlocks fuel o l
    | none =>
      if inner.rest.head? = some '>' then
        openBlocks fuel (o.finishList.openFrame .quote) ((inner.advance 1).takeColumns 1).2
      else o.block l

/-- Reads from the start of a line on. Answers with the text behind what was read. -/
def step (o : Outline) (text : List Char) : Outline × List Char :=
  let (left, l) := enter o.containers { rest := text }
  (o.closeFrames left.length).openBlocks (text.length + 1) l

/-- Reads to the end of a text; the number bounds the steps. -/
def run : Nat → Outline → List Char → Outline
  | 0, o, _ => o
  | fuel + 1, o, text =>
    if text.isEmpty then o
    else
      let (o, rest) := o.step text
      run fuel o rest

end Outline

/-- A document: its blocks, and the definitions of its labels. -/
structure Document where
  blocks : List Block
  definitions : Definitions

def Document.ofText (text : List Char) : Document :=
  let o := Outline.run (text.length + 1) {} text
  let o := o.closeFrames o.frames.length
  ⟨(o.frames.flatMap Frame.children).reverse, o.definitions⟩

end LiveMarkup.Markdown
