import LiveMarkup.Markdown.Passage

/-! # Blocks without blocks inside

A block of code or markup, a heading and a table are read as a whole from the place where they start.
Each reader answers with the text behind the block. Lines of the block carry the marks of all
containers around it; the first line without them ends it.
-/
namespace LiveMarkup.Markdown

def Line.spaced (l : Line) (line : List Char) : List Char := List.replicate l.spaces ' ' ++ line

/-! ## Code -/

/-- The lines of indented code, each with a mark that says whether it is blank. The number bounds their
count. -/
def indentedLines (containers : List Container) :
    Nat → Line → List (List Char × Bool) × List Char
  | 0, l => ([], l.rest)
  | fuel + 1, l =>
    let (line, rest) := splitFeed l.rest
    let first := (l.spaced (shownLine line), (blankRest? l.rest).isSome)
    let goesOn? : Option Line := do
      let (missing, inner) := (← enterAll? containers rest).takeColumns 4
      if (missing = 0 || inner.atEnd) && !inner.rest.isEmpty then some inner else none
    match goesOn? with
    | none => ([first], rest)
    | some l =>
      let (more, rest) := indentedLines containers fuel l
      (first :: more, rest)

/-- The content of a fenced block from the start of a line on. Blanks as far as the fence was indented
go. The number bounds the count of lines. -/
def fencedText (containers : List Container) (mark : Char) (length indent : Nat) :
    Nat → List Char → List Char × List Char
  | 0, text => ([], text)
  | fuel + 1, text =>
    match enterAll? containers text with
    | none => ([], text)
    | some l =>
      let l := (l.takeColumns indent).2
      let (missing, inner) := l.takeColumns (4 - indent)
      match if missing = 0 then none else fenceEnd? mark length inner.rest with
      | some rest => ([], rest)
      | none =>
        let (line, rest) := splitFeed l.rest
        let (more, rest) := fencedText containers mark length indent fuel rest
        (l.spaced (shownLine line) ++ more, rest)

def fencedCode (containers : List Container) (mark : Char) (length indent : Nat)
    (text : List Char) : Block × List Char :=
  let (info, rest) := splitFeed text
  let info := trimSpacesEnd (info.filter fun c => !endsLine c)
  let (content, rest) := fencedText containers mark length indent (text.length + 2) rest
  (.code (unescape false (info.dropWhile isSpace)) content, rest)

/-! ## Markup -/

/-- The lines of a block of markup, the first of which has some blanks in front. The number bounds their
count. -/
def markupLines (containers : List Container) (stop : MarkupEnd) :
    Nat → Nat → List Char → List Char × List Char
  | 0, _, text => ([], text)
  | fuel + 1, indent, text =>
    let (line, rest) := splitFeed text
    let first := List.replicate indent ' ' ++ shownLine line
    let goesOn? : Option Line := do
      let inner ← enterAll? containers rest
      let ended := match stop with
        | .line word => occursIn word line
        | .blank => (blankRest? inner.rest).isSome
      if ended || inner.rest.isEmpty then none else some inner
    match goesOn? with
    | none => (first, rest)
    | some inner =>
      let (more, rest) := markupLines containers stop fuel inner.spaces inner.rest
      (first ++ more, rest)

/-! ## Headings -/

/-- The running text of a heading, given the text behind its marks up to the end of the line. Marks at
the end with a space in front of them close the heading. Blanks other than spaces behind the last piece
of the text belong to it only if that piece stands for itself. -/
def headingProse (text : List Char) : Prose :=
  let body := text.dropWhile isSpace
  let before := some ' '
  let content := (body.reverse.dropWhile (· = ' ')).reverse
  let front := (content.reverse.dropWhile (· = '#')).reverse
  let unspaced := (front.reverse.dropWhile (· = ' ')).reverse
  if front.isEmpty then { before, signs := [] }
  else if unspaced.length < front.length then { before, signs := signsOf unspaced }
  else
    let shown := trimSpacesEnd body
    { before, signs := signsOf shown, tail := content.drop shown.length }

def markedHeading (level : Nat) (text : List Char) : Block × List Char :=
  let (content, _, rest) := splitLine text
  (.heading level none (headingProse content), rest)

/-! ## Tables -/

/-- The rows of a table from the start of a line on; the number bounds their count. A line without cells
is no row. -/
def tableRows (containers : List Container) (columns : Nat) :
    Nat → List Char → List (List Prose) × List Char
  | 0, text => ([], text)
  | fuel + 1, text =>
    match enterAll? containers text with
    | none => ([], text)
    | some l =>
      let l := l.skipIndent
      let (line, _, rest) := splitLine l.rest
      let cells := cellsOf l.before line
      if interrupts true l.rest || cells.isEmpty then ([], text)
      else
        let (more, rest) := tableRows containers columns fuel rest
        (fitRow columns cells :: more, rest)

/-- The table that starts at a place. A line of heads that a backslash ends is none. -/
def table? (containers : List Container) (l : Line) : Option (Block × List Char) :=
  let (heads, ending, behind) := splitLine l.rest
  let slashes := (heads.reverse.takeWhile (· = '\\')).length
  if ending.isEmpty || (slashes % 2 = 1 && !behind.isEmpty) then none
  else (tableColumns? containers heads behind).map fun (columns, rest) =>
    let (rows, rest) := tableRows containers columns.length (rest.length + 1) rest
    (.table columns (fitRow columns.length (cellsOf l.before heads)) rows, rest)

end LiveMarkup.Markdown
