import LiveMarkup.Text.Punctuation
import LiveMarkup.Markdown.Emphasis
import LiveMarkup.Markdown.Link
import LiveMarkup.Markdown.Tag

/-! # Running text

The spans of running text are found from left to right. Code, tags and addresses in angle brackets are
taken as soon as they start; brackets are kept until their partner comes and decides whether they make
a link; runs of emphasis marks are matched when the text around them is complete.
-/
namespace LiveMarkup.Markdown

/-! ## Runs of emphasis marks -/

/-- Whether a run of emphasis marks can open emphasis, given the characters around it. -/
def canOpen (mark : Char) (length : Nat) (before behind : Option Char) : Bool :=
  match behind with
  | none => false
  | some next =>
    if isBlank next then false
    else match before with
      | none => true
      | some previous =>
        (mark = '*' && !isPunctuation next) || (mark = '~' && 1 < length) ||
          (mark = '~' && previous = '~' && !isPunctuation next) ||
          isBlank previous || isPunctuation previous

/-- Whether a run of emphasis marks can close emphasis, given the characters around it. -/
def canClose (mark : Char) (length : Nat) (before behind : Option Char) : Bool :=
  match before with
  | none => false
  | some previous =>
    if isBlank previous then false
    else match behind with
      | none => true
      | some next =>
        ((mark = '*' || (mark = '~' && 1 < length)) && !isPunctuation previous) ||
          (mark = '~' && previous = '~') || isBlank next || isPunctuation next

/-! ## Code -/

/-- The signs in front of a run of exactly so many backticks, and those behind the run. `length` is
the number of backticks just passed; what comes first belongs to the content. -/
def codeEnd? (count : Nat) : Nat → List Sign → Option (List Sign × List Sign)
  | length, [] => if length = count then some ([], []) else none
  | length, s :: signs =>
    if s == .char '\x60' then (codeEnd? count (length + 1) signs).map fun r => (s :: r.1, r.2)
    else if length = count then some ([], s :: signs)
    else (codeEnd? count 0 signs).map fun r => (s :: r.1, r.2)

/-- The characters of code: the end of a line is a space for each of its characters, and in the cell of
a table a bar goes without the backslash in front of it. -/
def codeChars (cell : Bool) : List Sign → List Char
  | [] => []
  | .lineBreak ending _ :: signs => ending.map (fun _ => ' ') ++ codeChars cell signs
  | .char '\\' :: .char '|' :: signs =>
    if cell then '|' :: codeChars cell signs else '\\' :: '|' :: codeChars cell signs
  | .char c :: signs => c :: codeChars cell signs

/-- Code without one space at both ends, if both have one and there is more than spaces. -/
def trimCode (content : List Char) : List Char :=
  if content.head? = some ' ' && content.getLast? = some ' ' && content.any (· != ' ') then
    (content.drop 1).dropLast
  else content

/-- The content of code that is closed by a number of backticks, and the signs behind it. -/
def codeSpan? (cell : Bool) (count : Nat) (signs : List Sign) : Option (List Char × List Sign) :=
  if count = 0 then none
  else (codeEnd? count 0 signs).map fun r =>
    (trimCode (codeChars cell (r.1.take (r.1.length - count))), r.2)

/-! ## Reading -/

structure Bracket where
  image : Bool
  /-- Whether it may still start a link: a link holds no other link. -/
  active : Bool := true
  behind : List Sign
  /-- The pieces in front of the bracket, last one first. -/
  front : List Piece

def Bracket.plain (b : Bracket) : Piece := .span (.text (if b.image then ['!', '['] else ['[']))

structure Reading where
  rest : List Sign
  before : Option Char
  /-- How many blanks stand in front of them, at the start of a line. -/
  blanks : Nat := 0
  /-- Whether what was read last are characters that stand for themselves. -/
  plain : Bool := false
  /-- The pieces behind the innermost bracket, last one first. -/
  pieces : List Piece := []
  /-- The brackets, innermost first. -/
  brackets : List Bracket := []

namespace Reading

def goTo (r : Reading) (rest : List Sign) (last : Char) (plain : Bool) : Reading :=
  { r with rest, before := some last, blanks := 0, plain }

def piece (r : Reading) (p : Piece) : Reading := { r with pieces := p :: r.pieces }

def span (r : Reading) (s : Span) : Reading := r.piece (.span s)

def text (r : Reading) (content : List Char) (rest : List Sign) : Reading :=
  (r.span (.text content)).goTo rest (content.getLast?.getD ' ') true

def openBracket (r : Reading) (image : Bool) (rest : List Sign) : Reading :=
  { r with
    pieces := []
    brackets := { image, behind := rest, front := r.pieces } :: r.brackets }.goTo rest '[' true

/-- The target that a closing bracket finds, and the signs behind it all: in place, by the label behind
it, or by its own content. A label that follows decides alone, even if it has no definition. -/
def target? (definitions : Definitions) (cell : Bool) (content rest : List Sign) :
    Option (Target × List Sign) :=
  let own (behind : List Sign) : Option (Target × List Sign) :=
    match label? cell content with
    | some (label, close) =>
      if close.length = rest.length then (definitions.find? label).map fun t => (t, behind) else none
    | none => none
  match inPlaceTarget? cell rest with
  | some found => some found
  | none =>
    let start := match rest with
      | .char '\\' :: .char '[' :: more => Sign.char '[' :: more
      | _ => rest
    match start with
    | .char '[' :: .char ']' :: behind => own behind
    | .char '[' :: body =>
      match label? cell body with
      | some (label, behind) => (definitions.find? label).map fun t => (t, behind)
      | none => own rest
    | _ => own rest

/-- The pieces of a link, last one first: a break of the line at the end is none. -/
def enclosed : List Piece → List Piece
  | .hardBreak [] :: front => front
  | .hardBreak written :: front => .span (.text written) :: front
  | pieces => pieces

def closeBracket (definitions : Definitions) (cell : Bool) (r : Reading) (rest : List Sign) :
    Reading :=
  match r.brackets with
  | [] => r.text [']'] rest
  | b :: outer =>
    match if b.active then target? definitions cell b.behind rest else none with
    | none => { r with pieces := r.pieces ++ b.plain :: b.front, brackets := outer }.text [']'] rest
    | some (t, behind) =>
      let children := emphasize (enclosed r.pieces).reverse
      let last := if behind.length = rest.length then ']' else
        match (takenFrom rest behind).getLast? with
        | some (.char c) => c
        | _ => ']'
      let (found, outer) :=
        if b.image then (Span.image t.destination t.title children, outer)
        else
          (Span.link t.destination t.title children,
            outer.map fun o => if o.image then o else { o with active := false })
      ({ r with pieces := b.front, brackets := outer }.span found).goTo behind last false

def angle (r : Reading) (rest : List Sign) : Reading :=
  match rest with
  | .char '\\' :: _ => r.text ['<'] rest
  | _ =>
    match schemeAddress? rest with
    | some (address, rest) => (r.span (.link address [] [.text address])).goTo rest '>' false
    | none =>
      match mailAddress? rest with
      | some (address, rest) =>
        (r.span (.link ("mailto:".toList ++ address) [] [.text address])).goTo rest '>' false
      | none =>
        match inlineTag? rest with
        | some (content, rest) => (r.span (.tag content)).goTo rest '>' false
        | none => r.text ['<'] rest

/-- Reads backticks; an escaped one in front of them stands for itself and opens no code, though it
counts where code ends. -/
def ticks (cell escaped : Bool) (r : Reading) (signs : List Sign) : Reading :=
  let count := (signs.takeWhile (· == .char '\x60')).length
  let first := if escaped then 1 else 0
  let behind := signs.drop count
  match codeSpan? cell (count - first) behind with
  | some (content, rest) =>
    let r := if escaped then r.span (.text ['\x60']) else r
    (r.span (.code content)).goTo rest '\x60' false
  | none => r.text (List.replicate count '\x60') behind

def marks (mark : Char) (r : Reading) (signs : List Sign) : Reading :=
  let count := (signs.takeWhile (· == .char mark)).length
  let behind := signs.drop count
  let next := match behind.head? with
    | some (.char c) => some c
    | some (.lineBreak _ _) => some '\n'
    | none => none
  let opens := canOpen mark count r.before next
  let closes := canClose mark count r.before next
  if (opens || closes) && (mark != '~' || count ≤ 2) then
    (r.piece (.run mark count opens closes)).goTo behind mark true
  else r.text (List.replicate count mark) behind

/-- Goes on with the next line. The blanks that indent it belong to no span. -/
def newLine (r : Reading) (ending lead : List Char) (rest : List Sign) : Reading :=
  let indent := rest.takeWhile Sign.isIndent
  let front := (ending ++ lead ++ indent.flatMap Sign.raw).reverse
  { r with
    rest := rest.drop indent.length
    before := some (front.head?.getD '\n')
    blanks := (front.takeWhile isSpace).length
    plain := false }

/-- Reads blanks inside a line. In front of the end of the line they vanish, and two of them break the
line. -/
def spaces (r : Reading) (signs : List Sign) : Reading :=
  let run := (signs.takeWhile Sign.isSpace).flatMap Sign.raw
  match signs.drop run.length with
  | .lineBreak ending lead :: rest =>
    (r.piece (if 2 ≤ r.blanks + run.length then .hardBreak [] else .span .softBreak)).newLine ending
      lead rest
  | rest => r.text run rest

def backslash (cell : Bool) (r : Reading) (rest : List Sign) : Reading :=
  match rest with
  | .lineBreak ending lead :: rest => (r.piece (.hardBreak ['\\'])).newLine ending lead rest
  | .char c :: behind =>
    if c = '\x60' then r.ticks cell true rest
    else if cell && c = '\\' && behind.head? == some (.char '|') then r.text ['|'] (behind.drop 1)
    else if isMark c then r.text [c] behind
    else r.text ['\\'] rest
  | [] => r.text ['\\'] []

def step (definitions : Definitions) (cell : Bool) (r : Reading) : Reading :=
  match r.rest with
  | [] => r
  | .lineBreak ending lead :: rest => (r.span .softBreak).newLine ending lead rest
  | .char c :: rest =>
    if c = '\\' then r.backslash cell rest
    else if c = '&' then
      match signReference? rest with
      | some (cs, rest) => (r.span (.text cs)).goTo rest ';' false
      | none => r.text [c] rest
    else if c = '\x60' then r.ticks cell false (.char c :: rest)
    else if c = '<' then r.angle rest
    else if c = '[' then r.openBracket false rest
    else if c = '!' then
      match rest with
      | .char '[' :: rest => r.openBracket true rest
      | _ => r.text [c] rest
    else if c = ']' then r.closeBracket definitions cell rest
    else if c = '*' || c = '_' || c = '~' then r.marks c (.char c :: rest)
    else if isSpace c then r.spaces (.char c :: rest)
    else r.text [c] rest

/-- Reads to the end; the number bounds the steps. -/
def run (definitions : Definitions) (cell : Bool) : Nat → Reading → Reading
  | 0, r => r
  | fuel + 1, r =>
    if r.rest.isEmpty then r else run definitions cell fuel (r.step definitions cell)

def finish (r : Reading) (tail : List Char) : List Piece :=
  let pieces := r.brackets.foldl (fun pieces b => pieces ++ b.plain :: b.front) r.pieces
  (if r.plain && !tail.isEmpty then .tail tail :: pieces else pieces).reverse

end Reading

def spansOf (definitions : Definitions) (p : Prose) : List Span :=
  let start : Reading := { rest := p.signs, before := p.before }
  emphasize ((start.run definitions p.cell p.signs.length).finish p.tail)

end LiveMarkup.Markdown
