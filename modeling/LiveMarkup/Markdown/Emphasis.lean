import LiveMarkup.Markdown.Node

/-! # Emphasis

Running text is first split into spans and runs of emphasis marks. A run that can close emphasis is
matched with the nearest run before it that can open emphasis of the same mark; what is between them
becomes the content, and runs between them that found no partner are plain text. Of two matched runs
the shorter one is used up, two marks at a time from the inside out. Where a run of tildes found no
partner, later ones do not look for theirs in front of it.
-/
namespace LiveMarkup.Markdown

/-- A piece of running text in which emphasis has not been found yet. -/
inductive Piece where
  | span (s : Span)
  | run (mark : Char) (length : Nat) (opens closes : Bool)
  /-- A break of the line, with the characters it stands for where nothing follows. -/
  | hardBreak (written : List Char)
  /-- Text that belongs to the text in front of it, and goes where there is none. -/
  | tail (content : List Char)

/-- A run that may open emphasis, and what follows it. -/
structure Opener where
  mark : Char
  length : Nat
  count : Nat
  both : Bool
  /-- The spans behind the run, last one first. -/
  behind : List Span := []

def Opener.plain (o : Opener) : Span := .text (List.replicate o.count o.mark)

/-- The runs that may still open emphasis, innermost first, and the spans in front of them all. -/
structure OpenRuns where
  openers : List Opener := []
  /-- The spans in front of the outermost run, last one first. -/
  front : List Span := []
  /-- How many of the outermost runs are no partners for tildes. -/
  settled : Nat := 0

namespace OpenRuns

def behind (r : OpenRuns) : List Span :=
  match r.openers with
  | [] => r.front
  | o :: _ => o.behind

def push (r : OpenRuns) (s : Span) : OpenRuns :=
  match r.openers with
  | [] => { r with front := s :: r.front }
  | o :: outer => { r with openers := { o with behind := s :: o.behind } :: outer }

/-- Whether a closing run can be matched with an opening one. Two runs of which one could do both are
no match if their lengths add up to a multiple of three, unless both are such multiples. -/
def matches? (mark : Char) (length : Nat) (both : Bool) (o : Opener) : Bool :=
  o.mark = mark && (mark != '~' || o.length = length) &&
    ((!both && !o.both) || (length + o.length) % 3 != 0 || length % 3 = 0)

/-- Wraps spans into the emphasis of a number of marks, two at a time from the inside out. -/
def wrap (mark : Char) : Nat → List Span → List Span
  | 0, content => content
  | 1, content => [if mark = '~' then .deleted content else .emphasis content]
  | n + 2, content => wrap mark n [if mark = '~' then .deleted content else .strong content]

def candidates (r : OpenRuns) (mark : Char) : List Opener :=
  if mark = '~' then r.openers.take (r.openers.length - r.settled) else r.openers

/-- Closes emphasis with a run as long as it has marks left and finds partners. Answers with the
marks left; the first number bounds the steps. -/
def close (mark : Char) (length : Nat) (both : Bool) : Nat → Nat → OpenRuns → Nat × OpenRuns
  | 0, count, r => (count, r)
  | fuel + 1, count, r =>
    if count = 0 then (0, r)
    else
      let candidates := r.candidates mark
      let inner := candidates.takeWhile fun o => !matches? mark length both o
      match candidates.drop inner.length with
      | [] => (count, if mark = '~' then { r with settled := r.openers.length } else r)
      | o :: _ =>
        let outer := r.openers.drop (inner.length + 1)
        let content := (inner.flatMap fun i => i.behind ++ [i.plain]) ++ o.behind
        let used := min count o.count
        let found := wrap mark used content.reverse
        let rest : OpenRuns := { r with openers := outer, settled := min r.settled outer.length }
        let rest := if used < o.count then
            { rest with openers := { o with count := o.count - used, behind := found.reverse } :: outer }
          else found.foldl push rest
        close mark length both fuel (count - used) rest

def add (r : OpenRuns) : Piece → OpenRuns
  | .span s => r.push s
  | .run mark length opens closes =>
    let (left, r) := if closes then close mark length (opens && closes) length length r else (length, r)
    if left = 0 then r
    else if opens then
      { r with openers := { mark, length, count := left, both := opens && closes } :: r.openers }
    else r.push (.text (List.replicate left mark))
  | .hardBreak _ => r.push .hardBreak
  | .tail content =>
    match r.behind.head? with
    | some (.text _) => r.push (.text content)
    | _ => r

def spans (r : OpenRuns) : List Span :=
  ((r.openers.flatMap fun o => o.behind ++ [o.plain]) ++ r.front).reverse

end OpenRuns

def emphasize (pieces : List Piece) : List Span :=
  (pieces.foldl OpenRuns.add {}).spans

end LiveMarkup.Markdown
