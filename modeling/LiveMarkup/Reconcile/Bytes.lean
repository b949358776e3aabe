import LiveMarkup.Position.Advance
import LiveMarkup.Position.Offset
import LiveMarkup.Reconcile

/-! # The pass over stored text

The pass as it goes over a text in memory: a position is two machine words, the place it names is looked
up in the table of the lines, and text is cut out between two places. A cut inside a character or in the
wrong order, a line that the table does not have, and a sum that does not fit into a word end the pass
without a result.
-/
namespace LiveMarkup

/-- The escaped form of a text, of which the last characters are still to be looked at: stretches
without a reserved character are cut out whole. The next stretch starts at `last`, and the next
character at `place`. -/
def escapeCuts? (text : List Char) (last place : Nat) : List Char → Option (List Char)
  | [] => dropBytes? text last
  | c :: cs => match entityOf c with
    | some entity => do
      let stretch ← cutBytes? text last place
      let rest ← escapeCuts? text (place + 1) (place + c.utf8Size) cs
      some (stretch ++ entity ++ rest)
    | none => escapeCuts? text last (place + c.utf8Size) cs

/-- The start of the next line. -/
def Position.nextLine? (p : Position) : Option Position :=
  (addWord? p.line 1).map fun line => ⟨line, 1⟩

theorem Position.line_of_nextLine? {p q : Position} (h : p.nextLine? = some q) :
    q.line = p.line + 1 := by
  obtain ⟨line, hline, rfl⟩ := Option.map_eq_some_iff.1 h
  exact (addWord?_eq_some_iff.1 hline).2.symm

theorem Source.le_length_of_line? {src : Source} {n : Nat} {line : List Char}
    (h : src.line? n = some line) : n ≤ src.lines.length := by
  by_cases hn : n = 0
  · exact hn ▸ Nat.zero_le _
  · rw [line?, if_neg hn] at h
    have := (List.getElem?_eq_some_iff.1 h).1
    omega

structure BytePass where
  position : Position := .origin
  /-- The positions gone through before, last one first. -/
  trail : List Position := []
  markup : List Char := []
  rejected : Nat := 0

namespace BytePass

def moveTo (pass : BytePass) (p : Position) : BytePass :=
  { pass with position := p, trail := pass.position :: pass.trail }

def write (pass : BytePass) (markup : List Char) : BytePass :=
  { pass with markup := pass.markup ++ markup }

/-- Writes the escaped form of a text. -/
def copy? (pass : BytePass) (text : List Char) : Option BytePass :=
  (escapeCuts? text 0 0 text).map pass.write

/-- Copies the text up to a position that lies ahead, line by line. -/
def fillGap? (src : Source) (target : Position) (pass : BytePass) : Option BytePass :=
  if pass.position < target then
    match src.line? pass.position.line with
    | none => some pass
    | some line => do
      let lineEnd ← addWord? (utf16Length line) 1
      if pass.position.line < target.line then
        let rest ← dropBytes? line (byteColumn line pass.position.column)
        let copied ← pass.copy? rest
        if pass.position.line < src.lines.length then
          match _ : pass.position.nextLine? with
          | none => none
          | some next => fillGap? src target ((copied.write ['\n']).moveTo next)
        else some (copied.moveTo ⟨pass.position.line, lineEnd⟩)
      else
        let stop := min target.column lineEnd
        let gap ← cutBytes? line (byteColumn line pass.position.column) (byteColumn line stop)
        let copied ← pass.copy? gap
        some (copied.moveTo ⟨pass.position.line, stop⟩)
  else some pass
termination_by src.lines.length - pass.position.line
decreasing_by
  have hnext : _ = pass.position.line + 1 := Position.line_of_nextLine? ‹_›
  simp only [moveTo, hnext]
  omega

/-- Writes a token, in the span of its class if it has one. -/
def writeToken? (styles : StyleMap) (pass : BytePass) (token : Token) : Option BytePass :=
  match styles.nameFor token.kind with
  | some name =>
    ((pass.write (Fragment.openTag name)).copy? token.text.toList).map (·.write Fragment.closeTag)
  | none => pass.copy? token.text.toList

/-- Takes a token at the position reached, or drops it. A token without text is passed over. -/
def emit? (src : Source) (styles : StyleMap) (pass : BytePass) (token : Token) : Option BytePass :=
  if token.text = "" then some pass
  else do
    let place ← src.offset? pass.position
    let rest ← dropBytes? src.text place
    if token.text.toList.isPrefixOf rest then
      let written ← pass.writeToken? styles token
      let next ← pass.position.advance? token.text.toList
      some (written.moveTo next)
    else some { pass with rejected := pass.rejected + 1 }

def step? (src : Source) (styles : StyleMap) (pass : BytePass) (token : Token) :
    Option BytePass := do
  (← pass.fillGap? src token.start).emit? src styles token

def run? (src : Source) (styles : StyleMap) (tokens : List Token) : Option BytePass :=
  tokens.foldlM (step? src styles) {}

/-- Copies the rest of the source, line by line. -/
def flush? (src : Source) (pass : BytePass) : Option BytePass :=
  match _ : src.line? pass.position.line with
  | none => some pass
  | some line => do
    let rest ← dropBytes? line (byteColumn line pass.position.column)
    let copied ← pass.copy? rest
    let written := if pass.position.line < src.lines.length then copied.write ['\n'] else copied
    match _ : pass.position.nextLine? with
    | none => none
    | some next => flush? src (written.moveTo next)
termination_by src.lines.length + 1 - pass.position.line
decreasing_by
  have hnext : _ = pass.position.line + 1 := Position.line_of_nextLine? ‹_›
  have hle : pass.position.line ≤ src.lines.length := Source.le_length_of_line? ‹_›
  simp only [moveTo, hnext]
  omega

end BytePass
end LiveMarkup
