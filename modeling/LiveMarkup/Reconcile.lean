import LiveMarkup.Style
import LiveMarkup.Text.Entities

/-! # From a source and its tokens to markup

A pass walks over the source and the token list at once. Text that no token covers is copied, a token
is wrapped in the span of its class if the source really holds its text at the place reached, and is
dropped otherwise. The text inside the fragments of a pass is the source, unless a token is taken at a
position inside a character.
-/
namespace LiveMarkup

/-- A piece of highlighted text: bare, or wrapped in a span of a class. -/
inductive Fragment where
  | plain (text : List Char)
  | span (name : ClassName) (text : List Char)

namespace Fragment

def text : Fragment → List Char
  | plain text => text
  | span _ text => text

def openTag (name : ClassName) : List Char :=
  "<span class=\"".toList ++ name.text.toList ++ "\">".toList

def closeTag : List Char := "</span>".toList

def markup : Fragment → List Char
  | plain text => escape text
  | span name text => openTag name ++ escape text ++ closeTag

end Fragment

/-- The text from a position up to a later one, and the position reached.

The lines given are those of the source from the line of the position on. Whole line remainders are
taken while the target lies on a later line; on its own line the target's column is clamped to the
end of the line, and a target below the last line is clamped to the end of the source. -/
def textUpTo (target : Position) : List (List Char) → Position → List Char × Position
  | [], p => ([], p)
  | line :: later, p =>
    if p < target then
      let lineEnd := utf16Length line + 1
      let rest := charsBefore line (p.column - 1)
      if p.line < target.line then
        match later with
        | [] => (line.drop rest, ⟨p.line, lineEnd⟩)
        | _ :: _ =>
          let more := textUpTo target later ⟨p.line + 1, 1⟩
          (line.drop rest ++ '\n' :: more.1, more.2)
      else
        -- a character that the column lies inside of is taken whole, and the column stays
        let stop := min target.column lineEnd
        ((line.take (charsBefore line (stop - 1))).drop rest, ⟨p.line, stop⟩)
    else ([], p)

structure Pass where
  position : Position := .origin
  /-- What has been produced, last piece first. -/
  fragments : List Fragment := []
  /-- How many tokens were dropped because the source does not hold their text. -/
  rejected : Nat := 0

namespace Pass

/-- Copies the uncovered text up to a position, if it lies ahead. -/
def fillGap (src : Source) (pass : Pass) (target : Position) : Pass :=
  if pass.position < target then
    let gap := textUpTo target (src.linesFrom pass.position.line) pass.position
    { pass with position := gap.2, fragments := .plain gap.1 :: pass.fragments }
  else pass

/-- Whether the source holds the token's text at the position reached. -/
def accepts (src : Source) (pass : Pass) (token : Token) : Bool :=
  token.text.toList.isPrefixOf (src.text.drop (src.index pass.position))

/-- Takes a token at the position reached, or drops it. A token without text is passed over. -/
def emit (src : Source) (styles : StyleMap) (pass : Pass) (token : Token) : Pass :=
  if token.text = "" then pass
  else if pass.accepts src token then
    let text := token.text.toList
    let fragment := match styles.nameFor token.kind with
      | some name => .span name text
      | none => .plain text
    { pass with position := pass.position.after text, fragments := fragment :: pass.fragments }
  else { pass with rejected := pass.rejected + 1 }

def step (src : Source) (styles : StyleMap) (pass : Pass) (token : Token) : Pass :=
  (pass.fillGap src token.start).emit src styles token

def remainder (src : Source) (p : Position) : List Char :=
  match src.linesFrom p.line with
  | [] => []
  | line :: later => joinLines (line.drop (charsBefore line (p.column - 1)) :: later)

def run (src : Source) (styles : StyleMap) (tokens : List Token) : Pass :=
  tokens.foldl (step src styles) {}

/-- The fragments of a finished pass in order, the rest of the source included. -/
def finish (src : Source) (pass : Pass) : List Fragment :=
  (.plain (remainder src pass.position) :: pass.fragments).reverse

end Pass

def fragments (source : String) (tokens : List Token) (styles : StyleMap) : List Fragment :=
  let src := Source.ofText source.toList
  (Pass.run src styles tokens).finish src

def reconcile (source : String) (tokens : List Token) (styles : StyleMap) : String :=
  String.ofList ((fragments source tokens styles).flatMap Fragment.markup)

/-- How many passes over a source are made for its markup. -/
def passCount : Nat := 1

def rejectedCount (source : String) (tokens : List Token) (styles : StyleMap) : Nat :=
  (Pass.run (Source.ofText source.toList) styles tokens).rejected

end LiveMarkup
