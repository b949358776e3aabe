import LiveMarkup.Markdown.Escape

/-! # Running text as it is written

Running text goes over several lines of a document. Between two lines stand the end of the first one
and the marks of the containers that the second one carries. What is read from running text is found
among these signs; a reader answers with what it found and the signs behind it.
-/
namespace LiveMarkup.Markdown

inductive Sign where
  | char (c : Char)
  /-- The end of a line, and the marks of containers at the start of the next one. -/
  | lineBreak (ending lead : List Char)
deriving BEq, Repr, Inhabited

namespace Sign

def isSpace : Sign → Bool
  | char c => Markdown.isSpace c
  | lineBreak _ _ => false

def isIndent : Sign → Bool
  | char c => Markdown.isIndent c
  | lineBreak _ _ => false

def isWhite : Sign → Bool
  | char c => Markdown.isSpace c
  | lineBreak _ _ => true

def raw : Sign → List Char
  | char c => [c]
  | lineBreak ending lead => ending ++ lead

def text : Sign → List Char
  | char c => [c]
  | lineBreak ending _ => ending

end Sign

def signsOf (text : List Char) : List Sign := text.map .char

/-- The characters up to the first end of a line, but not more than some. -/
def leadingChars : Nat → List Sign → List Char
  | n + 1, .char c :: signs => c :: leadingChars n signs
  | _, _ => []

/-- The reference at the start of some signs, behind its ampersand: the characters it stands for and
the signs behind it. No reference has more than forty characters. -/
def signReference? (signs : List Sign) : Option (List Char × List Sign) :=
  (reference? (leadingChars 40 signs)).map fun r => (r.1, signs.drop r.2)

def skipOneBreak (signs : List Sign) : List Sign :=
  match signs.dropWhile Sign.isSpace with
  | .lineBreak _ _ :: rest => rest.dropWhile Sign.isSpace
  | rest => rest

def takenFrom (start behind : List Sign) : List Sign := start.take (start.length - behind.length)

structure Prose where
  /-- The character in front of the text, if it counts: at the start of a document and behind the bar
  of a table there is none. -/
  before : Option Char
  signs : List Sign
  cell : Bool := false
  /-- What belongs to the text only if the text ends in characters that stand for themselves. -/
  tail : List Char := []
deriving Inhabited

end LiveMarkup.Markdown
