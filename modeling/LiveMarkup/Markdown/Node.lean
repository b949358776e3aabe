import LiveMarkup.Markdown.Sign

/-! # Markdown documents

A document is a list of blocks. Blocks that hold running text keep it as it was written; the spans
inside are read when the document is shown.
-/
namespace LiveMarkup.Markdown

inductive Span where
  | text (content : List Char)
  | code (content : List Char)
  | tag (content : List Char)
  | softBreak
  | hardBreak
  | emphasis (children : List Span)
  | strong (children : List Span)
  | deleted (children : List Span)
  | link (destination title : List Char) (children : List Span)
  | image (source title : List Char) (children : List Span)
deriving Inhabited

inductive Alignment where
  | unset | left | center | right
deriving DecidableEq, Repr, Inhabited

inductive Block where
  /-- Running text; in a task of a list, with a mark that says whether it is done. -/
  | paragraph (done : Option Bool) (content : Prose)
  | heading (level : Nat) (done : Option Bool) (content : Prose)
  | task (done : Bool)
  | rule
  | code (info : List Char) (content : List Char)
  | markup (content : List Char)
  | quote (children : List Block)
  /-- A list, numbered if it has a first number; the paragraphs of a tight list are bare text. -/
  | list (start : Option Nat) (tight : Bool) (items : List Block)
  | item (children : List Block)
  | table (columns : List Alignment) (head : List Prose) (rows : List (List Prose))
deriving Inhabited

end LiveMarkup.Markdown
