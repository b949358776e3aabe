import LiveMarkup.Position

/-! # Tokens

A token carries its exact text and two coordinates: the line of its last character and the column of
its first. Where it starts is worked out from the line feeds in its text.
-/
namespace LiveMarkup

/-- What a token is. Tags outside the vocabulary are kept as they are. -/
inductive TokenKind where
  | openBracket | closeBracket | endKeyword | identifier | equal | value | text | thinArrow
  | openParen | closeParen | openAt | closeAt | colon | comma | semicolon | comment | escape
  | other (tag : String)
deriving DecidableEq, Repr

namespace TokenKind

def known : List TokenKind :=
  [openBracket, closeBracket, endKeyword, identifier, equal, value, text, thinArrow, openParen,
    closeParen, openAt, closeAt, colon, comma, semicolon, comment, escape]

def tag : TokenKind → String
  | openBracket => "OPEN_BRACKET"
  | closeBracket => "CLOSE_BRACKET"
  | endKeyword => "END_KEYWORD"
  | identifier => "IDENTIFIER"
  | equal => "EQUAL"
  | value => "VALUE"
  | text => "TEXT"
  | thinArrow => "THIN_ARROW"
  | openParen => "OPEN_PAREN"
  | closeParen => "CLOSE_PAREN"
  | openAt => "OPEN_AT"
  | closeAt => "CLOSE_AT"
  | colon => "COLON"
  | comma => "COMMA"
  | semicolon => "SEMICOLON"
  | comment => "COMMENT"
  | escape => "ESCAPE"
  | other tag => tag

/-- The kind with a given tag: one of the vocabulary, or `other`. -/
def ofTag (tag : String) : TokenKind :=
  match tag with
  | "OPEN_BRACKET" => openBracket
  | "CLOSE_BRACKET" => closeBracket
  | "END_KEYWORD" => endKeyword
  | "IDENTIFIER" => identifier
  | "EQUAL" => equal
  | "VALUE" => value
  | "TEXT" => text
  | "THIN_ARROW" => thinArrow
  | "OPEN_PAREN" => openParen
  | "CLOSE_PAREN" => closeParen
  | "OPEN_AT" => openAt
  | "CLOSE_AT" => closeAt
  | "COLON" => colon
  | "COMMA" => comma
  | "SEMICOLON" => semicolon
  | "COMMENT" => comment
  | "ESCAPE" => escape
  | tag => other tag

end TokenKind

/-- One lexical unit. The default is an untagged, empty token at line and column zero. -/
@[ext] structure Token where
  kind : TokenKind := .other ""
  text : String := ""
  /-- The line that holds the token's last character. -/
  endLine : Nat := 0
  /-- The column of the token's first character on its first line. -/
  startColumn : Nat := 0
deriving DecidableEq, Repr

namespace Token

def newlines (t : Token) : Nat := newlineCount t.text.toList

/-- The line of the first character; zero when the text holds more lines than its end allows. -/
def startLine (t : Token) : Nat := t.endLine - t.newlines

def start (t : Token) : Position := ⟨t.startLine, t.startColumn⟩

def startingAt (kind : TokenKind) (text : String) (line column : Nat) : Token :=
  ⟨kind, text, line + newlineCount text.toList, column⟩

end Token
end LiveMarkup
