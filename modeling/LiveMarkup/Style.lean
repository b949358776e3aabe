import LiveMarkup.Token
import LiveMarkup.Text.Quoted

/-! # Presentation classes

A token kind belongs to at most one of six classes, and a style map names each class in markup. A
name goes into an attribute value unescaped, so only letters, digits, `_` and `-` are let through.
-/
namespace LiveMarkup

/-- The presentation classes of the live editor. -/
inductive StyleClass where
  | operator | keyword | identifier | value | text | comment
deriving DecidableEq, Repr

namespace StyleClass

def all : List StyleClass := [operator, keyword, identifier, value, text, comment]

def key : StyleClass → String
  | operator => "operator"
  | keyword => "keyword"
  | identifier => "identifier"
  | value => "value"
  | text => "text"
  | comment => "comment"

def ofKey? (key : String) : Option StyleClass := all.find? fun c => c.key = key

/-- The class of a token kind; a tag outside the vocabulary has none. -/
def ofKind? : TokenKind → Option StyleClass
  | .openBracket | .closeBracket | .equal | .thinArrow | .openParen | .closeParen | .openAt
  | .closeAt | .colon | .comma | .semicolon | .escape => some operator
  | .endKeyword => some keyword
  | .identifier => some identifier
  | .value => some value
  | .text => some text
  | .comment => some comment
  | .other _ => none

end StyleClass

def isNameChar (c : Char) : Bool := c.isAlphanum || c = '_' || c = '-'

/-- A class name that needs no escaping in an attribute value. -/
structure ClassName where
  text : String
  valid : (text != "" && text.toList.all isNameChar) = true
deriving DecidableEq

namespace ClassName

/-- Accepts a name of letters, digits, `_` and `-`, at least one of them. -/
def ofText? (text : String) : Option ClassName :=
  if h : (text != "" && text.toList.all isNameChar) = true then some ⟨text, h⟩ else none

def default : StyleClass → ClassName
  | .operator => ⟨"token-operator", by decide⟩
  | .keyword => ⟨"token-keyword", by decide⟩
  | .identifier => ⟨"token-identifier", by decide⟩
  | .value => ⟨"token-value", by decide⟩
  | .text => ⟨"token-text", by decide⟩
  | .comment => ⟨"token-comment", by decide⟩

end ClassName

/-- A name that was refused for a class. -/
structure InvalidClassName where
  styleClass : StyleClass
  name : String

def InvalidClassName.message (e : InvalidClassName) : String :=
  "invalid class name " ++ quoted e.name ++ " for `" ++ e.styleClass.key ++
    "` (allowed: A-Z a-z 0-9 _ -)"

structure StyleMap where
  className : StyleClass → ClassName

namespace StyleMap

def default : StyleMap := ⟨ClassName.default⟩

/-- Renames one class. A name that is not a class name is refused, and the map stays as it was. -/
def rename (styles : StyleMap) (styleClass : StyleClass) (name : String) :
    Except InvalidClassName StyleMap :=
  match ClassName.ofText? name with
  | some valid =>
    .ok ⟨fun c => if c = styleClass then valid else styles.className c⟩
  | none => .error ⟨styleClass, name⟩

inductive RenameStep where
  | renamed
  | unknownClass
  | invalid (error : InvalidClassName)

/-- Applies one entry of a table from class keys to names. An unknown key and an invalid name change
nothing. -/
def applyEntry (styles : StyleMap) (key name : String) : StyleMap × RenameStep :=
  match StyleClass.ofKey? key with
  | none => (styles, .unknownClass)
  | some c => match styles.rename c name with
    | .ok renamed => (renamed, .renamed)
    | .error e => (styles, .invalid e)

def ofEntries (entries : List (String × String)) : StyleMap :=
  entries.foldl (fun styles e => (styles.applyEntry e.1 e.2).1) default

/-- The name under which tokens of a kind are shown, if they are styled at all. -/
def nameFor (styles : StyleMap) (kind : TokenKind) : Option ClassName :=
  (StyleClass.ofKind? kind).map styles.className

def sameNames (a b : StyleMap) : Bool :=
  StyleClass.all.all fun c => decide (a.className c = b.className c)

end StyleMap
end LiveMarkup
