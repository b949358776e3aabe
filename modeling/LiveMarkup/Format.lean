import LiveMarkup.Text.Blank
import LiveMarkup.Json.Reader

/-! # Output formats

A format names a target of the transpiler, and with it the mapper that the transpiler is given. Plain
text has no mapper.
-/
namespace LiveMarkup

inductive Format where
  | html | markdown | mdx | text
deriving DecidableEq, Repr, Inhabited

inductive Mapper where
  | html | markdown | mdx
deriving DecidableEq, Repr

def Mapper.tag : Mapper → String
  | html => "HTML"
  | markdown => "MARKDOWN"
  | mdx => "MDX"

namespace Format

def all : List Format := [html, markdown, mdx, text]

def tag : Format → String
  | html => "html"
  | markdown => "markdown"
  | mdx => "mdx"
  | text => "text"

/-- The format with a tag; blanks around the tag do not count. -/
def ofTag? (tag : String) : Option Format := all.find? fun f => f.tag = trimText tag

/-- The format with a tag; an unknown tag means the first format. -/
def ofTag (tag : String) : Format := (ofTag? tag).getD html

def mapper : Format → Option Mapper
  | html => some .html
  | markdown => some .markdown
  | mdx => some .mdx
  | text => none

/-- Whether output of this format is previewed through a markdown converter. -/
def isMarkdownFamily : Format → Bool
  | markdown | mdx => true
  | html | text => false

def toJson (f : Format) : Json := .str f.tag

def ofName (name : String) (i : JsonInput) : Except JsonFault Format :=
  match all.find? fun f => f.tag = name with
  | some f => .ok f
  | none => i.fail (.unknownVariant name (all.map tag))

/-- The name of the member of an object, behind its opening brace. -/
def memberName (i : JsonInput) : Except JsonFault (String × JsonInput) :=
  let i := i.skipBlanks
  match i.rest with
  | [] => i.failPeek .eofInObject
  | c :: _ =>
    if c = '"' then i.skip.string
    else if c = '\x7d' then i.failPeek .expectedValue
    else i.failPeek .keyNotString

/-- Reads a format: its tag, or an object whose only member is the tag with the value `null`. -/
def ofJsonText (text : String) : Except JsonFault Format := do
  let i := (JsonInput.ofText text).skipBlanks
  let (format, i) ← match i.rest with
    | [] => i.failPeek .eofInValue
    | c :: _ =>
      if c = '"' then do
        let (name, i) ← i.skip.string
        .ok (← ofName name i, i)
      else if c = '\x7b' then do
        let (name, i) ← memberName i.skip
        let format ← ofName name i
        let i := (← i.colon).skipBlanks
        let i ← match i.rest with
          | 'n' :: _ => i.skip.word ['u', 'l', 'l']
          | _ => i.unexpected "unit"
        let i := i.skipBlanks
        match i.rest with
        | [] => i.fail .eofInObject
        | d :: _ => if d = '\x7d' then .ok (format, i.skip) else i.fail .expectedValue
      else i.failPeek .expectedValue
  i.atEnd
  .ok format

end Format
end LiveMarkup
