import LiveMarkup.Token
import LiveMarkup.Json.Skip

/-! # Tokens on the wire

A token stream is a JSON list. A token is written as an object with the members `type`, `value`,
`line` and `start`; it is read from such an object, with any member missing and foreign members
passed over, or from a list of those values in that order, cut short anywhere.
-/
namespace LiveMarkup

namespace Token

def toJson (t : Token) : Json :=
  .obj [("type", .str t.kind.tag), ("value", .str t.text), ("line", .ofNat t.endLine),
    ("start", .ofNat t.startColumn)]

def streamToJson (tokens : List Token) : Json := .arr (tokens.map toJson)

inductive Field where
  | kind | text | endLine | startColumn
deriving DecidableEq, Repr

def Field.name : Field → String
  | kind => "type"
  | text => "value"
  | endLine => "line"
  | startColumn => "start"

def Field.all : List Field := [kind, text, endLine, startColumn]

def Field.ofName? (name : String) : Option Field := all.find? fun f => f.name = name

def readField (t : Token) (field : Field) (i : JsonInput) :
    Except JsonFault (Token × JsonInput) :=
  match field with
  | .kind => do
    let (tag, i) ← i.expectString "a string"
    .ok ({ t with kind := .ofTag tag }, i)
  | .text => do
    let (text, i) ← i.expectString "a string"
    .ok ({ t with text := text }, i)
  | .endLine => do
    let (n, i) ← i.expectNat "usize"
    .ok ({ t with endLine := n }, i)
  | .startColumn => do
    let (n, i) ← i.expectNat "usize"
    .ok ({ t with startColumn := n }, i)

/-- Reads the values of a list into the fields in order; the list may end early but not go on. -/
def readFields (t : Token) : List Field → Bool → JsonInput → Except JsonFault (Token × JsonInput)
  | [], _, i => do .ok (t, ← i.closeList)
  | field :: later, first, i => do
    let (more, i) ← i.nextItem first
    if more then
      let (t, i) ← readField t field i
      readFields t later false i
    else .ok (t, ← i.closeList)

def readMembers : Nat → List Field → Bool → Token → JsonInput →
    Except JsonFault (Token × JsonInput)
  | 0, _, _, _, i => i.fail .tooDeep
  | fuel + 1, seen, first, t, i => do
    let (more, i) ← i.nextKey first
    if more then
      let (key, i) ← i.skip.string
      match Field.ofName? key with
      | some field =>
        if field ∈ seen then i.fail (.duplicateField field.name)
        else
          let i ← i.colon
          let (t, i) ← readField t field i
          readMembers fuel (field :: seen) false t i
      | none =>
        let i ← i.colon
        let i ← i.skipValue i.enough
        readMembers fuel seen false t i
    else .ok (t, i.skip)

def read (depth : Nat) (i : JsonInput) : Except JsonFault (Token × JsonInput) :=
  let i := i.skipBlanks
  match i.rest with
  | [] => i.failPeek .eofInValue
  | c :: _ =>
    if c = '[' then do readFields {} Field.all true (← i.openBracket depth)
    else if c = '\x7b' then do
      readMembers (i.rest.length + 1) [] true {} (← i.openBracket depth)
    else i.unexpected "struct Token"

/-- Reads the tokens of a list behind those read before, and its closing bracket. -/
def readList : Nat → Nat → Bool → List Token → JsonInput →
    Except JsonFault (List Token × JsonInput)
  | 0, _, _, _, i => i.fail .tooDeep
  | fuel + 1, depth, first, before, i => do
    let (more, i) ← i.nextItem first
    if more then
      let (t, i) ← read depth i
      readList fuel depth false (t :: before) i
    else .ok (before.reverse, i.skip)

def decode (text : String) : Except JsonFault (List Token) := do
  let i := (JsonInput.ofText text).skipBlanks
  let (tokens, i) ← match i.rest with
    | [] => i.failPeek .eofInValue
    | c :: _ =>
      if c = '[' then do
        let inner ← i.openBracket JsonInput.depthLimit
        readList (i.rest.length + 1) (JsonInput.depthLimit - 1) true [] inner
      else i.unexpected "a sequence"
  i.atEnd
  .ok tokens

def encode (tokens : List Token) : String := (streamToJson tokens).compactText

end Token
end LiveMarkup
