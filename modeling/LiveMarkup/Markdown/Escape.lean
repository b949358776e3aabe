import LiveMarkup.Text.NamedReference

/-! # Escapes of Markdown

A backslash takes its meaning from the punctuation character behind it, and a character reference
stands for the characters it names.
-/
namespace LiveMarkup.Markdown

/-- Whether a character is punctuation of ASCII, and so can be escaped. -/
def isMark (c : Char) : Bool :=
  ('!' ≤ c && c ≤ '/') || (':' ≤ c && c ≤ '@') || ('[' ≤ c && c ≤ '\x60') || ('\x7b' ≤ c && c ≤ '~')

def isSpace (c : Char) : Bool := c = ' ' || c = '\t' || c = '\x0b' || c = '\x0c'

def isIndent (c : Char) : Bool := c = ' ' || c = '\t'

def endsLine (c : Char) : Bool := c = '\n' || c = '\r'

def hexDigit? (c : Char) : Option Nat :=
  if c.isDigit then some (c.toNat - 48)
  else if 'a' ≤ c && c ≤ 'f' then some (c.toNat - 87)
  else if 'A' ≤ c && c ≤ 'F' then some (c.toNat - 55)
  else none

/-- The character of a code point. Zero and what is no character are replaced. -/
def charOfCode (code : Nat) : Char :=
  if 0 < code && (code < 0xd800 || (0xdfff < code && code ≤ 0x10ffff)) then Char.ofNat code
  else '\ufffd'

def numberOf (base : Nat) (digits : List Nat) : Nat := digits.foldl (fun n d => base * n + d) 0

/-- The characters that a numeric reference stands for, and how many characters it has behind its
`&#`. -/
def numericReference? (text : List Char) : Option (List Char × Nat) :=
  let (base, most, mark) := match text with
    | 'x' :: _ | 'X' :: _ => (16, 6, 1)
    | _ => (10, 7, 0)
  let value? (c : Char) : Option Nat :=
    if base = 16 then hexDigit? c else if c.isDigit then some (c.toNat - 48) else none
  let body := text.drop mark
  let digits := (body.take most).takeWhile fun c => (value? c).isSome
  match digits, body.drop digits.length with
  | _ :: _, ';' :: _ =>
    some ([charOfCode (numberOf base (digits.filterMap value?))], mark + digits.length + 1)
  | _, _ => none

/-- The characters that a reference stands for, and how many characters it has behind its
ampersand. -/
def reference? (text : List Char) : Option (List Char × Nat) :=
  match text with
  | '#' :: body => (numericReference? body).map fun r => (r.1, r.2 + 1)
  | _ =>
    let name := text.takeWhile Char.isAlphanum
    match text.drop name.length with
    | ';' :: _ => (namedReference? name).map fun cs => (cs, name.length + 1)
    | _ => none

/-- A text with its escapes and references resolved and without carriage returns. In the cell of a
table a bar may have two backslashes in front, both of which go. The number bounds the steps. -/
def unescapeWithin (cell : Bool) : Nat → List Char → List Char
  | 0, text => text
  | _ + 1, [] => []
  | fuel + 1, c :: rest =>
    if c = '\r' then unescapeWithin cell fuel rest
    else if c = '\\' then
      match rest with
      | [] => [c]
      | d :: behind =>
        if cell && d = '\\' && behind.head? = some '|' then
          '|' :: unescapeWithin cell fuel (behind.drop 1)
        else if isMark d then d :: unescapeWithin cell fuel behind
        else c :: unescapeWithin cell fuel rest
    else if c = '&' then
      match reference? rest with
      | some (cs, n) => cs ++ unescapeWithin cell fuel (rest.drop n)
      | none => c :: unescapeWithin cell fuel rest
    else c :: unescapeWithin cell fuel rest

def unescape (cell : Bool) (text : List Char) : List Char := unescapeWithin cell text.length text

end LiveMarkup.Markdown
