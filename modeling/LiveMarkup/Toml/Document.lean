import LiveMarkup.Toml.Scalar

/-! # TOML documents

A document is a sequence of lines: keys with values, headers of tables and of arrays of tables. Arrays
and inline tables may run over several lines, hold comments, and end with a comma.
-/
namespace LiveMarkup.Toml

def isKeyChar (c : Char) : Bool := c.isAlphanum || c = '_' || c = '-'

def isWordChar (c : Char) : Bool := isKeyChar c || c = '+' || c = '.' || c = ':'

def skipComment : List Char → Option (List Char)
  | '#' :: rest =>
    match rest.dropWhile isTextChar with
    | [] => some []
    | later => if (lineBreak? later).isSome then some later else none
  | text => some text

def skipFiller : Nat → List Char → Option (List Char)
  | 0, text => some text
  | fuel + 1, text => do
    let rest ← skipComment (skipBlankLines text)
    if rest.length = text.length then some rest else skipFiller fuel rest

/-- How many arrays and inline tables may be open at once, and how many parts a key may have. -/
def depthLimit : Nat := 80

def keyPart (text : List Char) : Option (String × List Char) :=
  match text with
  | '"' :: rest => (basicString (rest.length + 1) [] rest).map fun r => (String.ofList r.1, r.2)
  | '\'' :: rest => (literalString rest).map fun r => (String.ofList r.1, r.2)
  | _ =>
    let name := text.takeWhile isKeyChar
    if name.isEmpty then none else some (String.ofList name, text.drop name.length)

def keyParts : Nat → List Char → Option (List String × List Char)
  | 0, _ => none
  | most + 1, text => do
    let (part, rest) ← keyPart (skipSpace text)
    match skipSpace rest with
    | '.' :: later => do
      let (parts, rest) ← keyParts most later
      some (part :: parts, rest)
    | rest => some ([part], rest)

/-- A key. Blanks around it and around its dots do not count. -/
def key (text : List Char) : Option (List String × List Char) := keyParts depthLimit text

/-- The bare word at the start of a text. A date may be followed by a blank and a time. -/
def bareWord (text : List Char) : List Char × List Char :=
  let word := text.takeWhile isWordChar
  let rest := text.drop word.length
  match rest with
  | ' ' :: d :: _ =>
    if d.isDigit ∧ date word = some (word, []) then
      let time := (rest.drop 1).takeWhile isWordChar
      (word ++ ' ' :: time, rest.drop (time.length + 1))
    else (word, rest)
  | _ => (word, rest)

mutual

def value : Nat → Nat → List Char → Option (Toml × List Char)
  | 0, _, _ => none
  | fuel + 1, depth, text =>
    match text with
    | [] => none
    | '[' :: rest => if depth = 0 then none else items fuel (depth - 1) [] rest
    | '\x7b' :: rest => if depth = 0 then none else members fuel (depth - 1) [] rest
    | c :: _ =>
      if c = '"' ∨ c = '\'' then (string? text).map fun r => (.str (String.ofList r.1), r.2)
      else
        let (word, rest) := bareWord text
        (scalar? word).map fun v => (v, rest)

def items : Nat → Nat → List Toml → List Char → Option (Toml × List Char)
  | 0, _, _, _ => none
  | fuel + 1, depth, before, text => do
    let text ← skipFiller (text.length + 1) text
    match text with
    | ']' :: rest => some (.array before.reverse, rest)
    | _ => do
      let (v, rest) ← value fuel depth text
      let rest ← skipFiller (rest.length + 1) rest
      match rest with
      | ',' :: rest => items fuel depth (v :: before) rest
      | ']' :: rest => some (.array (v :: before).reverse, rest)
      | _ => none

def members : Nat → Nat → List (String × Toml) → List Char → Option (Toml × List Char)
  | 0, _, _, _ => none
  | fuel + 1, depth, before, text => do
    let text ← skipFiller (text.length + 1) text
    match text with
    | '\x7d' :: rest => some (.table .inline before, rest)
    | _ => do
      let (path, rest) ← key text
      let rest ← expect '=' rest
      let (v, rest) ← value fuel depth (skipSpace rest)
      let before ← addDotted path v .header before
      let rest ← skipFiller (rest.length + 1) rest
      match rest with
      | ',' :: rest => members fuel depth before rest
      | '\x7d' :: rest => some (.table .inline before, rest)
      | _ => none

end

/-- The end of a line: blanks, a comment, and a line break unless the text ends. -/
def lineEnd (text : List Char) : Option (List Char) := do
  let rest ← skipComment (skipSpace text)
  match rest with
  | [] => some []
  | _ => lineBreak? rest

structure Reading where
  root : List (String × Toml) := []
  header : List String := []

def Reading.open (r : Reading) (path : List String)
    (change : String → TableOrigin → List (String × Toml) → Option (List (String × Toml))) :
    Option Reading := do
  let name ← path.getLast?
  let root ← descend .passedThrough (change name) .header r.root path.dropLast
  some { root, header := path }

def lines : Nat → Reading → List Char → Option Reading
  | 0, _, _ => none
  | fuel + 1, r, text =>
    match skipSpace text with
    | [] => some r
    | '[' :: '[' :: rest => do
      let (path, rest) ← key rest
      let rest ← expect ']' (← expect ']' rest)
      let r ← r.open path appendTable
      lines fuel r (← lineEnd rest)
    | '[' :: rest => do
      let (path, rest) ← key rest
      let rest ← expect ']' rest
      let r ← r.open path openTable
      lines fuel r (← lineEnd rest)
    | c :: rest =>
      if c = '#' ∨ c = '\n' ∨ c = '\r' then do
        lines fuel r (← lineEnd (c :: rest))
      else do
        let (path, rest) ← key (c :: rest)
        let rest ← expect '=' rest
        let (v, rest) ← value (rest.length + 1) depthLimit (skipSpace rest)
        let root ← descend .passedThrough (addDotted path v) .header r.root r.header
        lines fuel { r with root } (← lineEnd rest)

/-- The entries of the document that a text holds. A byte order mark in front does not count. -/
def ofText? (text : String) : Option (List (String × Toml)) := do
  let text := match text.toList with
    | c :: rest => if c.toNat = 0xfeff then rest else c :: rest
    | [] => []
  let r ← lines (text.length + 1) {} text
  if entriesRepresentable r.root then some r.root else none

end LiveMarkup.Toml
