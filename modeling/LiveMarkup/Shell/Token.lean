import LiveMarkup.Shell.Syntax

/-! # Words and operators of a script

A script is a row of words, operators and redirections. Blanks stand between them, and a hash sign at
the start of a word begins a comment.
-/
namespace LiveMarkup.Shell

inductive SyntaxFault where
  | unterminatedQuote
  /-- A token, or the end, where something else should follow, which may be known. -/
  | unexpected (token expected : Option String)
deriving DecidableEq, Repr

def SyntaxFault.message : SyntaxFault → String
  | unterminatedQuote => "Syntax error: Unterminated quoted string"
  | unexpected token expected =>
    let hint := match expected with
      | some text => " (expecting \"" ++ text ++ "\")"
      | none => ""
    "Syntax error: " ++ token.getD "end of file" ++ " unexpected" ++ hint

/-- A token of a script. The stream of a redirection is the one in front of its sign, if any. -/
inductive ScriptToken where
  | word (w : Word)
  | operator (text : String)
  | redirect (stream : Option Nat) (sign : String)
deriving DecidableEq, Repr

def isNameChar (c : Char) : Bool := c.isAlphanum || c = '_'

/-- Where a text inside a script stands as to quotes. -/
inductive Quoting where
  | plain | single | double
deriving DecidableEq, Repr

/-- The script up to the parenthesis that closes it, and what follows. The characters read before come
last one first. -/
def enclosed (q : Quoting) (depth : Nat) (before : List Char) :
    List Char → Option (List Char × List Char)
  | [] => none
  | [c] => if q = .plain ∧ c = ')' ∧ depth = 0 then some (before.reverse, []) else none
  | c :: d :: cs =>
    if c = '\\' ∧ q ≠ .single then enclosed q depth (d :: c :: before) cs
    else if c = '\'' ∧ q ≠ .double then
      enclosed (if q = .plain then .single else .plain) depth (c :: before) (d :: cs)
    else if c = '"' ∧ q ≠ .single then
      enclosed (if q = .plain then .double else .plain) depth (c :: before) (d :: cs)
    else if q = .plain ∧ c = '(' then enclosed q (depth + 1) (c :: before) (d :: cs)
    else if q = .plain ∧ c = ')' then
      if depth = 0 then some (before.reverse, d :: cs)
      else enclosed q (depth - 1) (c :: before) (d :: cs)
    else enclosed q depth (c :: before) (d :: cs)

/-- The script up to a backquote, and what follows. A backslash in front of a backquote, a backslash
or a dollar sign is dropped. -/
def backquoted (before : List Char) : List Char → Option (List Char × List Char)
  | [] => none
  | [c] => if c = '\x60' then some (before.reverse, []) else none
  | c :: d :: cs =>
    if c = '\x60' then some (before.reverse, d :: cs)
    else if c = '\\' ∧ (d = '\x60' ∨ d = '\\' ∨ d = '$') then backquoted (d :: before) cs
    else backquoted (c :: before) (d :: cs)

def dollar (quoted : Bool) (text : List Char) : Except SyntaxFault (Piece × List Char) :=
  match text with
  | '(' :: cs => match enclosed .plain 0 [] cs with
    | some (script, rest) => .ok (.substitution script quoted, rest)
    | none => .error (.unexpected none (some ")"))
  | '\x7b' :: cs =>
    let inside := cs.takeWhile (· ≠ '\x7d')
    match cs.drop inside.length with
    | [] => .error (.unexpected none (some "\x7d"))
    | _ :: rest =>
      let name := inside.takeWhile fun c => isNameChar c || "@*#?$!".toList.contains c
      let default := match inside.drop name.length with
        | ':' :: '-' :: value | '-' :: value => value
        | _ => []
      .ok (.parameter (String.ofList name) default quoted, rest)
  | c :: cs =>
    if c.isDigit || "@*#?$!".toList.contains c then
      .ok (.parameter (String.ofList [c]) [] quoted, cs)
    else if isNameChar c then
      let name := text.takeWhile isNameChar
      .ok (.parameter (String.ofList name) [] quoted, text.drop name.length)
    else .ok (.literal ['$'] quoted, text)
  | [] => .ok (.literal ['$'] quoted, [])

def isPlainInQuotes (c : Char) : Bool := !(['"', '\\', '$', '\x60'].contains c)

def endsWord (c : Char) : Bool := " \t\n;&|<>()".toList.contains c

def isPlainInWord (c : Char) : Bool := isPlainInQuotes c && c ≠ '\'' && !endsWord c

/-- The pieces up to the end of a word, or up to the closing double quote, and what follows. The
number bounds how many pieces are read, the latest of which come first. -/
def readPieces : Nat → (quoted : Bool) → Word → List Char → Except SyntaxFault (Word × List Char)
  | 0, _, before, text => .ok (before.reverse, text)
  | fuel + 1, quoted, before, text =>
    match text with
    | [] => if quoted then .error .unterminatedQuote else .ok (before.reverse, [])
    | c :: cs =>
      if quoted && c = '"' then .ok (before.reverse, cs)
      else if !quoted && endsWord c then .ok (before.reverse, text)
      else if c = '$' then do
        let (piece, rest) ← dollar quoted cs
        readPieces fuel quoted (piece :: before) rest
      else if c = '\x60' then
        match backquoted [] cs with
        | some (script, rest) => readPieces fuel quoted (.substitution script quoted :: before) rest
        | none => .error .unterminatedQuote
      else if c = '\\' then
        match cs with
        | '\n' :: rest => readPieces fuel quoted before rest
        | d :: rest =>
          let kept := if quoted && isPlainInQuotes d then [c, d] else [d]
          readPieces fuel quoted (.literal kept true :: before) rest
        | [] => readPieces fuel quoted (.literal [c] true :: before) []
      else if !quoted && c = '\'' then
        let inside := cs.takeWhile (· ≠ '\'')
        match cs.drop inside.length with
        | [] => .error .unterminatedQuote
        | _ :: rest => readPieces fuel quoted (.literal inside true :: before) rest
      else if !quoted && c = '"' then do
        let (inside, rest) ← readPieces fuel true [] cs
        readPieces fuel quoted (inside.reverse ++ .literal [] true :: before) rest
      else
        let plain := text.takeWhile (if quoted then isPlainInQuotes else isPlainInWord)
        readPieces fuel quoted (.literal plain quoted :: before) (text.drop plain.length)

def operators : List String := [";;", "&&", "||", ";", "&", "|", "(", ")", "\n"]

def redirectSigns : List String := [">>", ">&", "<&", ">|", "<", ">"]

/-- The longest of some texts that another text starts with, and what follows it. -/
def startOf? (candidates : List String) (text : List Char) : Option (String × List Char) :=
  (candidates.find? fun s => s.toList.isPrefixOf text).map fun s => (s, text.drop s.length)

/-- The tokens of a script. The number bounds how many are read. -/
def tokensWithin : Nat → List Char → Except SyntaxFault (List ScriptToken)
  | 0, _ => .ok []
  | fuel + 1, text =>
    match text with
    | [] => .ok []
    | '\\' :: '\n' :: rest => tokensWithin fuel rest
    | c :: cs =>
      if c = ' ' || c = '\t' then tokensWithin fuel cs
      else if c = '#' then tokensWithin fuel (cs.dropWhile (· ≠ '\n'))
      else match startOf? operators text with
        | some (operator, rest) => do .ok (.operator operator :: (← tokensWithin fuel rest))
        | none =>
          let digits := text.takeWhile Char.isDigit
          match startOf? redirectSigns (text.drop digits.length) with
          | some (sign, rest) => do
            let stream := (String.ofList digits).toNat?
            .ok (.redirect stream sign :: (← tokensWithin fuel rest))
          | none => do
            let (word, rest) ← readPieces (text.length + 1) false [] text
            .ok (.word word :: (← tokensWithin fuel rest))

def tokens (script : List Char) : Except SyntaxFault (List ScriptToken) :=
  tokensWithin (script.length + 1) script

end LiveMarkup.Shell
