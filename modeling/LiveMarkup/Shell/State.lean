import LiveMarkup.Engine.Process
import LiveMarkup.Shell.Syntax
import LiveMarkup.Shell.Tool

/-! # The state of a shell, and the expansion of words

A word is expanded to fields: what parameters and substitutions give outside quotes is split at blanks.
-/
namespace LiveMarkup.Shell

/-- What a running shell knows and has written. -/
structure State where
  name : String
  arguments : List String
  values : List (String × String) := []
  input : List UInt8
  output : List UInt8 := []
  errors : List UInt8 := []
  status : Nat := 0
  ended : Option ExitStatus := none

inductive Sink where
  | output | errors | nowhere
deriving DecidableEq, Repr

/-- Where the output streams of a command go. -/
structure Streams where
  output : Sink := .output
  errors : Sink := .errors

/-- The process number of the shell. Scripts only use it to signal themselves. -/
def shellNumber : String := "4711"

namespace State

def write (s : State) (sink : Sink) (bytes : List UInt8) : State :=
  match sink with
  | .output => { s with output := s.output ++ bytes }
  | .errors => { s with errors := s.errors ++ bytes }
  | .nowhere => s

def complain (s : State) (streams : Streams) (message : String) (status : Nat) : State :=
  { s.write streams.errors (bytesOf (s.name ++ ": 1: " ++ message ++ "\n")) with status }

def assign (s : State) (name value : String) : State :=
  { s with values := (name, value) :: s.values.filter fun v => v.1 ≠ name }

/-- The value of a parameter; a parameter that is not set is empty. -/
def parameter (s : State) (name : String) : String :=
  match name with
  | "0" => s.name
  | "#" => toString s.arguments.length
  | "*" | "@" => " ".intercalate s.arguments
  | "?" => toString s.status
  | "$" => shellNumber
  | _ => match name.toNat? with
    | some n => s.arguments.getD (n - 1) ""
    | none => ((s.values.find? fun v => v.1 = name).map (·.2)).getD ""

/-- The state behind a subshell: what it read and wrote stays, and an exit only ends the subshell. -/
def leave (outer inner : State) : State :=
  let (status, ended) := match inner.ended with
    | some (.exited code) => (code, none)
    | other => (inner.status, other)
  { outer with
    input := inner.input, output := inner.output, errors := inner.errors, status, ended }

end State

/-- Fields under way: the finished ones, latest first, and the one that is not finished. -/
structure Fields where
  done : List (List Char) := []
  current : Option (List Char) := none

namespace Fields

def add (f : Fields) (text : List Char) : Fields :=
  { f with current := some (f.current.getD [] ++ text) }

def cut (f : Fields) : Fields :=
  match f.current with
  | some text => { done := text :: f.done }
  | none => f

def addSplit (f : Fields) (text : List Char) : Fields :=
  text.foldl (fun f c => if c = ' ' ∨ c = '\t' ∨ c = '\n' then f.cut else f.add [c]) f

def addEach (f : Fields) : List (List Char) → Fields
  | [] => f
  | [text] => f.add text
  | text :: more => addEach (f.add text).cut more

def all (f : Fields) : List (List Char) := f.cut.done.reverse

end Fields

abbrev Substitution := List Char → State → List Char × State

def pieceText (substitute : Substitution) (piece : Piece) (s : State) : List Char × State :=
  match piece with
  | .literal text _ => (text, s)
  | .parameter name default _ =>
    let value := (s.parameter name).toList
    (if value.isEmpty then default else value, s)
  | .substitution script _ => substitute script s

def addPiece (substitute : Substitution) (f : Fields) (piece : Piece) (s : State) : Fields × State :=
  match piece with
  | .parameter "@" _ true => (f.addEach (s.arguments.map String.toList), s)
  | _ =>
    let (text, s) := pieceText substitute piece s
    match piece with
    | .literal .. | .parameter _ _ true | .substitution _ true => (f.add text, s)
    | _ => (f.addSplit text, s)

def expand (substitute : Substitution) (w : Word) (s : State) : List String × State :=
  let (f, s) := w.foldl (fun (f, s) piece => addPiece substitute f piece s) (({} : Fields), s)
  (f.all.map String.ofList, s)

def expandAll (substitute : Substitution) : List Word → State → List String × State
  | [], s => ([], s)
  | w :: ws, s =>
    let (fields, s) := expand substitute w s
    let (more, s) := expandAll substitute ws s
    (fields ++ more, s)

def expandText (substitute : Substitution) (w : Word) (s : State) : List Char × State :=
  w.foldl (fun (text, s) piece =>
    let (more, s) := pieceText substitute piece s
    (text ++ more, s)) ([], s)

/-- A character of a pattern; a quoted one stands for itself. -/
structure PatternChar where
  char : Char
  quoted : Bool

def expandPattern (substitute : Substitution) (w : Word) (s : State) : List PatternChar × State :=
  w.foldl (fun (pattern, s) piece =>
    let (more, s) := pieceText substitute piece s
    let quoted := match piece with
      | .literal _ quoted | .parameter _ _ quoted | .substitution _ quoted => quoted
    (pattern ++ more.map fun c => ⟨c, quoted⟩, s)) ([], s)

def inBrackets (c : Char) : List Char → Bool
  | a :: '-' :: b :: rest => (a ≤ c && c ≤ b) || inBrackets c rest
  | a :: rest => a = c || inBrackets c rest
  | [] => false

/-- Whether a text matches a pattern: a star stands for any text, a question mark for any character,
brackets for one of several. The number bounds the steps. -/
def matchesPattern : Nat → List PatternChar → List Char → Bool
  | 0, _, _ => false
  | _ + 1, [], text => text.isEmpty
  | fuel + 1, p :: ps, text =>
    if p.quoted then text.head? = some p.char && matchesPattern fuel ps text.tail
    else if p.char = '*' then
      matchesPattern fuel ps text || (!text.isEmpty && matchesPattern fuel (p :: ps) text.tail)
    else match text with
      | [] => false
      | c :: cs =>
        let inside := ps.takeWhile fun q => q.quoted || q.char ≠ ']'
        if p.char = '[' ∧ inside.length < ps.length then
          let accepted := match inside.map (·.char) with
            | '!' :: listed => !inBrackets c listed
            | listed => inBrackets c listed
          accepted && matchesPattern fuel (ps.drop (inside.length + 1)) cs
        else (p.char = '?' || p.char = c) && matchesPattern fuel ps cs

end LiveMarkup.Shell
