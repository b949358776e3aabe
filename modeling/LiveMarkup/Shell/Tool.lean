import LiveMarkup.Files.Tree
import LiveMarkup.Text.Search
import LiveMarkup.Text.Utf8

/-! # Programs that scripts use

A tool turns its arguments and its input into output, messages and a status. The tools here are the
common ones for writing, copying, counting and testing text, without their rarer options.
-/
namespace LiveMarkup.Shell

structure ToolResult where
  output : List UInt8 := []
  errors : List UInt8 := []
  status : Nat := 0
  input : List UInt8

def bytesOf (text : String) : List UInt8 := encodeUtf8 text.toList

/-- The value of some octal digits, three at most, and what follows them. -/
def octal : Nat → Nat → List Char → Nat × List Char
  | fuel + 1, value, c :: cs =>
    if '0' ≤ c ∧ c ≤ '7' then octal fuel (value * 8 + (c.toNat - 48)) cs else (value, c :: cs)
  | _, value, cs => (value, cs)

def escapeLetters : List (Char × UInt8) := [
  ('\\', 92), ('a', 7), ('b', 8), ('e', 27), ('f', 12), ('n', 10),
  ('r', 13), ('t', 9), ('v', 11)]

/-- The byte of an escape behind its backslash, and what follows. A backslash that starts no escape
stands for itself. -/
def escapeByte (text : List Char) : UInt8 × List Char :=
  match text with
  | [] => (92, [])
  | c :: cs =>
    if '0' ≤ c ∧ c ≤ '7' then
      let (value, rest) := octal 3 0 text
      (value.toUInt8, rest)
    else match escapeLetters.find? fun e => e.1 = c with
      | some (_, byte) => (byte, cs)
      | none => (92, text)

/-- The bytes of a text in which octal escapes start with a zero, and whether output ends with it. The
number bounds the steps. -/
def unescape : Nat → List Char → List UInt8 × Bool
  | 0, _ | _, [] => ([], false)
  | fuel + 1, c :: cs =>
    if c ≠ '\\' then
      let (bytes, stop) := unescape fuel cs
      (encodeUtf8 [c] ++ bytes, stop)
    else if cs.head? = some 'c' then ([], true)
    else
      let digits := match cs with
        | '0' :: d :: more => if '0' ≤ d ∧ d ≤ '7' then d :: more else cs
        | _ => cs
      let (byte, rest) := escapeByte digits
      let (bytes, stop) := unescape fuel rest
      (byte :: bytes, stop)

def echo (escapes : Bool) (arguments : List String) (input : List UInt8) : ToolResult :=
  let (bare, words) := match arguments with
    | "-n" :: rest => (true, rest)
    | _ => (false, arguments)
  let text := (" ".intercalate words).toList
  let (bytes, stop) := if escapes then unescape (text.length + 1) text else (encodeUtf8 text, false)
  { output := bytes ++ (if bare || stop then [] else [10]), input }

/-- A directive of a format: its flags, width, precision and letter. -/
structure Directive where
  flags : List Char
  width : Nat
  precision : Option Nat
  letter : Char

def directive? (text : List Char) : Option (Directive × List Char) :=
  let flags := text.takeWhile fun c => "-+ #0".toList.contains c
  let text := text.drop flags.length
  let width := text.takeWhile Char.isDigit
  let text := text.drop width.length
  let number (digits : List Char) : Nat := (String.ofList digits).toNat?.getD 0
  let (precision, text) := match text with
    | '.' :: rest =>
      let digits := rest.takeWhile Char.isDigit
      (some (number digits), rest.drop digits.length)
    | _ => (none, text)
  match text with
  | [] => none
  | letter :: rest => some (⟨flags, number width, precision, letter⟩, rest)

def Directive.pad (d : Directive) (zeros : Bool) (bytes : List UInt8) : List UInt8 :=
  let missing := d.width - bytes.length
  if d.flags.contains '-' then bytes ++ List.replicate missing 32
  else if zeros && d.flags.contains '0' then List.replicate missing 48 ++ bytes
  else List.replicate missing 32 ++ bytes

def Directive.render (d : Directive) (argument : String) : List UInt8 :=
  let number := (argument.toInt?.getD 0)
  let digits (base : Nat) : List UInt8 := bytesOf (String.ofList (Nat.toDigits base number.toNat))
  let cut (bytes : List UInt8) : List UInt8 := match d.precision with
    | some n => bytes.take n
    | none => bytes
  match d.letter with
  | 's' => d.pad false (cut (bytesOf argument))
  | 'b' => d.pad false (cut (unescape (argument.length + 1) argument.toList).1)
  | 'c' => d.pad false ((bytesOf argument).take 1)
  | 'x' => d.pad true (digits 16)
  | 'o' => d.pad true (digits 8)
  | _ => d.pad true (bytesOf (toString number))

/-- Fills in a format once; gives the bytes and the arguments that are left. The number bounds the
steps. -/
def fillOnce : Nat → List Char → List String → List UInt8 × List String
  | 0, _, arguments | _, [], arguments => ([], arguments)
  | fuel + 1, c :: cs, arguments =>
    if c = '\\' then
      let (byte, rest) := escapeByte cs
      let (bytes, arguments) := fillOnce fuel rest arguments
      (byte :: bytes, arguments)
    else if c = '%' then
      match directive? cs with
      | none => ([37], arguments)
      | some (d, rest) =>
        if d.letter = '%' then
          let (bytes, arguments) := fillOnce fuel rest arguments
          (37 :: bytes, arguments)
        else
          let argument := arguments.headD ""
          let (bytes, arguments) := fillOnce fuel rest arguments.tail
          (d.render argument ++ bytes, arguments)
    else
      let (bytes, arguments) := fillOnce fuel cs arguments
      (encodeUtf8 [c] ++ bytes, arguments)

def fillAll (format : List Char) : Nat → List String → List UInt8
  | 0, _ => []
  | fuel + 1, arguments =>
    let (bytes, left) := fillOnce (format.length + 1) format arguments
    if left.isEmpty || left.length = arguments.length then bytes else bytes ++ fillAll format fuel left

def printf (arguments : List String) (input : List UInt8) : ToolResult :=
  match arguments with
  | [] => { errors := bytesOf "usage: printf format [arg ...]\n", status := 2, input }
  | format :: rest => { output := fillAll format.toList (rest.length + 1) rest, input }

def plainMessage (e : IoError) : String :=
  match e with
  | .os code => ((osErrorNames.find? fun n => n.1 = code).map (·.2)).getD "Unknown error"
  | _ => e.message

def cat (t : FileTree) (arguments : List String) (input : List UInt8) : ToolResult :=
  (if arguments.isEmpty then ["-"] else arguments).foldl (fun r name =>
    if name = "-" then { r with output := r.output ++ r.input, input := [] }
    else if name = "/dev/null" then r
    else match t.readBytes name with
      | .ok bytes => { r with output := r.output ++ bytes }
      | .error e =>
        let message := "cat: " ++ name ++ ": " ++ plainMessage e ++ "\n"
        { r with errors := r.errors ++ bytesOf message, status := 1 }) { input }

def wordCount (inWord : Bool) : List UInt8 → Nat
  | [] => if inWord then 1 else 0
  | b :: bytes =>
    if b = 32 || (9 ≤ b && b ≤ 13) then (if inWord then 1 else 0) + wordCount false bytes
    else wordCount true bytes

def padLeft (width : Nat) (n : Nat) : String :=
  let digits := toString n
  String.ofList (List.replicate (width - digits.length) ' ') ++ digits

def wc (arguments : List String) (input : List UInt8) : ToolResult :=
  let lines := input.count 10
  let text := match arguments with
    | "-c" :: _ => toString input.length
    | "-l" :: _ => toString lines
    | "-w" :: _ => toString (wordCount false input)
    | "-m" :: _ => toString (decodeLossy input).length
    | _ => " ".intercalate
      [padLeft 7 lines, padLeft 7 (wordCount false input), padLeft 7 input.length]
  { output := bytesOf (text ++ "\n"), input := [] }

def firstLines : Nat → List UInt8 → List UInt8
  | 0, _ | _, [] => []
  | n + 1, b :: bytes => b :: firstLines (if b = 10 then n else n + 1) bytes

def amount (arguments : List String) : Nat × Bool :=
  match arguments with
  | "-c" :: n :: _ => (n.toNat?.getD 0, true)
  | "-n" :: n :: _ => (n.toNat?.getD 10, false)
  | option :: _ =>
    let text := option.toList
    let number (cs : List Char) : Nat := (String.ofList cs).toNat?.getD 10
    match text with
    | '-' :: 'c' :: digits => (number digits, true)
    | '-' :: 'n' :: digits | '-' :: digits => (number digits, false)
    | _ => (10, false)
  | [] => (10, false)

def head (arguments : List String) (input : List UInt8) : ToolResult :=
  let (n, inBytes) := amount arguments
  if arguments.getLast? = some "/dev/zero" then { output := List.replicate n 0, input }
  else { output := if inBytes then input.take n else firstLines n input, input := [] }

def tail (arguments : List String) (input : List UInt8) : ToolResult :=
  let (n, inBytes) := amount arguments
  let kept := if inBytes then input.drop (input.length - n)
    else match input.reverse with
      | 10 :: before => (10 :: (firstLines n (before ++ [10])).dropLast).reverse
      | bytes => ((firstLines n (bytes ++ [10])).dropLast).reverse
  { output := if n = 0 then [] else kept, input := [] }

/-- The bytes of a set of characters with ranges and escapes. The number bounds the steps. -/
def charSet : Nat → List Char → List UInt8
  | 0, _ | _, [] => []
  | fuel + 1, '\\' :: cs =>
    let (byte, rest) := escapeByte cs
    byte :: charSet fuel rest
  | fuel + 1, a :: '-' :: b :: cs =>
    ((List.range (b.toNat + 1 - a.toNat)).map fun i => (a.toNat + i).toUInt8) ++ charSet fuel cs
  | fuel + 1, c :: cs => encodeUtf8 [c] ++ charSet fuel cs

/-- Replaces the bytes of one set by those of another, or deletes them. -/
def tr (arguments : List String) (input : List UInt8) : ToolResult :=
  let set (text : String) : List UInt8 := charSet (text.length + 1) text.toList
  match arguments with
  | ["-d", text] => { output := input.filter fun b => !(set text).contains b, input := [] }
  | [source, target] =>
    let (source, target) := (set source, set target)
    let change (b : UInt8) : UInt8 := match source.idxOf? b with
      | some i => target.getD i (target.getLast?.getD b)
      | none => b
    { output := input.map change, input := [] }
  | _ => { errors := bytesOf "tr: missing operand\n", status := 1, input }

/-- The lines of some bytes, without their line feeds; a line feed at the end begins no line. -/
def byteRows : List UInt8 → List (List UInt8)
  | [] => []
  | b :: bytes =>
    if b = 10 then [] :: byteRows bytes
    else match byteRows bytes with
      | [] => [[b]]
      | row :: more => (b :: row) :: more

def grep (arguments : List String) (input : List UInt8) : ToolResult :=
  let options := (arguments.takeWhile fun a => a.startsWith "-").flatMap String.toList
  match arguments.dropWhile fun a => a.startsWith "-" with
  | [] => { errors := bytesOf "Usage: grep [OPTION]... PATTERNS [FILE]...\n", status := 2, input }
  | pattern :: _ =>
    let rows := (byteRows input).filter fun row =>
      occursIn (bytesOf pattern) row != options.contains 'v'
    let output := if options.contains 'q' then []
      else if options.contains 'c' then bytesOf (toString rows.length ++ "\n")
      else rows.flatMap fun row => row ++ [10]
    { output, status := if rows.isEmpty then 1 else 0, input := [] }

def test (t : FileTree) : List String → Bool
  | [] => false
  | ["!", a] => a = ""
  | [a] => a ≠ ""
  | ["-n", a] => a ≠ ""
  | ["-z", a] => a = ""
  | ["-e", a] => t.pathExists a
  | ["-f", a] => (t.readBytes a).isOk
  | ["-d", a] => t.isDirectory a
  | [a, relation, b] =>
    let number (s : String) : Int := s.toInt?.getD 0
    match relation with
    | "=" => a = b
    | "!=" => a ≠ b
    | "-eq" => number a = number b
    | "-ne" => number a ≠ number b
    | "-lt" => number a < number b
    | "-le" => number a ≤ number b
    | "-gt" => number a > number b
    | "-ge" => number a ≥ number b
    | _ => a = "!" && !(match [relation, b] with
      | ["-n", b] => b ≠ ""
      | ["-z", b] => b = ""
      | _ => false)
  | ["!", a, relation, b] => !test t [a, relation, b]
  | _ => false

/-- A tool by its name. The flag says whether the shell itself provides it. -/
def tool? (t : FileTree) (inShell : Bool) (name : String) :
    Option (List String → List UInt8 → ToolResult) :=
  let plain (status : Nat) : List String → List UInt8 → ToolResult :=
    fun _ input => { status, input }
  match name with
  | "echo" => some (echo inShell)
  | "printf" => some printf
  | "cat" => some (cat t)
  | "wc" => some wc
  | "head" => some head
  | "tail" => some tail
  | "tr" => some tr
  | "grep" => some grep
  | "true" | "sleep" => some (plain 0)
  | ":" => if inShell then some (plain 0) else none
  | "false" => some (plain 1)
  | "test" => some fun arguments input => { status := if test t arguments then 0 else 1, input }
  | "[" => some fun arguments input =>
    { status := if test t arguments.dropLast then 0 else 1, input }
  | _ => none

end LiveMarkup.Shell
