import LiveMarkup.Text.Entities

/-! # Diagnostics

Messages of an engine may carry control sequences of a terminal: `ESC [`, parameters, intermediate
characters and a final character, or `ESC ]` up to a bell or `ESC \`. They are removed before the
message is shown; a sequence that is not complete stays.
-/
namespace LiveMarkup

def introducer : Char := '\x1b'

def isParameter (c : Char) : Bool := c.isDigit || c = ';' || c = '?'

def isIntermediate (c : Char) : Bool := ' ' ≤ c && c ≤ '/'

def isFinal (c : Char) : Bool := '@' ≤ c && c ≤ '~'

/-- How many characters behind `ESC [` belong to a complete sequence. -/
def bracketSequence? (text : List Char) : Option Nat :=
  let parameters := text.takeWhile isParameter
  let behind := text.dropWhile isParameter
  let intermediates := behind.takeWhile isIntermediate
  match behind.dropWhile isIntermediate with
  | c :: _ => if isFinal c then some (parameters.length + intermediates.length + 1) else none
  | [] => none

/-- How many characters behind `ESC ]` belong to a complete sequence. -/
def commandSequence? : List Char → Option Nat
  | [] => none
  | c :: cs =>
    if c = '\x07' then some 1
    else if c = introducer then if cs.head? = some '\\' then some 2 else none
    else (commandSequence? cs).map (· + 1)

/-- How many characters behind an escape character belong to a complete sequence. -/
def sequenceLength? : List Char → Option Nat
  | '[' :: text => (bracketSequence? text).map (· + 1)
  | ']' :: text => (commandSequence? text).map (· + 1)
  | _ => none

/-- A text without its complete control sequences. The number says how many characters still belong
to the sequence before. -/
def stripFrom : Nat → List Char → List Char
  | _, [] => []
  | skip + 1, _ :: cs => stripFrom skip cs
  | 0, c :: cs =>
    match if c = introducer then sequenceLength? cs else none with
    | some length => stripFrom length cs
    | none => c :: stripFrom 0 cs

def stripAnsi (text : List Char) : List Char := stripFrom 0 text

def diagnosticBlock (message : String) : String :=
  "<div class=\"error-container\">" ++ String.ofList (escape (stripAnsi message.toList)) ++ "</div>"

end LiveMarkup
