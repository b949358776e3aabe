import LiveMarkup.Editor
import LiveMarkup.Engine.Update
import LiveMarkup.Text.Blank
import LiveMarkup.Text.Utf8
import LiveMarkup.Token.Wire

/-! # Engines that are programs

A program engine starts its program once for each call: the name of the call and its options come
behind the configured arguments, the source is the program's input. A program that does not succeed
has told what is wrong on its error stream. The engine reads the output of a program strictly; the
lexer of the editor replaces what is malformed in it.
-/
namespace LiveMarkup

inductive ExitStatus where
  | exited (code : Nat)
  | signalled (number : Nat)
deriving DecidableEq, Repr

def signalNames : List (Nat × String) := [
  (1, "HUP"), (2, "INT"), (3, "QUIT"), (4, "ILL"), (5, "TRAP"), (6, "ABRT"), (7, "BUS"), (8, "FPE"),
  (9, "KILL"), (10, "USR1"), (11, "SEGV"), (12, "USR2"), (13, "PIPE"), (14, "ALRM"), (15, "TERM"),
  (16, "STKFLT"), (17, "CHLD"), (18, "CONT"), (19, "STOP"), (20, "TSTP"), (21, "TTIN"), (22, "TTOU"),
  (23, "URG"), (24, "XCPU"), (25, "XFSZ"), (26, "VTALRM"), (27, "PROF"), (28, "WINCH"), (29, "IO"),
  (30, "PWR"), (31, "SYS")]

namespace ExitStatus

def success (s : ExitStatus) : Bool := s = exited 0

def message : ExitStatus → String
  | exited code => "exit status: " ++ toString code
  | signalled number =>
    let name := match signalNames.find? fun s => s.1 = number with
      | some s => " (SIG" ++ s.2 ++ ")"
      | none => ""
    "signal: " ++ toString number ++ name

end ExitStatus

structure ProcessOutput where
  status : ExitStatus
  output : List UInt8
  errors : List UInt8
deriving DecidableEq, Repr

/-- A way to run programs: a program, its arguments and its input give what the process leaves behind,
or the reason why it could not be started. -/
abbrev Launcher := String → List String → List UInt8 → Except IoError ProcessOutput

namespace ProcessOutput

/-- What went wrong: the error stream without the blanks at its end, or the status if nothing is left
of it. -/
def diagnostic (o : ProcessOutput) : String :=
  match trimEnd (decodeLossy o.errors) with
  | [] => "engine exited with " ++ o.status.message
  | text => String.ofList text

def text (o : ProcessOutput) : Except EngineError String :=
  if o.status.success then
    match decodeUtf8 o.output with
    | some text => .ok (String.ofList text)
    | none => .error .notUtf8
  else .error (.diagnostic o.diagnostic)

def tokens (o : ProcessOutput) : Except EngineError (List Token) := do
  (Token.decode (← o.text)).mapError fun fault => .tokens (.malformed fault)

def editorTokens (o : ProcessOutput) : Except LexError (List Token) :=
  if o.status.success then
    (Token.decode (String.ofList (decodeLossy o.output))).mapError .malformed
  else .error (.rejected o.diagnostic)

def tree (o : ProcessOutput) : Except EngineError Json := do
  (Json.ofText? (← o.text)).mapError .ast

end ProcessOutput

structure ProgramEngine where
  program : String
  arguments : List String := []
  launch : Launcher

namespace ProgramEngine

def run (e : ProgramEngine) (call : List String) (source : String) :
    Except EngineError ProcessOutput :=
  (e.launch e.program (e.arguments ++ call) (encodeUtf8 source.toList)).mapError (.spawn e.program)

def transpileArguments (request : TranspileRequest) : List String :=
  let mapper := match request.mapper with
    | some m => ["--mapper", m.tag]
    | none => []
  ["transpile", "--format", request.format.tag] ++ mapper

def engine (e : ProgramEngine) : Engine where
  lex source := do (← e.run ["lex"] source).tokens
  parse source := do (← e.run ["parse"] source).tree
  transpile request := do (← e.run (transpileArguments request) request.source).text

def editorLexer (e : ProgramEngine) : Lexer := fun source =>
  match e.launch e.program (e.arguments ++ ["lex"]) (encodeUtf8 source.toList) with
  | .error cause => .error (.unavailable cause)
  | .ok output => output.editorTokens

end ProgramEngine
end LiveMarkup
