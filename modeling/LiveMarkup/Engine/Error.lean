import LiveMarkup.Files.IoError
import LiveMarkup.Json.Fault

/-! # What an engine can fail with

An error has a wording of its own and at most a chain of causes; shown to the user is the wording,
then each cause behind a colon.
-/
namespace LiveMarkup

inductive LexError where
  | rejected (diagnostic : String)
  | unavailable (cause : IoError)
  | malformed (cause : JsonFault)

namespace LexError

def message : LexError → String
  | rejected diagnostic => "lexer rejected input: " ++ diagnostic
  | unavailable _ => "lexer unavailable"
  | malformed _ => "malformed token stream"

def causes : LexError → List String
  | rejected _ => []
  | unavailable cause => [cause.message]
  | malformed cause => [cause.message]

end LexError

inductive EngineError where
  | diagnostic (text : String)
  | spawn (program : String) (cause : IoError)
  | io (cause : IoError)
  | notUtf8
  | tokens (cause : LexError)
  | ast (cause : JsonFault)

namespace EngineError

def message : EngineError → String
  | diagnostic text => text
  | spawn program _ => "failed to start engine `" ++ program ++ "`"
  | io _ => "engine i/o failed"
  | notUtf8 => "engine output is not UTF-8"
  | tokens _ => "engine returned an invalid token stream"
  | ast _ => "engine returned an invalid syntax tree"

def causes : EngineError → List String
  | diagnostic _ => []
  | spawn _ cause => [cause.message]
  | io cause => [cause.message]
  | notUtf8 => []
  | tokens cause => cause.message :: cause.causes
  | ast cause => [cause.message]

end EngineError

def chainText (message : String) (causes : List String) : String :=
  ": ".intercalate (message :: causes)

/-- What the user is shown: the diagnostic, or the wording with all causes. -/
def EngineError.shown (e : EngineError) : String := chainText e.message e.causes

end LiveMarkup
