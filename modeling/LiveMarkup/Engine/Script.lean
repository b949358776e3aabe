import LiveMarkup.Editor
import LiveMarkup.Engine.Update
import LiveMarkup.Text.Search

/-! # Scripted engines

A scripted engine answers from a list of rules: the first rule whose mark occurs in the source decides
what the three calls give and how long they take. Without a rule the engine finds no tokens, an empty
document, and a paragraph around the source.
-/
namespace LiveMarkup

/-- What an engine answers to sources with a mark. -/
structure ScriptRule where
  mark : String := ""
  lex : Except EngineError (List Token) := .ok []
  editorLex : Except LexError (List Token) := .ok []
  parse : Except EngineError Json := .ok (.obj [("type", .str "Document")])
  transpile : Except EngineError String := .ok "<p>\x7bsource\x7d</p>"
  lexDelay : Nat := 0
  parseDelay : Nat := 0
  transpileDelay : Nat := 0

namespace ScriptRule

/-- Fills in a template: the format, the mapper and the source, in this order. -/
def fill (template : String) (request : TranspileRequest) : String :=
  let mapper := match request.mapper with
    | some m => m.tag
    | none => "none"
  let put (name value : String) (text : List Char) : List Char :=
    replaceFrom ('\x7b' :: name.toList ++ ['\x7d']) value.toList 0 text
  String.ofList
    (put "source" request.source (put "mapper" mapper
      (put "format" request.format.tag template.toList)))

end ScriptRule

def ruleFor (rules : List ScriptRule) (source : String) : ScriptRule :=
  (rules.find? fun r => occursIn r.mark.toList source.toList).getD {}

def Engine.ofRules (rules : List ScriptRule) : Engine where
  lex source := (ruleFor rules source).lex
  parse source := (ruleFor rules source).parse
  transpile request :=
    (ruleFor rules request.source).transpile.map fun template => ScriptRule.fill template request

def Lexer.ofRules (rules : List ScriptRule) : Lexer :=
  fun source => (ruleFor rules source).editorLex

end LiveMarkup
