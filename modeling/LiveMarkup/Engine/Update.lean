import LiveMarkup.Engine.Error
import LiveMarkup.Format
import LiveMarkup.Token

/-! # Update cycles

An engine lexes, parses and transpiles a source. An update cycle makes the three calls in this order
and stops at the first error; either way it ends in a report.
-/
namespace LiveMarkup

structure TranspileRequest where
  source : String
  format : Format
  mapper : Option Mapper

def TranspileRequest.new (source : String) (format : Format) : TranspileRequest :=
  ⟨source, format, format.mapper⟩

structure Engine where
  lex : String → Except EngineError (List Token)
  parse : String → Except EngineError Json
  transpile : TranspileRequest → Except EngineError String

inductive EngineCall where
  | lex (source : String)
  | parse (source : String)
  | transpile (request : TranspileRequest)

inductive UpdateOutcome where
  | success (transpiled : String) (ast : Json) (tokens : List Token)
  | failure (message : String)

structure UpdateReport where
  source : String
  format : Format
  outcome : UpdateOutcome

namespace UpdateReport

def failed (r : UpdateReport) : Bool :=
  match r.outcome with
  | .success .. => false
  | .failure _ => true

/-- The syntax tree to show: on failure an object that holds the message. -/
def ast (r : UpdateReport) : Json :=
  match r.outcome with
  | .success _ ast _ => ast
  | .failure message => .obj [("error", .str message)]

def tokens (r : UpdateReport) : List Token :=
  match r.outcome with
  | .success _ _ tokens => tokens
  | .failure _ => []

end UpdateReport

namespace Engine

def cycle (engine : Engine) (source : String) (format : Format) :
    Except EngineError UpdateOutcome := do
  let tokens ← engine.lex source
  let ast ← engine.parse source
  let transpiled ← engine.transpile (.new source format)
  .ok (.success transpiled ast tokens)

def update (engine : Engine) (source : String) (format : Format) : UpdateReport :=
  match engine.cycle source format with
  | .ok outcome => ⟨source, format, outcome⟩
  | .error e => ⟨source, format, .failure e.shown⟩

def callsOf (engine : Engine) (source : String) (format : Format) : List EngineCall :=
  match engine.lex source with
  | .error _ => [.lex source]
  | .ok _ => match engine.parse source with
    | .error _ => [.lex source, .parse source]
    | .ok _ => [.lex source, .parse source, .transpile (.new source format)]

end Engine
end LiveMarkup
