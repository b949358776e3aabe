import LiveMarkup.Engine.Update
import LiveMarkup.Markdown.Html
import LiveMarkup.Output.Diagnostic
import LiveMarkup.Output.StaticPane
import LiveMarkup.Output.Sink
import LiveMarkup.Style
import LiveMarkup.Token.Wire

/-! # The documents of the display

Every pane shows an HTML document with a style sheet of its own. An update gives four documents: the
preview of what was transpiled, the transpiled text, the syntax tree and the tokens. A failed update
shows its diagnostic in place of the first two.
-/
namespace LiveMarkup

def document (style body : String) : String :=
  "<!DOCTYPE html>\n<html>\n<head>\n<meta charset=\"utf-8\">\n<style>\n" ++ style ++
    "\n</style>\n</head>\n<body>\n" ++ body ++ "\n</body>\n</html>\n"

def styleRule (selector declarations : String) : String :=
  selector ++ " \x7b " ++ declarations ++ " \x7d"

def errorStyle : String :=
  styleRule "body" "margin: 0; padding: 20px; font-family: monospace;" ++ "\n" ++
  styleRule ".error-container"
    ("background: #101014; border-left: 3px solid #e03131; color: #e0e0e0; " ++
      "padding: 16px; white-space: pre-wrap; word-break: break-word; border-radius: 8px; " ++
      "font-size: 13px; line-height: 1.5;")

def markdownStyle : String :=
  styleRule "body" "font-family: sans-serif; line-height: 1.6; padding: 20px; color: #333;" ++ "\n" ++
  styleRule "h1, h2, h3" "color: #111;" ++ "\n" ++
  styleRule "pre" "background: #f4f4f4; padding: 10px; border-radius: 5px; overflow-x: auto;" ++ "\n" ++
  styleRule "code"
    "background: #f4f4f4; padding: 2px 4px; border-radius: 3px; font-family: monospace;" ++ "\n" ++
  styleRule "blockquote"
    "border-left: 4px solid #ccc; margin: 0; padding-left: 10px; color: #666;"

def textStyle : String :=
  styleRule "body"
    "font-family: monospace; white-space: pre-wrap; padding: 20px; color: #333; background: #fff;"

def codeRules : String :=
  styleRule "body" "margin: 0; background: #101014; color: #e0e0e0;" ++ "\n" ++
  styleRule "pre" "margin: 0; padding: 16px; font-family: monospace; white-space: pre-wrap;" ++ "\n"

def paneStyle : String :=
  codeRules ++
  styleRule ".hl-comment" "color: #707070;" ++ "\n" ++
  styleRule ".hl-string" "color: #69db7c;" ++ "\n" ++
  styleRule ".hl-constant" "color: #fcc419;" ++ "\n" ++
  styleRule ".hl-keyword" "color: #f06595;" ++ "\n" ++
  styleRule ".hl-entity, .hl-tag" "color: #4dabf7;" ++ "\n" ++
  styleRule ".hl-support, .hl-attribute-name" "color: #3bc9db;"

def paneDocument (markup : String) : String :=
  document paneStyle ("<pre class=\"output-content\"><code>" ++ markup ++ "</code></pre>")

def StyleClass.colour : StyleClass → String
  | operator => "#f06595"
  | keyword => "#e03131"
  | identifier => "#4dabf7"
  | value => "#69db7c"
  | text => "#e0e0e0"
  | comment => "#707070"

/-- The document of the live editor: its markup, and a rule for every presentation class. -/
def editorDocument (markup : String) (styles : StyleMap) : String :=
  let rules := StyleClass.all.map fun c =>
    styleRule ("." ++ (styles.className c).text) ("color: " ++ c.colour ++ ";") ++ "\n"
  document (codeRules ++ String.join rules) ("<pre class=\"editor\">" ++ markup ++ "</pre>")

namespace UpdateReport

def preview (r : UpdateReport) : String :=
  match r.outcome with
  | .failure message => document errorStyle (diagnosticBlock message)
  | .success transpiled _ _ =>
    match r.format with
    | .html => document "" transpiled
    | .markdown | .mdx => document markdownStyle (Markdown.toHtml transpiled)
    | .text => document textStyle (escapeText transpiled)

end UpdateReport

def Format.language : Format → PaneLanguage
  | html => .html
  | markdown | mdx => .markdown
  | text => .plainText

structure PanelDocuments where
  preview : String
  transpiled : String
  ast : String
  tokens : String
deriving DecidableEq, Repr

namespace PanelDocuments

def ofReportBy (marker : Marker) (r : UpdateReport) : PanelDocuments where
  preview := r.preview
  transpiled := paneDocument (match r.outcome with
    | .failure message => diagnosticBlock message
    | .success transpiled _ _ => paneMarkupBy marker transpiled r.format.language)
  ast := paneDocument (paneMarkupBy marker r.ast.prettyText .json)
  tokens := paneDocument (paneMarkupBy marker (Token.streamToJson r.tokens).prettyText .json)

def ofReport (r : UpdateReport) : PanelDocuments := ofReportBy grammarMarker r

/-- The documents with their panes, in the order in which they are shown. -/
def shows (d : PanelDocuments) : List (Pane × String) :=
  [(.preview, d.preview), (.transpiled, d.transpiled), (.ast, d.ast), (.tokens, d.tokens)]

end PanelDocuments

/-- Shows documents one after the other up to the first that fails. -/
def showAll {σ : Type} (put : σ → Pane → String → σ × Except IoError Unit) :
    List (Pane × String) → σ → σ × Except IoError Unit
  | [], s => (s, .ok ())
  | (pane, text) :: rest, s =>
    match put s pane text with
    | (s, .ok ()) => showAll put rest s
    | (s, .error e) => (s, .error e)

end LiveMarkup
