import LiveMarkup.Highlight.JsonGrammar
import LiveMarkup.Highlight.MarkdownGrammar
import LiveMarkup.Text.Lines

/-! # Markup of the read-only panes

A finished text is shown with the scopes that the grammar of its language finds. Where the grammar
gives up the text is shown without scopes.
-/
namespace LiveMarkup

/-- The languages of the read-only panes. -/
inductive PaneLanguage where
  | html | markdown | json | plainText
deriving DecidableEq, Repr

namespace PaneLanguage

def grammar : PaneLanguage → Highlight.Grammar
  | html => Highlight.htmlGrammar
  | markdown => Highlight.markdownGrammar
  | json => Highlight.jsonGrammar
  | plainText => Highlight.plainGrammar

end PaneLanguage

/-- The markup of a text with the marks found in its lines, or with none. -/
def markedText (text : List Char)
    (marks : Option (List (List Char × List Highlight.ScopeEvent))) : List Char :=
  match marks with
  | some lines => Highlight.linesMarkup 0 lines
  | none => escape text

/-- A way to find the scopes in the lines of a text, or to give up on it. -/
abbrev Marker :=
  PaneLanguage → List (List Char) → Option (List (List Char × List Highlight.ScopeEvent))

def grammarMarker : Marker := fun language => language.grammar.marks

def paneMarkupBy (marker : Marker) (text : String) (language : PaneLanguage) : String :=
  String.ofList (markedText text.toList (marker language (linesWithEndings text.toList)))

def paneMarkup (text : String) (language : PaneLanguage) : String :=
  paneMarkupBy grammarMarker text language

end LiveMarkup
