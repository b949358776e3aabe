import LiveMarkup.Text.Utf8
import LiveMarkup.Markdown.Outline
import LiveMarkup.Markdown.RunningText

/-! # Markdown as HTML

Every block starts on a new line and most end with one. What has been written so far decides whether a
line feed is needed in front of a block.
-/
namespace LiveMarkup.Markdown

/-- Text between tags: only the characters that could start or end a tag or a reference are written
as references. -/
def bodyText (text : List Char) : List Char :=
  text.flatMap fun c =>
    if c = '&' then "&amp;".toList
    else if c = '<' then "&lt;".toList
    else if c = '>' then "&gt;".toList
    else [c]

def attributeText (text : List Char) : List Char :=
  text.flatMap fun c =>
    if c = '"' then "&quot;".toList else if c = '\'' then "&#39;".toList else bodyText [c]

def isAddressChar (c : Char) : Bool :=
  c.isAlphanum || ['!', '#', '$', '%', '(', ')', '*', '+', ',', '-', '.', '/', ':', ';', '=', '?', '@',
    '^', '_', '~'].contains c

def percentDigit (n : Nat) : Char := if n < 10 then Char.ofNat (48 + n) else Char.ofNat (55 + n)

/-- An address inside the quotes of an attribute: what may not stand in an address is written byte by
byte in percent escapes. -/
def addressText (address : List Char) : List Char :=
  address.flatMap fun c =>
    if isAddressChar c then [c]
    else if c = '&' then "&amp;".toList
    else if c = '\'' then "&#x27;".toList
    else (encodeUtf8 [c]).flatMap fun b =>
      ['%', percentDigit (b.toNat / 16), percentDigit (b.toNat % 16)]

mutual

def Span.plain : Span → List Char
  | .text content | .code content | .tag content => attributeText content
  | .softBreak | .hardBreak => [' ']
  | .emphasis children | .strong children | .deleted children | .link _ _ children
  | .image _ _ children => plainText children

def plainText : List Span → List Char
  | [] => []
  | s :: rest => s.plain ++ plainText rest

end

def titleAttribute (title : List Char) : List Char :=
  if title.isEmpty then [] else " title=\"".toList ++ attributeText title ++ ['"']

mutual

def Span.html : Span → List Char
  | .text content => bodyText content
  | .code content => "<code>".toList ++ bodyText content ++ "</code>".toList
  | .tag content => content
  | .softBreak => ['\n']
  | .hardBreak => "<br />\n".toList
  | .emphasis children => "<em>".toList ++ spansHtml children ++ "</em>".toList
  | .strong children => "<strong>".toList ++ spansHtml children ++ "</strong>".toList
  | .deleted children => "<del>".toList ++ spansHtml children ++ "</del>".toList
  | .link destination title children =>
    "<a href=\"".toList ++ addressText destination ++ ['"'] ++ titleAttribute title ++ ['>'] ++
      spansHtml children ++ "</a>".toList
  | .image source title children =>
    "<img src=\"".toList ++ addressText source ++ "\" alt=\"".toList ++ plainText children ++ ['"'] ++
      titleAttribute title ++ " />".toList

def spansHtml : List Span → List Char
  | [] => []
  | s :: rest => s.html ++ spansHtml rest

end

def textHtml (definitions : Definitions) (content : Prose) : String :=
  String.ofList (spansHtml (spansOf definitions content))

/-- What has been written, with a line feed behind it unless it ends with one or is empty. -/
def onNewLine (out : String) : String :=
  if out.isEmpty || out.back = '\n' then out else out ++ "\n"

def taskHtml : Option Bool → String
  | none => ""
  | some true => "<input disabled=\"\" type=\"checkbox\" checked=\"\"/>\n"
  | some false => "<input disabled=\"\" type=\"checkbox\"/>\n"

def cellsHtml (definitions : Definitions) (name : String) (columns : List Alignment)
    (cells : List Prose) : String :=
  String.join ((columns.zip cells).map fun (column, cell) =>
    let style := match column with
      | .unset => ""
      | .left => " style=\"text-align: left\""
      | .center => " style=\"text-align: center\""
      | .right => " style=\"text-align: right\""
    "<" ++ name ++ style ++ ">" ++ textHtml definitions cell ++ "</" ++ name ++ ">")

mutual

/-- Writes a block behind what has been written; paragraphs directly in a tight list are bare. -/
def Block.write (definitions : Definitions) (tight : Bool) (out : String) : Block → String
  | .paragraph done content =>
    let text := taskHtml done ++ textHtml definitions content
    if tight then out ++ text else onNewLine out ++ "<p>" ++ text ++ "</p>\n"
  | .heading level done content =>
    let name := "h" ++ toString level
    onNewLine out ++ "<" ++ name ++ ">" ++ taskHtml done ++ textHtml definitions content ++ "</" ++ name ++ ">\n"
  | .task done => out ++ taskHtml (some done)
  | .rule => onNewLine out ++ "<hr />\n"
  | .code info content =>
    let language := info.takeWhile (· != ' ')
    onNewLine out ++
      (if language.isEmpty then "<pre><code>"
        else "<pre><code class=\"language-" ++ String.ofList (attributeText language) ++ "\">") ++
      String.ofList (bodyText content) ++ "</code></pre>\n"
  | .markup content => out ++ String.ofList content
  | .quote children =>
    writeBlocks definitions false (onNewLine out ++ "<blockquote>\n") children ++ "</blockquote>\n"
  | .list start tight items =>
    let (opening, closing) := match start with
      | none => ("<ul>\n", "</ul>\n")
      | some 1 => ("<ol>\n", "</ol>\n")
      | some n => ("<ol start=\"" ++ toString n ++ "\">\n", "</ol>\n")
    writeBlocks definitions tight (onNewLine out ++ opening) items ++ closing
  | .item children => writeBlocks definitions tight (onNewLine out ++ "<li>") children ++ "</li>\n"
  | .table columns head rows =>
    let body := rows.map fun row => "<tr>" ++ cellsHtml definitions "td" columns row ++ "</tr>\n"
    out ++ "<table><thead><tr>" ++ cellsHtml definitions "th" columns head ++
      "</tr></thead><tbody>\n" ++ String.join body ++ "</tbody></table>\n"

def writeBlocks (definitions : Definitions) (tight : Bool) (out : String) : List Block → String
  | [] => out
  | b :: rest => writeBlocks definitions tight (b.write definitions tight out) rest

end

def toHtml (text : String) : String :=
  let d := Document.ofText text.toList
  writeBlocks d.definitions false "" d.blocks

end LiveMarkup.Markdown
