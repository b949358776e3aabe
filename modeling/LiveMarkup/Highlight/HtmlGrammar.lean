import LiveMarkup.Highlight.Grammar

/-! # The grammar of HTML panes

Tags by the family of their name, attributes with their values, comments, declarations, and character
references.
-/
namespace LiveMarkup.Highlight

open Pattern

def structureTags : List String := ["body", "head", "html"]

def blockTags : List String := [
  "address", "applet", "article", "aside", "blockquote", "center", "dd", "dir", "div", "dl", "dt",
  "footer", "frame", "frameset", "h1", "h2", "h3", "h4", "h5", "h6", "header", "iframe", "menu",
  "nav", "noframes", "object", "ol", "p", "pre", "section", "ul"]

def ruleTags : List String := ["hr"]

def formTags : List String := ["form", "fieldset"]

def inlineTags : List String := [
  "abbr", "acronym", "area", "b", "base", "basefont", "bdo", "big", "br", "caption", "cite", "code",
  "del", "dfn", "em", "font", "i", "img", "ins", "isindex", "kbd", "li", "link", "map", "meta",
  "noscript", "param", "q", "s", "samp", "small", "span", "strike", "strong", "sub", "sup", "title",
  "tt", "u", "var"]

def fieldTags : List String :=
  ["button", "input", "label", "legend", "optgroup", "option", "select", "textarea"]

def tableTags : List String :=
  ["col", "colgroup", "table", "tbody", "td", "tfoot", "th", "thead", "tr"]

/-- The characters of the names of custom tags, capital letters excepted. -/
def customRanges : List (Nat × Nat) := [
  (0x2d, 0x2e), (0x30, 0x39), (0x5f, 0x5f), (0x61, 0x7a), (0xb7, 0xb7), (0xc0, 0xd6), (0xd8, 0xf6),
  (0xf8, 0x37d), (0x37f, 0x1fff), (0x200c, 0x200d), (0x203f, 0x2040), (0x2070, 0x218f),
  (0x2c00, 0x2fef), (0x3001, 0xd7ff), (0xf900, 0xfdcf), (0xfdf0, 0xfffd), (0x10000, 0xeffff)]

/-- The name of a custom tag: a letter, and a hyphen somewhere behind it. -/
def customName (capitals : Bool) : Pattern :=
  let char : Pattern := one fun c =>
    customRanges.any (fun r => r.1 ≤ c.toNat && c.toNat ≤ r.2) || (capitals && c.isUpper)
  all [one fun c => c.isLower || (capitals && c.isUpper), many char, word "-", many char]

def tagStart (name : Pattern) : Pattern :=
  both (part 1 (both (word "<") (maybe (word "/")))) (part 2 name)

/-- One of some names, in any case, up to the end of the word. -/
def tagNameOf (names : List String) : Pattern :=
  both (any (names.map wordAnyCase)) (all [wordEdge, notAhead (word "-")])

def tagRuleIn (name : Pattern) (family context : String) : Clause :=
  paintParts (tagStart name)
    [(1, "punctuation.definition.tag.begin.html"), (2, "entity.name.tag." ++ family ++ ".html")]
    (.enter [context])

def tagRule (name : Pattern) (family : String) : Clause := tagRuleIn name family family

/-- The inside of the tags of a family; tags in running text may close themselves. -/
def tagContextIn (family context : String) (closing : Pattern) : Context where
  name := context
  around := [scope ("meta.tag." ++ family ++ ".html")]
  clauses := [paintLeave closing "punctuation.definition.tag.end.html", .rulesOf "attributes"]

def tagContext (family : String) (closing : Pattern) : Context := tagContextIn family family closing

def selfClosing : Pattern := both (maybe (both (maybe (word " ")) (word "/"))) (word ">")

def attributeName : Pattern :=
  all [afterBlank, one fun c => c.isAlpha || c = '_' || c = ':',
    many (one fun c => c.isAlphanum || "_:.-".toList.contains c)]

def bareValueChar : Pattern :=
  either (one fun c => !isBlank c && c != '<' && c != '>' && c != '/' && c != '"' && c != '\'')
    (both (word "/") (notAhead (word ">")))

def attributeRule (name : Pattern) (kind : String) : Clause :=
  .rule ⟨all [part 1 name, many blank, part 2 (word "="), many blank],
    [scope ("meta.attribute-with-value" ++ kind ++ ".html")],
    [(1, [scope ("entity.other.attribute-name" ++ kind ++ ".html")]),
      (2, [scope "punctuation.separator.key-value.html"])],
    .enter ["value" ++ kind]⟩

def valueContexts (kind : String) (inside : List Scope) : List Context :=
  let around := scope ("meta.attribute-with-value" ++ kind ++ ".html")
  let quoted (quote style : String) : Context :=
    { name := style ++ kind, around := [around, scope ("string.quoted." ++ style ++ ".html")], inside
      clauses := [paintLeave (word quote) "punctuation.definition.string.end.html",
        .rulesOf "reference"] }
  [{ name := "value" ++ kind
     clauses := [
       paintAnd (.exchange ["double" ++ kind]) (word "\"") "punctuation.definition.string.begin.html",
       paintAnd (.exchange ["single" ++ kind]) (word "'") "punctuation.definition.string.begin.html",
       .rule ⟨some1 bareValueChar, [around, scope "string.unquoted.html"] ++ inside, [], .leave⟩,
       bare (ahead solid) .leave] },
   quoted "\"" "double", quoted "'" "single"]

def htmlClauses : List Clause := [
  paintParts (both (part 1 (word "<?")) (part 2 (word "xml")))
    [(1, "punctuation.definition.tag.begin.html"), (2, "entity.name.tag.xml.html")]
    (.enter ["instruction"]),
  paintEnter (word "<!--") "punctuation.definition.comment.begin.html" ["comment"],
  paintEnter (word "<!") "punctuation.definition.tag.html" ["declaration"],
  tagRule (tagNameOf structureTags) "structure.any",
  tagRule (tagNameOf blockTags) "block.any",
  tagRuleIn (tagNameOf ruleTags) "block.any" "rule",
  tagRule (tagNameOf formTags) "block.form",
  tagRule (tagNameOf inlineTags) "inline.any",
  tagRule (tagNameOf fieldTags) "inline.form",
  tagRule (tagNameOf ["a"]) "inline.a",
  tagRule (tagNameOf tableTags) "inline.table",
  tagRule (both (customName false) (notAhead (one Char.isUpper))) "custom",
  paintParts (tagStart (customName true))
    [(1, "punctuation.definition.tag.begin.html"),
      (2, "invalid.illegal.uppercase-custom-tag-name.html")]
    (.enter ["custom"]),
  tagRule (some1 (one fun c => c.isAlphanum || c = ':')) "other",
  .rulesOf "reference",
  paint (word "&") "invalid.illegal.bad-ampersand.html",
  paint (word "<>") "invalid.illegal.incomplete.html"]

def htmlContexts : List Context := [
  { name := "html", clauses := htmlClauses },
  { name := "reference"
    clauses := [
      .rule ⟨all [part 1 (word "&"),
          any [some1 (one Char.isAlphanum), both (word "#") (some1 digit),
            both (word "#x") (some1 hexDigit)], part 2 (word ";")],
        [scope "constant.character.entity.html"],
        [(1, [scope "punctuation.definition.entity.html"]),
          (2, [scope "punctuation.definition.entity.html"])], .stay⟩] },
  { name := "comment", around := [scope "comment.block.html"]
    clauses := [
      paintLeave (all [word "--", many blank, word ">"]) "punctuation.definition.comment.end.html",
      paint (word "--") "invalid.illegal.bad-comments-or-CDATA.html"] },
  { name := "declaration", around := [scope "meta.tag.sgml.html"]
    clauses := [
      paintLeave (word ">") "punctuation.definition.tag.html",
      paintEnter (wordAnyCase "doctype") "entity.name.tag.doctype.html" ["doctype"],
      bare (word "[CDATA[") (.enter ["data"]),
      paint (all [many blank, notAhead (either (word "--") (word ">")), solid, many blank])
        "invalid.illegal.bad-comments-or-CDATA.html"] },
  { name := "doctype", around := [scope "meta.tag.sgml.doctype.html"]
    clauses := [
      bare (ahead (word ">")) .leave,
      paint (all [word "\"", many (noneOf "\">"), word "\""])
        "string.quoted.double.doctype.identifiers-and-DTDs.html"] },
  { name := "data", around := [scope "constant.other.inline-data.html"]
    clauses := [bare (both (word "]]") (ahead (word ">"))) .leave] },
  { name := "instruction", around := [scope "meta.tag.preprocessor.xml.html"]
    clauses := [
      paintLeave (word "?>") "punctuation.definition.tag.end.html", .rulesOf "attributes"] },
  tagContext "structure.any" (word ">"),
  tagContext "block.any" (word ">"),
  tagContextIn "block.any" "rule" selfClosing,
  tagContext "block.form" (word ">"),
  tagContext "inline.any" selfClosing,
  tagContext "inline.form" selfClosing,
  tagContext "inline.a" selfClosing,
  tagContext "inline.table" selfClosing,
  tagContext "custom" selfClosing,
  tagContext "other" selfClosing,
  { name := "attributes"
    clauses := [
      attributeRule (all [afterBlank, word "id"]) ".id",
      attributeRule (all [afterBlank, word "class"]) ".class",
      attributeRule attributeName "",
      paint attributeName "entity.other.attribute-name.html"] }] ++
  valueContexts ".id" [scope "meta.toc-list.id.html"] ++
  valueContexts ".class" [scope "meta.class-name.html"] ++
  valueContexts "" []

def htmlGrammar : Grammar where
  scope := scope "text.html.basic"
  contexts := htmlContexts

def plainGrammar : Grammar where
  scope := scope "text.plain"
  contexts := [{ name := "text", clauses := [] }]

end LiveMarkup.Highlight
