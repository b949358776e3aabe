import LiveMarkup.Highlight.HtmlGrammar
import LiveMarkup.Highlight.MarkdownText

/-! # The grammar of Markdown panes

Blocks start at the start of a line: quotes, indented code, headings, rules and tables form one family;
lists, blocks of markup, definitions and paragraphs come behind them. Fenced code and underlines belong
to a paragraph.
-/
namespace LiveMarkup.Highlight

open Pattern

/-- The rules of running text, and of HTML where nothing else fits. -/
def textAndMarkup : List Clause := [.rulesOf "text", .rulesOf "html"]

def leaveAtLineStart : Clause := bare lineStart .leave

/-! ## Headings, code, rules -/

def headingContext (level : Nat) : Context where
  name := "heading " ++ toString level
  around := [mdScope ("markup.heading." ++ toString level)]
  inside := [mdScope "entity.name.section"]
  clauses := [
    paintParts (all [many (word " "), part 1 (many (word "#")), many (word " "), part 2 lineFeed])
      [(1, "punctuation.definition.heading.end.markdown"),
        (2, "meta.whitespace.newline.markdown")] .leave,
    .rulesOf "text"]

def headingRule (level : Nat) : Clause :=
  paintParts (all [part 1 (marks "#" level), notAhead (word "#"), many blank, ahead solid])
    [(1, "punctuation.definition.heading.begin.markdown")]
    (.enter ["heading " ++ toString level])

def indentedCodeRule : Clause :=
  paint (all [codeIndent, many anyChar, lineFeed]) "markup.raw.block.markdown"

def lineRules : List Clause :=
  indentedCodeRule :: (List.range 6).map (fun n => headingRule (n + 1)) ++
    [bare (ahead thematicBreak) (.enter ["break"])]

def lineRuleStart : Pattern :=
  any [both codeIndent (notAhead lineEnd), word "#", thematicBreak]

/-! ## Lists -/

def listName (numbered : Bool) : String := if numbered then "numbered" else "unnumbered"

def listScope (numbered : Bool) : Scope := mdScope ("markup.list." ++ listName numbered)

def bulletScope (numbered : Bool) : Scope :=
  mdScope ("markup.list." ++ listName numbered ++ ".bullet")

def bulletMark : Scope := mdScope "punctuation.definition.list_item"

def itemScope : Scope := mdScope "meta.paragraph.list"

def bulletRule (front : Pattern) (numbered : Bool) (contexts : List String) : Clause :=
  let mark : Pattern := part 2 (if numbered then word "." else oneOf "*+-")
  let bullet : Pattern := part 1 (if numbered then both (some1 digit) mark else mark)
  .rule ⟨all [front, bullet, ahead blank], [],
    [(1, [bulletScope numbered]), (2, [bulletMark])], .enter contexts⟩

def bulletRules (front : Pattern) (contexts : Bool → List String) : List Clause :=
  [bulletRule front false (contexts false), bulletRule front true (contexts true)]

/-- The contexts of lists with or without numbers: the list, up to a line that is not indented behind a
blank one, and the text of an item that follows another one directly. -/
def listContexts (numbered : Bool) : List Context := [
  { name := listName numbered, inside := [listScope numbered]
    clauses := bare (both lineStart (ahead solid)) .leave :: indentedCodeRule :: .rulesOf "quotes" ::
      bulletRules nothing (fun n => ["items", listName n ++ " item"]) ++
      [bare (ahead solid) (.enter ["items", "first item"])] },
  { name := listName numbered ++ " item", hides := 1, inside := [listScope numbered, itemScope]
    clauses := leaveAtLineStart :: textAndMarkup }]

/-- The contexts of all lists: items up to a blank line, and the text of the first one. -/
def itemContexts : List Context := [
  { name := "items"
    clauses := bare (both lineStart (ahead emptyLine)) .leave ::
      bulletRules nothing (fun n => [listName n ++ " item"]) ++
      [bare (ahead solid) (.enter ["first item"])] },
  { name := "first item", around := [itemScope], clauses := leaveAtLineStart :: textAndMarkup }]

/-! ## Quotes -/

def quotedBulletRule (numbered : Bool) : Clause :=
  let bullet : Pattern :=
    if numbered then both (part 1 (some1 digit)) (part 2 (word ".")) else part 2 (oneOf "*+-")
  .rule ⟨all [bullet, part 3 blank], [],
    [(1, [bulletScope numbered]), (2, [bulletScope numbered, bulletMark]),
      (3, [listScope numbered])],
    .enter ["quoted " ++ listName numbered]⟩

/-- The contexts of quotes. Each line of a quote with a mark of its own is a quote for itself. -/
def quoteContexts : List Context := [
  { name := "quotes"
    clauses := [
      paintParts (all [upToThreeSpaces, part 1 (word ">"), maybe (word " ")])
        [(1, "punctuation.definition.blockquote.markdown")] (.enter ["quote"])] },
  { name := "quote", around := [mdScope "markup.quote"]
    clauses := [
      bare (both lineStart (ahead (either emptyLine quoteStart))) .leave,
      bare (ahead quoteStart) (.enter ["nested quote"]),
      bare (ahead lineRuleStart) (.enter ["quoted line"]),
      quotedBulletRule false, quotedBulletRule true,
      bare nothing (.enter ["quoted text"])] },
  { name := "nested quote", clauses := [leaveAtLineStart, .rulesOf "quotes"] },
  { name := "quoted line", clauses := leaveAtLineStart :: lineRules },
  { name := "quoted text", clauses := [bare (either lineStart lineEnd) .leave, .rulesOf "text"] },
  { name := "quoted unnumbered", inside := [listScope false, itemScope]
    clauses := [leaveAtLineStart, .rulesOf "text"] },
  { name := "quoted numbered", inside := [listScope true, itemScope]
    clauses := [leaveAtLineStart, .rulesOf "text"] }]

/-! ## Tables -/

/-- What stands in cells. Emphasis is closed in its cell, and so is code. -/
def cellRules : List Clause :=
  let emphasis (e : Emphasis) (mark : String) : Clause :=
    .rule ⟨all [openingEdge e mark, marks mark e.width, ahead solid, notAhead (word mark),
        ahead (all [some1 (noneOf "|\n"), marks mark e.width])],
      [e.opening], [], .enter [e.name ++ " " ++ mark]⟩
  paint escape "constant.character.escape.markdown" ::
    paint (word "|") "punctuation.separator.table-cell.markdown" ::
    .rule ⟨balancedCode, [mdScope "markup.raw.inline"],
      [(1, [mdScope "punctuation.definition.raw.begin"]),
        (2, [mdScope "punctuation.definition.raw.end"])], .stay⟩ ::
    paint (word "\x60") "invalid.deprecated.unescaped-backticks.markdown" ::
    emphasisMarks.map (emphasis .bold) ++ emphasisMarks.map (emphasis .italic) ++ linkRules

/-- The contexts of tables: the heads, the row that sets the columns, and the other rows. -/
def tableContexts : List Context := [
  { name := "table", inside := [mdScope "meta.table.header"]
    clauses := bare (word "\n") (.exchange ["table behind heads"]) :: cellRules },
  { name := "table behind heads"
    clauses := [
      bare (both lineStart (ahead alignmentRow)) (.exchange ["table columns"]), leaveAtLineStart] },
  { name := "table columns", inside := [mdScope "meta.table.header-separator"]
    clauses := [
      paint (word "|") "punctuation.separator.table-cell.markdown",
      paint (word ":") "punctuation.definition.table-cell-alignment.markdown",
      paint (some1 (word "-")) "punctuation.section.table-header.markdown",
      bare (word "\n") (.exchange ["table rows"])] },
  { name := "table rows", inside := [mdScope "meta.table"]
    clauses := bare (both lineStart (ahead (any [emptyLine, quoteStart, lineRuleStart, itemStart])))
      .leave :: cellRules }]

/-! ## Markup -/

def markupScope : Scope := scope "meta.disable-markdown"

def markupContext (name : String) (last : List String) : Context where
  name
  around := [markupScope]
  clauses := [bare (any (last.map afterWord)) (.exchange ["rest of markup"]), .rulesOf "html"]

def markupRules : List Clause :=
  let start (p : Pattern) (context : String) : Clause := bare (both lineStart (ahead p)) (.enter [context])
  let word (w : String) : Pattern := both upToThreeSpaces (Pattern.word w)
  [start verbatimStart "verbatim", start (word "<!--") "comment block",
    start (word "<?") "instruction block", start (word "<![CDATA[") "data block",
    start enclosedStart "declaration block", start (either sectionStart lonelyTag) "section"]

def markupContexts : List Context := [
  markupContext "verbatim" (verbatimTags.map fun t => "</" ++ t ++ ">"),
  markupContext "comment block" ["-->"],
  markupContext "instruction block" ["?>"],
  markupContext "data block" ["]]>"],
  markupContext "declaration block" [">"],
  { name := "rest of markup", around := [markupScope], clauses := [bare lineFeed .leave] },
  { name := "section", around := [markupScope], clauses := [bare blankLine .leave, .rulesOf "html"] }]

/-! ## Definitions -/

def definitionRule : Clause :=
  let title (number : Nat) (first last : String) : Pattern :=
    part number (all [part (number + 1) (word first), both anyChar (fewest anyChar),
      part (number + 2) (word last)])
  let titleParts (number : Nat) : List (Nat × List Scope) := [
    (number, [mdScope "string.other.link.description.title"]),
    (number + 1, [mdScope "punctuation.definition.string.begin"]),
    (number + 2, [mdScope "punctuation.definition.string.end"])]
  .rule ⟨all [lineStart, upToThreeSpaces, part 1 (word "["), part 2 (some1 (noneOf "[]\n")),
      part 3 (word "]"), part 4 (word ":"), lineBlanks, part 5 (maybe (word "<")),
      part 6 (both solid (fewest solid)), part 7 (maybe (word ">")), lineBlanks,
      maybe (any [title 8 "(" ")", title 11 "\"" "\"", title 14 "'" "'"]), emptyLine],
    [mdScope "meta.link.reference.def"],
    [(1, [mdScope "punctuation.definition.constant.begin"]),
      (2, [mdScope "entity.name.reference.link"]),
      (3, [mdScope "punctuation.definition.constant.end"]),
      (4, [mdScope "punctuation.separator.key-value"]),
      (5, [mdScope "punctuation.definition.link.begin"]),
      (6, [mdScope "markup.underline.link"]),
      (7, [mdScope "punctuation.definition.link.end"])] ++
      titleParts 8 ++ titleParts 11 ++ titleParts 14, .stay⟩

/-! ## Paragraphs -/

def underlineRule (mark : String) (level : Nat) : Clause :=
  .rule ⟨all [lineStart, part 1 (times 3 none (word mark)), ahead (both lineBlanks lineEnd)],
    [mdScope ("markup.heading." ++ toString level ++ ".setext")],
    [(1, [mdScope "punctuation.definition.heading.setext"])], .leave⟩

def paragraphContexts : List Context := [
  { name := "paragraph", around := [mdScope "meta.paragraph"]
    clauses := [
      bare blankLine .leave, underlineRule "=" 1, underlineRule "-" 2,
      bare (both lineStart (ahead paragraphEnd)) .leave,
      .rule ⟨both lineStart fenceStart, [],
        [(2, [mdScope "punctuation.definition.raw.code-fence.begin"])], .enter ["fence"]⟩] ++
      textAndMarkup },
  { name := "fence", around := [mdScope "markup.raw.code-fence"]
    clauses := [
      paintLeave (all [again 2, many blank, lineFeed])
        "punctuation.definition.raw.code-fence.end.markdown"] }]

/-! ## Documents -/

def markdownContexts : List Context := [
  { name := "markdown"
    clauses :=
      bare (both lineStart (ahead (any [quoteStart, lineRuleStart, tableStart]))) (.enter ["block"]) ::
      bulletRules (both lineStart upToThreeSpaces) (fun n => [listName n]) ++ markupRules ++ [
      definitionRule,
      bare (all [lineStart, ahead solid,
        notAhead (both (times 3 none (oneOf "=-")) lineEnd)]) (.enter ["paragraph"])] },
  { name := "block", around := [mdScope "meta.block-level"]
    clauses := .rulesOf "quotes" :: lineRules ++
      [bare (both lineStart (ahead tableStart)) (.enter ["table"]), bare nothing .leave] },
  { name := "break", around := [mdScope "meta.separator.thematic-break"]
    clauses := [
      paint (some1 (oneOf "-_*")) "punctuation.definition.thematic-break.markdown",
      bare lineFeed .leave] }] ++
  listContexts false ++ listContexts true ++ itemContexts ++ quoteContexts ++ tableContexts ++
  markupContexts ++ paragraphContexts ++ textContexts ++
  (List.range 6).map fun n => headingContext (n + 1)

def markdownGrammar : Grammar where
  scope := scope "text.html.markdown"
  contexts := markdownContexts ++ htmlContexts

end LiveMarkup.Highlight
