import LiveMarkup.Highlight.Pattern

/-! # Patterns of Markdown panes

What starts the blocks of a document, and what stands between brackets or bars: the grammar looks ahead
for these patterns where a single character does not decide.
-/
namespace LiveMarkup.Highlight

open Pattern

/-! ## Blocks -/

def upToThreeSpaces : Pattern := repeated (some 3) (word " ")

def lineBlanks : Pattern := many (oneOf " \t")

def lineFeed : Pattern := both lineEnd (maybe (word "\n"))

def emptyLine : Pattern := both (many blank) lineEnd

def blankLine : Pattern := all [lineStart, many blank, lineFeed]

def ruleOfMark (mark : String) : Pattern :=
  both (word mark) (times 2 none (both (repeated (some 2) (word " ")) (word mark)))

def thematicBreak : Pattern :=
  all [upToThreeSpaces, any [ruleOfMark "-", ruleOfMark "*", ruleOfMark "_"], lineBlanks, lineEnd]

def quoteStart : Pattern := all [upToThreeSpaces, word ">", either anyChar lineEnd]

def codeIndent : Pattern := either (word "    ") (word "\t")

def itemStart : Pattern :=
  all [upToThreeSpaces, either (oneOf "*+-") (both (some1 digit) (word ".")), blank]

/-- An opening fence, in parts: the blanks in front of it, and the fence. The mark of the fence does not
stand on the line again. -/
def fenceStart : Pattern :=
  let fence (mark : String) : Pattern :=
    both (times 3 none (word mark)) (notAhead (both (many (noneOf (mark ++ "\n"))) (word mark)))
  both (part 1 lineBlanks) (part 2 (either (fence "\x60") (fence "~")))

/-! ## Blocks of markup -/

def sectionTags : List String := [
  "address", "article", "aside", "base", "basefont", "blockquote", "body", "caption", "center", "col",
  "colgroup", "dd", "details", "dialog", "dir", "div", "dl", "dt", "fieldset", "figcaption", "figure",
  "footer", "form", "frame", "frameset", "h1", "h2", "h3", "h4", "h5", "h6", "head", "header", "hr",
  "html", "iframe", "legend", "li", "link", "main", "menu", "menuitem", "meta", "nav", "noframes", "ol",
  "optgroup", "option", "p", "param", "section", "source", "summary", "table", "tbody", "td",
  "tfoot", "th", "thead", "title", "tr", "track", "ul"]

def verbatimTags : List String := ["script", "style", "pre"]

def anyTag (names : List String) : Pattern := any (names.map wordAnyCase)

def sectionStart : Pattern :=
  all [upToThreeSpaces, word "<", maybe (word "/"), anyTag sectionTags,
    any [blank, lineEnd, word ">", word "/>"]]

def verbatimStart : Pattern :=
  all [upToThreeSpaces, word "<", anyTag verbatimTags, any [blank, lineEnd, word ">"]]

def tagAttribute : Pattern :=
  let value : Pattern := any [
    some1 (one fun c => !isBlank c && !"\"'=<>\x60".toList.contains c),
    all [word "'", many (noneOf "'\n"), word "'"], all [word "\"", many (noneOf "\"\n"), word "\""]]
  all [some1 blank, one fun c => c.isAlpha || c = '_' || c = ':',
    many (one fun c => c.isAlphanum || "_.:-".toList.contains c),
    maybe (all [many blank, word "=", many blank, value])]

def lonelyTag : Pattern :=
  let name : Pattern := both (one Char.isAlpha) (many (one fun c => c.isAlphanum || c = '-'))
  all [upToThreeSpaces,
    either (all [word "<", name, many tagAttribute, many blank, maybe (word "/"), word ">"])
      (all [word "</", name, many blank, word ">"]),
    emptyLine]

def enclosedStart : Pattern :=
  all [upToThreeSpaces,
    any [word "<!--", word "<?", word "<![CDATA[", both (word "<!") (one Char.isUpper)]]

def paragraphEnd : Pattern := any [
  quoteStart, word "#", all [upToThreeSpaces, oneOf "*+-", word " "],
  both upToThreeSpaces (word "1. "), sectionStart, verbatimStart, enclosedStart, thematicBreak]

/-! ## Brackets and bars -/

/-- Code between equal numbers of backticks, in parts: the backticks in front and behind. -/
def balancedCode : Pattern :=
  let code (count : Nat) : Pattern :=
    let fence := times count (some count) (word "\x60")
    let inside := either (noneOf "\x60\n")
      (all [notAhead (both fence (notAhead (word "\x60"))), some1 (word "\x60")])
    all [part 1 fence, notAhead (either blank (word "\x60")), some1 inside, part 2 fence,
      notAhead (word "\x60")]
  any [code 4, code 3, code 2, code 1]

def escape : Pattern := both (word "\\") (oneOf "-\x60*_#+.!()\x7b\x7d[]\\>|")

/-- Text whose brackets and backticks have their partners; brackets may be nested once. -/
def balancedText : Pattern :=
  let plain : Pattern := either (noneOf "[]\x60\\\n") (both (word "\\") (notAhead (oneOf "[]\\")))
  some1 (any [escape, plain, balancedCode,
    all [word "[", many (any [escape, plain, balancedCode]), word "]"]])

/-- The target of a link in place, in parts: a space that should not be there, the opening parenthesis,
the angle brackets around the address and the address, the title with its quotes in three forms, and the
closing parenthesis. -/
def inPlaceTarget : Pattern :=
  let title (number : Nat) (first last : String) : Pattern :=
    part number (all [part (number + 1) (word first), both anyChar (fewest anyChar),
      part (number + 2) (word last)])
  all [part 1 (maybe (word " ")), part 2 (word "("), part 3 (maybe (word "<")),
    part 4 (both solid (fewest solid)), part 5 (maybe (word ">")), lineBlanks,
    maybe (any [title 6 "(" ")", title 9 "\"" "\"", title 12 "'" "'"]), many blank,
    part 15 (word ")")]

/-- The text of a cell: its backticks have their partners and its bars are escaped. -/
def cellText : Pattern :=
  some1 (any [both (word "\\") anyChar, balancedCode, noneOf "\x60|\\\n"])

/-- The first row of a table: two bars, or one bar with text around it. -/
def tableStart : Pattern :=
  either (times 2 none (both (maybe cellText) (word "|")))
    (all [notAhead (both (some1 blank) (word "|")), cellText, word "|",
      notAhead (both (some1 blank) lineEnd)])

def alignmentRow : Pattern :=
  all [many (oneOf " \t|:"), word "-", many (oneOf " \t|:-"), lineEnd]

end LiveMarkup.Highlight
