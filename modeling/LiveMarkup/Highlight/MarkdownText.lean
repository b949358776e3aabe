import LiveMarkup.Highlight.Grammar
import LiveMarkup.Highlight.MarkdownPattern

/-! # Running text of Markdown panes

Escapes, code, emphasis, links, images and addresses. Where something opens that nothing closes, it
goes on over the lines; a blank line ends it.
-/
namespace LiveMarkup.Highlight

open Pattern

def mdScope (names : String) : Scope := scope (names ++ ".markdown")

/-! ## Code -/

def codeRule : Clause :=
  paintEnter (part 1 (some1 (word "\x60"))) "punctuation.definition.raw.begin.markdown" ["code"]

def codeContext : Context where
  name := "code"
  around := [mdScope "markup.raw.inline"]
  clauses := [
    paintLeave (both (again 1) (notAhead (word "\x60"))) "punctuation.definition.raw.end.markdown",
    bare (some1 (word "\x60")) .stay,
    paintLeave blankLine "invalid.illegal.non-terminated.raw.markdown"]

/-! ## Emphasis -/

inductive Emphasis where
  | bold | italic
deriving DecidableEq

namespace Emphasis

def name : Emphasis → String
  | bold => "bold"
  | italic => "italic"

def width : Emphasis → Nat
  | bold => 2
  | italic => 1

def markup (e : Emphasis) : Scope := mdScope ("markup." ++ e.name)

def opening (e : Emphasis) : Scope := mdScope ("punctuation.definition." ++ e.name ++ ".begin")

def closing (e : Emphasis) : Scope := mdScope ("punctuation.definition." ++ e.name ++ ".end")

def other : Emphasis → Emphasis
  | bold => italic
  | italic => bold

end Emphasis

/-- The edge of a word, where the mark is an underscore: inside a word it is none. -/
def markEdge (mark : String) : Pattern := if mark = "_" then wordEdge else nothing

/-- Where marks can open emphasis: an underscore at the edge of a word, and a single star behind none. -/
def openingEdge (e : Emphasis) (mark : String) : Pattern :=
  if e = .italic && mark = "*" then after fun front => front.head? != some '*' else markEdge mark

def marks (mark : String) (count : Nat) : Pattern := times count (some count) (word mark)

/-- Marks that neither open nor close emphasis: too many of them, behind a blank, or at the start of a
line. -/
def looseMarks (mark : String) : List Clause := [
  bare (both lineBlanks (times 4 none (word mark))) .stay,
  bare (all [some1 (oneOf " \t"), word mark, notAhead (word mark)]) .stay,
  bare (all [lineStart, word mark, notAhead (word mark)]) .stay]

/-- What ends emphasis that nothing closes: a blank line, and the start of an item. -/
def emphasisStops : List Clause := [
  paintLeave blankLine "invalid.illegal.non-terminated.bold-italic.markdown",
  bare (both lineStart (ahead itemStart)) .leave]

def emphasisRule (e : Emphasis) (mark : String) : Clause :=
  .rule ⟨all [openingEdge e mark, marks mark e.width, ahead solid, notAhead (word mark)], [e.opening], [],
    .enter [e.name ++ " " ++ mark]⟩

def doubleRule (mark : String) : Clause :=
  .rule ⟨all [markEdge mark, part 1 (marks mark 2), part 2 (word mark), ahead solid,
      notAhead (word mark)],
    [], [(1, [Emphasis.bold.opening]), (2, [Emphasis.italic.markup, Emphasis.italic.opening])],
    .enter ["double " ++ mark]⟩

/-- The marks that close emphasis of a kind. A single star in front of a text in bold closes nothing. -/
def closingMarks (e : Emphasis) (mark : String) : Pattern :=
  match e with
  | .bold => both (marks mark 2) (markEdge mark)
  | .italic =>
    if mark = "_" then both (word mark) wordEdge
    else both (word mark) (notAhead (both (word mark) (noneOf mark)))

def emphasisContext (e : Emphasis) (mark : String) : Context where
  name := e.name ++ " " ++ mark
  around := [e.markup]
  clauses := looseMarks mark ++ [.rule ⟨closingMarks e mark, [e.closing], [], .leave⟩] ++
    emphasisStops ++ [.rulesOf ("inside " ++ e.name)]

/-- What is left of emphasis of both kinds when one of them is closed. -/
def remainingContext (e : Emphasis) (mark : String) : Context where
  name := "remaining " ++ e.name ++ " " ++ mark
  inside := [e.markup]
  clauses := looseMarks mark ++
    [.rule ⟨closingMarks e mark, [e.markup, e.closing], [], .leave⟩] ++
    emphasisStops ++ [.rulesOf ("inside " ++ e.name)]

def doubleContext (mark : String) : Context where
  name := "double " ++ mark
  around := [Emphasis.bold.markup]
  inside := [Emphasis.italic.markup]
  clauses := looseMarks mark ++ [
    .rule ⟨all [part 1 (word mark), part 2 (marks mark 2), markEdge mark], [],
      [(1, [Emphasis.italic.markup, Emphasis.italic.closing]), (2, [Emphasis.bold.closing])], .leave⟩,
    .rule ⟨both (marks mark 2) (markEdge mark), [Emphasis.bold.closing], [],
      .exchange ["remaining italic " ++ mark]⟩,
    .rule ⟨both (word mark) (markEdge mark), [Emphasis.italic.closing], [],
      .exchange ["remaining bold " ++ mark]⟩] ++
    emphasisStops ++ [.rulesOf "inside both"]

def emphasisMarks : List String := ["*", "_"]

/-! ## Links and images -/

/-- Links and images: the name of their scopes, what opens them, and what comes behind the name of the
scope of their address. -/
structure Reference where
  name : String
  opening : String
  address : String

def linkReference : Reference := ⟨"link", "[", ""⟩

def imageReference : Reference := ⟨"image", "![", ".image"⟩

namespace Reference

def whole (r : Reference) (rest : String) : Scope := mdScope ("meta." ++ r.name ++ "." ++ rest)

def bracket (r : Reference) (side : String) : Scope :=
  mdScope ("punctuation.definition." ++ r.name ++ "." ++ side)

def startRule (r : Reference) (form : String) (behind : Pattern) : Clause :=
  .rule ⟨both (part 1 (word r.opening)) (ahead (all [maybe balancedText, word "]", behind])),
    [r.whole form], [(1, [r.bracket "begin"])],
    .enter [r.name ++ " " ++ form ++ " target", r.name ++ " " ++ form]⟩

def textContext (r : Reference) (form : String) : Context where
  name := r.name ++ " " ++ form
  inside := [r.whole (form ++ ".description")]
  clauses := [
    .rule ⟨part 1 (word "]"), [r.whole form], [(1, [r.bracket "end"])], .leave⟩,
    .rulesOf "inside link"]

def targetParts (r : Reference) : List (Nat × List Scope) :=
  let title := mdScope "string.other.link.description.title"
  let first := mdScope "punctuation.definition.string.begin"
  let last := mdScope "punctuation.definition.string.end"
  [(1, [mdScope "invalid.illegal.whitespace"]),
    (2, [mdScope "punctuation.definition.metadata.begin"]),
    (3, [r.bracket "begin"]),
    (4, [mdScope ("markup.underline.link" ++ r.address)]),
    (5, [r.bracket "end"]),
    (6, [title]), (7, [first]), (8, [last]), (9, [title]), (10, [first]), (11, [last]),
    (12, [title]), (13, [first]), (14, [last]),
    (15, [mdScope "punctuation.definition.metadata.end"])]

def targetContext (r : Reference) (form : String) (target : Pattern)
    (parts : List (Nat × List Scope)) : Context where
  name := r.name ++ " " ++ form ++ " target"
  clauses := [.rule ⟨target, [r.whole form], parts, .leave⟩, bare nothing .leave]

/-- The label of a link, in parts: its brackets and what is between them. -/
def label : Pattern :=
  all [maybe (word " "), part 1 (word "["), part 2 (some1 (noneOf "]\n")), part 3 (word "]")]

def labelParts : List (Nat × List Scope) := [
  (1, [mdScope "punctuation.definition.constant.begin"]),
  (2, [mdScope "constant.other.reference.link"]),
  (3, [mdScope "punctuation.definition.constant.end"])]

def emptyLabel : Pattern := all [maybe (word " "), part 1 (word "["), part 3 (word "]")]

def inPlaceRule (r : Reference) : Clause := r.startRule "inline" inPlaceTarget

def labelRules (r : Reference) : List Clause :=
  [r.startRule "reference.literal" emptyLabel, r.startRule "reference" label]

def contexts (r : Reference) : List Context := [
  r.textContext "inline", r.targetContext "inline" inPlaceTarget r.targetParts,
  r.textContext "reference.literal", r.targetContext "reference.literal" emptyLabel labelParts,
  r.textContext "reference", r.targetContext "reference" label labelParts]

end Reference

/-! ## Addresses -/

def addressRule (address : Pattern) (kind : String) : Clause :=
  .rule ⟨all [part 1 (word "<"), part 2 address, part 3 (word ">")],
    [mdScope ("meta.link." ++ kind)],
    [(1, [mdScope "punctuation.definition.link.begin"]), (2, [mdScope "markup.underline.link"]),
      (3, [mdScope "punctuation.definition.link.end"])], .stay⟩

def pageAddress : Pattern :=
  all [any [word "https", word "http", word "ftp"], word "://", fewest anyChar]

def mailAddress : Pattern :=
  let hostChar : Pattern := one fun c => c.isLower || c.isDigit || c = '-'
  all [maybe (word "mailto:"), some1 (one fun c => isWordChar c || c = '-' || c = '.'), word "@",
    some1 hostChar, many (both (word ".") (some1 hostChar)), word ".", some1 (one Char.isLower)]

/-- The start of an address without brackets: a scheme or `www`, and names with points between them. -/
def bareAddress : Pattern :=
  let name : Pattern := some1 (one fun c => isWordChar c || c = '-')
  all [either (both (any [word "https", word "http", word "ftp"]) (word "://")) (word "www."), name,
    some1 (both (word ".") name)]

/-- The end of an address without brackets: marks at its end do not belong to it. -/
def addressEnd : Pattern := both (many (oneOf "?!.,:*_~")) (either blank (word "<"))

/-- The rest of an address without brackets, piece by piece, and its parentheses. -/
def bareAddressContexts : List Context :=
  let entity : Pattern := all [word "&",
    any [some1 (one Char.isAlphanum), both (word "#") (some1 digit), both (word "#x") (some1 hexDigit)],
    word ";"]
  let underline := mdScope "markup.underline.link"
  [{ name := "address"
     clauses := [
       bare (ahead addressEnd) .leave, bare (ahead (both entity addressEnd)) .leave,
       bare (word "(") (.enter ["address in parentheses"]), bare (ahead (word ")")) .leave,
       .rule ⟨either (some1 (one fun c => !isBlank c && !"?!.,:*_~<&()".toList.contains c)) solid,
         [underline], [], .stay⟩] },
   { name := "address in parentheses", around := [underline]
     clauses := [bare (ahead addressEnd) .leave, bare (word ")") .leave] }]

/-! ## All together -/

def plainRules : List Clause := [
  paint escape "constant.character.escape.markdown",
  paint (both (word "&") (notAhead (both (any [some1 (one Char.isAlphanum),
    both (word "#") (some1 digit), all [word "#x", some1 hexDigit]]) (word ";"))))
    "meta.other.valid-ampersand.markdown",
  paint (both (word "<") (notAhead (either (one Char.isLower) (oneOf "/?!$"))))
    "meta.other.valid-bracket.markdown",
  codeRule]

def breakRules : List Clause := [
  .rule ⟨both (times 2 none (word " ")) (ahead (word "\n")),
    [mdScope "meta.hard-line-break", mdScope "punctuation.definition.hard-line-break"], [], .stay⟩,
  .rule ⟨both (part 1 (word "\\")) (word "\n"), [mdScope "meta.hard-line-break"],
    [(1, [mdScope "constant.character.escape"])], .stay⟩]

def linkRules : List Clause := [
  imageReference.inPlaceRule, linkReference.inPlaceRule,
  addressRule pageAddress "inet", addressRule mailAddress "email.lt-gt",
  .rule ⟨bareAddress, [mdScope "markup.underline.link"], [], .enter ["address"]⟩] ++
  imageReference.labelRules ++ linkReference.labelRules

def emphasisRules (e : Emphasis) : List Clause := emphasisMarks.map (emphasisRule e)

def insideEmphasis (name : String) (kinds : List Emphasis) : Context where
  name := "inside " ++ name
  clauses := plainRules ++ kinds.flatMap emphasisRules ++ breakRules ++ linkRules

def textContexts : List Context := [
  { name := "text"
    clauses := plainRules ++ emphasisMarks.map doubleRule ++ emphasisRules .bold ++
      emphasisRules .italic ++ breakRules ++ linkRules },
  insideEmphasis "bold" [.italic], insideEmphasis "italic" [.bold], insideEmphasis "both" [],
  { name := "inside link"
    clauses := plainRules ++ emphasisMarks.map doubleRule ++ emphasisRules .bold ++
      emphasisRules .italic ++ imageReference.inPlaceRule :: imageReference.labelRules },
  codeContext] ++
  (emphasisMarks.flatMap fun mark => [
    emphasisContext .bold mark, emphasisContext .italic mark, remainingContext .bold mark,
    remainingContext .italic mark, doubleContext mark]) ++
  linkReference.contexts ++ imageReference.contexts ++ bareAddressContexts

end LiveMarkup.Highlight
