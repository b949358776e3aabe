import LiveMarkup.Highlight.Grammar

/-! # The grammar of JSON panes

Values with comments between them. What is no value is left plain where anything may follow, and marked
where something else is expected.
-/
namespace LiveMarkup.Highlight

open Pattern

def jsonComments : List Clause := [
  paintEnter (both (word "/**") (notAhead (word "/"))) "punctuation.definition.comment.json"
    ["documentation"],
  paintEnter (word "/*") "punctuation.definition.comment.json" ["comment"],
  .rule ⟨all [part 1 (word "//"), many anyChar, lineEnd, maybe (word "\n")],
    [scope "comment.line.double-slash.js"],
    [(1, [scope "punctuation.definition.comment.json"])], .stay⟩]

/-- A number: an optional sign, digits without a leading zero, an optional fraction, and an optional
exponent. -/
def jsonNumber : Pattern :=
  all [maybe (word "-"),
    any [word "0", both (one fun c => '1' ≤ c && c ≤ '9') (many digit)],
    maybe (both (word ".") (some1 digit)),
    maybe (all [oneOf "eE", maybe (oneOf "+-"), some1 digit])]

def jsonValue : List Clause := [
  paint (all [wordEdge, any [word "true", word "false", word "null"], wordEdge])
    "constant.language.json",
  paint jsonNumber "constant.numeric.json",
  paintEnter (word "\"") "punctuation.definition.string.begin.json" ["string"],
  paintEnter (word "[") "punctuation.section.array.begin.json" ["array"],
  paintEnter (word "\x7b") "punctuation.section.dictionary.begin.json" ["dictionary"]]

/-- The inside of a string, which ends with its line at the latest. -/
def jsonStringBody : List Clause := [
  paintLeave (word "\"") "punctuation.definition.string.end.json",
  paint (both (word "\\")
      (either (oneOf "\"\\/bfnrt") (both (word "u") (times 4 (some 4) hexDigit))))
    "constant.character.escape.json",
  paint (both (word "\\") anyChar) "invalid.illegal.unrecognized-string-escape.json",
  paintLeave (both lineEnd (maybe (word "\n"))) "invalid.illegal.unclosed-string.json"]

def jsonGrammar : Grammar where
  scope := scope "source.json"
  common := some "comments"
  contexts := [
    { name := "main", clauses := jsonValue },
    { name := "comments", clauses := jsonComments },
    { name := "documentation", around := [scope "comment.block.documentation.json"]
      common := false, clauses := [bare (word "*/") .leave] },
    { name := "comment", around := [scope "comment.block.json"]
      common := false, clauses := [bare (word "*/") .leave] },
    { name := "string", around := [scope "string.quoted.double.json"]
      common := false, clauses := jsonStringBody },
    { name := "key"
      around := [scope "meta.structure.dictionary.key.json", scope "string.quoted.double.json"]
      common := false, clauses := jsonStringBody },
    { name := "array", around := [scope "meta.structure.array.json"]
      clauses :=
        paintLeave (word "]") "punctuation.section.array.end.json" :: jsonValue ++
        [paint (word ",") "punctuation.separator.array.json",
          paint (one fun c => !isBlank c && c != ']') "invalid.illegal.expected-array-separator.json"] },
    { name := "dictionary", around := [scope "meta.structure.dictionary.json"]
      clauses := [
        paintLeave (word "\x7d") "punctuation.section.dictionary.end.json",
        paintEnter (word "\"") "punctuation.definition.string.begin.json" ["key"],
        paintEnter (word ":") "punctuation.separator.dictionary.key-value.json" ["value"],
        paint (one fun c => !isBlank c && c != '\x7d')
          "invalid.illegal.expected-dictionary-separator.json"] },
    { name := "value", around := [scope "meta.structure.dictionary.value.json"]
      clauses :=
        paintLeave (word ",") "punctuation.separator.dictionary.pair.json" ::
        bare (ahead (word "\x7d")) .leave :: jsonValue ++
        [paint (one fun c => !isBlank c && c != ',')
          "invalid.illegal.expected-dictionary-separator.json"] }]

end LiveMarkup.Highlight
