import LiveMarkup.Markdown.Sign
import LiveMarkup.Markdown.Line
import LiveMarkup.Text.Search

/-! # Tags in Markdown

Tags, comments, processing instructions, declarations and character data may stand in running text or
start a block of markup. A reader is given the signs where a form may start and answers with the signs
behind it.
-/
namespace LiveMarkup.Markdown

/-! ## Elements -/

def tagName? : List Sign → Option (List Sign)
  | .char c :: signs =>
    if c.isAlpha then
      some (signs.dropWhile fun
        | .char c => c.isAlphanum || c = '-'
        | .lineBreak _ _ => false)
    else none
  | _ => none

/-- Whether a sign can stand in an attribute value without quotes. -/
def isBareValue : Sign → Bool
  | .char c =>
    c != '"' && c != '\'' && c != ' ' && c != '=' && c != '<' && c != '>' && c != '\x60'
  | .lineBreak _ _ => false

def attributeValue? (signs : List Sign) : Option (List Sign) :=
  match signs with
  | .char c :: rest =>
    if c = '"' || c = '\'' then
      match rest.dropWhile fun s => s != .char c with
      | _ :: behind => some behind
      | [] => none
    else if isBareValue (.char c) then some (rest.dropWhile isBareValue)
    else none
  | _ => none

def startsAttribute (c : Char) : Bool := c.isAlpha || c = '_' || c = ':'

def inAttribute : Sign → Bool
  | .char c => c.isAlphanum || c = '_' || c = ':' || c = '.' || c = '-'
  | .lineBreak _ _ => false

/-- The signs behind the attributes of a tag and the blanks in front of them; the number bounds the
count of attributes. -/
def attributes? : Nat → List Sign → Option (List Sign)
  | 0, _ => none
  | fuel + 1, signs =>
    let start := signs.dropWhile Sign.isWhite
    match start with
    | .char c :: rest =>
      if c = '/' || c = '>' then some start
      else if startsAttribute c && start.length < signs.length then
        let behindName := rest.dropWhile inAttribute
        match behindName.dropWhile Sign.isWhite with
        | .char '=' :: value =>
          (attributeValue? (value.dropWhile Sign.isWhite)).bind (attributes? fuel)
        | _ => attributes? fuel behindName
      else none
    | _ => none

/-- The signs behind an opening or closing tag. What is given starts behind `<`. -/
def elementTag? (signs : List Sign) : Option (List Sign) :=
  match signs with
  | .char '/' :: name =>
    match (tagName? name).map (List.dropWhile Sign.isSpace) with
    | some (.char '>' :: rest) => some rest
    | _ => none
  | _ =>
    match (tagName? signs).bind (attributes? (signs.length + 1)) with
    | some (.char '>' :: rest) => some rest
    | some (.char '/' :: .char '>' :: rest) => some rest
    | _ => none

/-! ## Other forms -/

/-- The signs behind a comment, a declaration or character data. What is given starts behind `<!`. A
comment may be as short as `<!-->` and `<!--->`; character data ends with its first closing brackets,
however many there are. -/
def declaration? (signs : List Sign) : Option (List Sign) :=
  match signs with
  | .char '-' :: .char '-' :: rest =>
    let behind := rest.dropWhile (· == .char '-')
    match behind with
    | .char '>' :: rest => some rest
    | _ => behind? (signsOf ['-', '-', '>']) behind
  | .char '[' :: rest =>
    if (signsOf "CDATA[".toList).isPrefixOf rest then
      match (rest.drop 6).dropWhile (· != .char ']') with
      | .char ']' :: rest =>
        match rest.dropWhile (· == .char ']') with
        | .char '>' :: rest => some rest
        | _ => none
      | _ => none
    else none
  | .char c :: rest => if c.isAlpha then behind? [.char '>'] rest else none
  | _ => none

/-- A form of markup that running text may hold: the text it is shown as, and the signs behind it.
What is given starts behind `<`. The marks of containers go inside a tag only. -/
def inlineTag? (signs : List Sign) : Option (List Char × List Sign) :=
  match signs with
  | .char '!' :: rest =>
    (declaration? rest).map fun behind => ('<' :: (takenFrom signs behind).flatMap Sign.raw, behind)
  | .char '?' :: rest =>
    (behind? (signsOf ['?', '>']) rest).map fun behind =>
      ('<' :: (takenFrom signs behind).flatMap Sign.raw, behind)
  | _ =>
    (elementTag? signs).map fun behind =>
      ('<' :: (takenFrom signs behind).flatMap Sign.text, behind)

/-! ## Addresses -/

def charsWhile (test : Char → Bool) : List Sign → List Char
  | .char c :: signs => if test c then c :: charsWhile test signs else []
  | _ => []

/-- The address between angle brackets and the signs behind it, for an address with a scheme. What is
given starts behind `<`. -/
def schemeAddress? (signs : List Sign) : Option (List Char × List Sign) :=
  let scheme := charsWhile (fun c => c.isAlphanum || c = '+' || c = '.' || c = '-') signs
  match scheme, signs.drop scheme.length with
  | c :: _, .char ':' :: body =>
    if c.isAlpha && 2 ≤ scheme.length && scheme.length ≤ 32 then
      let path := charsWhile (fun c => ' ' < c && c != '<' && c != '>') body
      match body.drop path.length with
      | .char '>' :: rest => some (scheme ++ ':' :: path, rest)
      | _ => none
    else none
  | _, _ => none

def isHostPart (part : List Char) : Bool :=
  1 ≤ part.length && part.length ≤ 63 && part.all (fun c => c.isAlphanum || c = '-') &&
    part.head? != some '-' && part.getLast? != some '-'

/-- Whether a character can stand in front of the `@` of a mail address. -/
def isMailboxChar (c : Char) : Bool :=
  c.isAlphanum || ['.', '!', '#', '$', '%', '&', '\'', '*', '+', '/', '=', '?', '^', '_', '\x60',
    '\x7b', '|', '\x7d', '~', '-'].contains c

/-- The mail address between angle brackets and the signs behind it. What is given starts behind
`<`. -/
def mailAddress? (signs : List Sign) : Option (List Char × List Sign) :=
  let mailbox := charsWhile isMailboxChar signs
  match mailbox, signs.drop mailbox.length with
  | _ :: _, .char '@' :: body =>
    let host := charsWhile (fun c => c.isAlphanum || c = '-' || c = '.') body
    match body.drop host.length with
    | .char '>' :: rest =>
      if (host.splitOn '.').all isHostPart then some (mailbox ++ '@' :: host, rest) else none
    | _ => none
  | _, _ => none

/-! ## Blocks of markup -/

inductive MarkupEnd where
  | line (word : List Char)
  | blank
deriving DecidableEq, Repr

def rawTags : List String := ["pre", "style", "script", "textarea"]

def blockTags : List String := [
  "address", "article", "aside", "base", "basefont", "blockquote", "body", "caption", "center", "col",
  "colgroup", "dd", "details", "dialog", "dir", "div", "dl", "dt", "fieldset", "figcaption", "figure",
  "footer", "form", "frame", "frameset", "h1", "h2", "h3", "h4", "h5", "h6", "head", "header", "hr",
  "html", "iframe", "legend", "li", "link", "main", "menu", "menuitem", "nav", "noframes", "ol",
  "optgroup", "option", "p", "param", "search", "section", "summary", "table", "tbody", "td", "tfoot",
  "th", "thead", "title", "tr", "track", "ul"]

/-- The block of markup that a line starts even inside a paragraph. The text starts behind `<`. -/
def strongMarkupStart? (text : List Char) : Option MarkupEnd :=
  let name := (text.takeWhile Char.isAlphanum).map Char.toLower
  let rest := text.drop name.length
  if rawTags.contains (String.ofList name) &&
      (match rest with | [] => true | c :: _ => isSpace c || endsLine c || c = '>') then
    some (.line (['<', '/'] ++ name ++ ['>']))
  else match text with
    | '!' :: '-' :: '-' :: _ => some (.line ['-', '-', '>'])
    | '?' :: _ => some (.line ['?', '>'])
    | '!' :: '[' :: 'C' :: 'D' :: 'A' :: 'T' :: 'A' :: '[' :: _ => some (.line [']', ']', '>'])
    | '!' :: c :: _ => if c.isAlpha then some (.line ['>']) else none
    | _ =>
      let text := match text with
        | '/' :: text => text
        | text => text
      let name := (text.takeWhile Char.isAlphanum).map Char.toLower
      if blockTags.contains (String.ofList name) then
        match text.drop name.length with
        | [] => some .blank
        | '/' :: '>' :: _ => some .blank
        | c :: _ => if isIndent c || endsLine c || c = '>' then some .blank else none
      else none

/-- The block of markup that a line starts outside of paragraphs: a whole tag with nothing behind
it. The text starts behind `<`. -/
def weakMarkupStart? (text : List Char) : Option MarkupEnd :=
  match elementTag? (signsOf (splitLine text).1) with
  | some rest => if rest.all Sign.isSpace then some .blank else none
  | none => none

end LiveMarkup.Markdown
