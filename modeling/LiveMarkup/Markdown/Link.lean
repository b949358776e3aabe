import LiveMarkup.Text.CaseFold
import LiveMarkup.Markdown.Sign

/-! # Link targets

A link gets its target in place, between parentheses, or from a definition by a label.
-/
namespace LiveMarkup.Markdown

structure Target where
  destination : List Char
  title : List Char := []
deriving Inhabited

/-! ## Destinations -/

def mostNested : Nat := 32

def mostNestedDefined : Nat := 1

def bracketed? : List Sign → Option (List Char × List Sign)
  | .char '\\' :: .char c :: signs =>
    if isMark c then (bracketed? signs).map fun r => ('\\' :: c :: r.1, r.2)
    else (bracketed? (.char c :: signs)).map fun r => ('\\' :: r.1, r.2)
  | .char c :: signs =>
    if c = '>' then some ([], signs)
    else if c = '<' then none
    else (bracketed? signs).map fun r => (c :: r.1, r.2)
  | _ => none

/-- A bare destination inside some open parentheses. It ends at a blank or a control character, or in
front of a parenthesis that closes none of its own. -/
def bareFrom? (most nested : Nat) : List Sign → Option (List Char × List Sign)
  | .char '\\' :: .char c :: signs =>
    if isMark c then (bareFrom? most nested signs).map fun r => ('\\' :: c :: r.1, r.2)
    else (bareFrom? most nested (.char c :: signs)).map fun r => ('\\' :: r.1, r.2)
  | .char c :: signs =>
    if c ≤ ' ' then if nested = 0 then some ([], .char c :: signs) else none
    else if c = '(' then
      if most < nested then none
      else (bareFrom? most (nested + 1) signs).map fun r => (c :: r.1, r.2)
    else if c = ')' then
      match nested with
      | 0 => some ([], .char c :: signs)
      | nested + 1 => (bareFrom? most nested signs).map fun r => (c :: r.1, r.2)
    else (bareFrom? most nested signs).map fun r => (c :: r.1, r.2)
  | signs => if nested = 0 then some ([], signs) else none

def destination? (most : Nat) (signs : List Sign) : Option (List Char × List Sign) :=
  match signs with
  | .char '<' :: body => bracketed? body
  | _ => bareFrom? most 0 signs

/-! ## Titles -/

def titleEnd? (c : Char) : Option Char :=
  if c = '"' || c = '\'' then some c else if c = '(' then some ')' else none

/-- The signs behind the blanks that indent a line, and behind a backslash there that escapes. -/
def lineContent (signs : List Sign) : List Sign :=
  match signs.dropWhile Sign.isIndent with
  | .char '\\' :: .char c :: rest =>
    if isMark c then .char c :: rest else .char '\\' :: .char c :: rest
  | rest => rest

/-- A title in place up to the character that closes it, with its escapes and references resolved.
Within a title in parentheses no other may open. The number bounds the steps. -/
def titleWithin? (cell : Bool) (first last : Char) : Nat → List Sign → Option (List Char × List Sign)
  | 0, _ => none
  | fuel + 1, signs =>
    match signs with
    | [] => none
    | .lineBreak ending _ :: rest =>
      let shown := if ending = ['\r', '\n'] then ending else ['\n']
      (titleWithin? cell first last fuel (lineContent rest)).map fun r => (shown ++ r.1, r.2)
    | .char c :: rest =>
      if c = last then some ([], rest)
      else if c = first then none
      else
        let plain (cs : List Char) (rest : List Sign) :=
          (titleWithin? cell first last fuel rest).map fun r => (cs ++ r.1, r.2)
        if c = '&' then
          match signReference? rest with
          | some (cs, rest) => plain cs rest
          | none => plain [c] rest
        else if c = '\\' then
          match rest with
          | .char '\\' :: .char '|' :: behind =>
            if cell then plain ['|'] behind else plain ['\\'] (.char '|' :: behind)
          | .char d :: behind => if isMark d then plain [d] behind else plain [c] rest
          | _ => plain [c] rest
        else plain [c] rest

def title? (cell : Bool) (signs : List Sign) : Option (List Char × List Sign) :=
  match signs with
  | .char c :: rest => (titleEnd? c).bind fun last => titleWithin? cell c last rest.length rest
  | _ => none

/-- The title of a definition up to the character that closes it, as it is written; a line of it starts
behind its blanks. The number bounds the steps. -/
def definedTitleWithin? (last : Char) : Nat → List Sign → Option (List Char × List Sign)
  | 0, _ => none
  | fuel + 1, signs =>
    match signs with
    | [] => none
    | .lineBreak _ _ :: rest =>
      (definedTitleWithin? last fuel (rest.dropWhile Sign.isIndent)).map fun r => ('\n' :: r.1, r.2)
    | .char '\\' :: .char c :: rest =>
      (definedTitleWithin? last fuel rest).map fun r => ('\\' :: c :: r.1, r.2)
    | .char c :: rest =>
      if c = '(' && last = ')' then none
      else if c = last then some ([], rest)
      else (definedTitleWithin? last fuel rest).map fun r => (c :: r.1, r.2)

def definedTitle? (signs : List Sign) : Option (List Char × List Sign) :=
  match signs with
  | .char c :: rest => (titleEnd? c).bind fun last => definedTitleWithin? last rest.length rest
  | _ => none

def inPlaceTarget? (cell : Bool) (signs : List Sign) : Option (Target × List Sign) :=
  match signs with
  | .char '(' :: body => do
    let (destination, rest) ← destination? mostNested (skipOneBreak body)
    let behind := skipOneBreak rest
    let (title, behind) := match title? cell behind with
      | some (title, rest) => (title, skipOneBreak rest)
      | none => ([], behind)
    match behind with
    | .char ')' :: rest => some (⟨unescape cell destination, title⟩, rest)
    | _ => none
  | _ => none

/-! ## Labels -/

/-- The greatest weight of a label. Blanks and escapes weigh as many characters as they have, other
characters of ASCII nothing, and all others the bytes of their encoding. -/
def heaviestLabel : Nat := 999

def labelWeight (c : Char) : Nat := if c.toNat < 0x80 then 0 else c.utf8Size

def blankWeight (signs : List Sign) : Nat := (signs.flatMap Sign.raw).length

/-- A label up to its closing bracket, with every run of blanks as one space. What has been read has a
weight, and may have had a character that stands for itself or not: a label needs one. The number
bounds the steps. -/
def labelWithin? (cell : Bool) : Nat → Nat → Bool → List Sign → Option (List Char × List Sign)
  | 0, _, _, _ => none
  | fuel + 1, weight, solid, signs =>
    let go (cs : List Char) (more : Nat) (solid : Bool) (rest : List Sign) :=
      (labelWithin? cell fuel (weight + more) solid rest).map fun r => (cs ++ r.1, r.2)
    if heaviestLabel < weight then none
    else match signs with
    | [] => none
    | s :: rest =>
      if s.isWhite then
        let run := signs.takeWhile Sign.isWhite
        if 1 < (run.filter fun s => !s.isSpace).length then none
        else go [' '] (blankWeight run) solid (signs.drop run.length)
      else match s, rest with
        | .char '[', _ => none
        | .char ']', _ => if solid then some ([], rest) else none
        | .char '\\', .char d :: behind =>
          if cell && d = '|' then go ['|'] 1 true behind
          else if cell && d = '\\' && behind.head? == some (.char '|') then
            go ['\\', '|'] 2 true (behind.drop 1)
          else go ['\\', d] (2 + labelWeight d) (solid || 0 < labelWeight d) behind
        | .char c, _ => go [c] (labelWeight c) true rest
        | .lineBreak _ _, _ => none

def label? (cell : Bool) (signs : List Sign) : Option (List Char × List Sign) :=
  labelWithin? cell (signs.length + 1) 0 false signs

/-- Definitions by label, the first one of a label first. -/
abbrev Definitions := List (List Char × Target)

/-- The target of a label. Case does not count. -/
def Definitions.find? (definitions : Definitions) (label : List Char) : Option Target :=
  let key := foldCase label
  (List.find? (fun d => d.1 = key) definitions).map (·.2)

/-- A definition, behind blanks of its line: the key of its label, its target, and the signs behind
it, which start with the end of a line if there is one. A title on a line of its own that is none, or
has something behind it, is not part of the definition. -/
def definition? (signs : List Sign) : Option ((List Char × Target) × List Sign) :=
  let atLineEnd (signs : List Sign) : Option (List Sign) :=
    match signs.dropWhile Sign.isSpace with
    | .char _ :: _ => none
    | rest => some rest
  match signs with
  | .char '[' :: body =>
    match label? false body with
    | some (label, .char ':' :: rest) => do
      let start := skipOneBreak rest
      let (destination, behind) ← destination? mostNestedDefined start
      if behind.length = start.length then none
      else
        let key := foldCase label
        let destination := unescape false destination
        let bare := (atLineEnd behind).map fun rest => ((key, ⟨destination, []⟩), rest)
        let titleStart := skipOneBreak behind
        if titleStart.isEmpty || titleStart.length = behind.length then bare
        else
          match definedTitle? titleStart with
          | none => bare
          | some (title, rest) =>
            match atLineEnd rest with
            | some rest => some ((key, ⟨destination, unescape false title⟩), rest)
            | none => bare
    | _ => none
  | _ => none

end LiveMarkup.Markdown
