import LiveMarkup.Shell.Token

/-! # Reading scripts

A script is a list of pipelines joined by operators; compound commands enclose lists between words that
are reserved where a command may start.
-/
namespace LiveMarkup.Shell

namespace ScriptToken

/-- The text of a token that is an unquoted word without parameters. -/
def bareWord? : ScriptToken → Option String
  | word [.literal text false] => some (String.ofList text)
  | _ => none

def shown (t : ScriptToken) : String :=
  match t with
  | operator "\n" => "newline"
  | operator text => "\"" ++ text ++ "\""
  | redirect _ _ => "redirection"
  | word _ => match t.bareWord? with
    | some text => "\"" ++ text ++ "\""
    | none => "word"

def separates (t : ScriptToken) : Bool := t = operator ";" || t = operator "\n" || t = operator "&"

def closingWords : List String := ["then", "else", "elif", "fi", "do", "done", "esac", "\x7d"]

def closes (t : ScriptToken) : Bool :=
  t = operator ")" || t = operator ";;" ||
    match t.bareWord? with
    | some text => closingWords.contains text
    | none => false

end ScriptToken

abbrev ReadScript := Script × List ScriptToken

def unexpected {α : Type} : List ScriptToken → Except SyntaxFault α
  | [] => .error (.unexpected none none)
  | t :: _ => .error (.unexpected (some t.shown) none)

def reserved (text : String) : List ScriptToken → Except SyntaxFault (List ScriptToken)
  | [] => .error (.unexpected none (some text))
  | t :: rest =>
    if t.bareWord? = some text then .ok rest
    else .error (.unexpected (some t.shown) (some text))

def skipNewlines (ts : List ScriptToken) : List ScriptToken :=
  ts.dropWhile fun t => t = .operator "\n"

def redirectTo (stream : Option Nat) (sign : String) (w : Word) : Redirect :=
  let reads := sign.toList.head? = some '<'
  let number := match w with
    | [.literal text _] => (String.ofList text).toNat?
    | _ => none
  let target : RedirectTarget := match number with
    | some n => if sign.toList.getLast? = some '&' then .stream n
      else if reads then .read w else .write w
    | none => if reads then .read w else .write w
  ⟨stream.getD (if reads then 0 else 1), target⟩

def simpleParts : List ScriptToken →
    Except SyntaxFault ((List Word × List Redirect) × List ScriptToken)
  | .word w :: rest => do
    let ((words, redirects), rest) ← simpleParts rest
    .ok ((w :: words, redirects), rest)
  | .redirect stream sign :: .word w :: rest => do
    let ((words, redirects), rest) ← simpleParts rest
    .ok ((words, redirectTo stream sign w :: redirects), rest)
  | .redirect _ _ :: rest => unexpected rest
  | rest => .ok (([], []), rest)

def redirects : List ScriptToken → Except SyntaxFault (List Redirect × List ScriptToken)
  | .redirect stream sign :: .word w :: rest => do
    let (more, rest) ← redirects rest
    .ok (redirectTo stream sign w :: more, rest)
  | rest => .ok ([], rest)

def wordsHere : List ScriptToken → List Word × List ScriptToken
  | .word w :: rest =>
    let (more, rest) := wordsHere rest
    (w :: more, rest)
  | rest => ([], rest)

def patterns : List ScriptToken → Except SyntaxFault (List Word × List ScriptToken)
  | .word w :: .operator ")" :: rest => .ok ([w], rest)
  | .word w :: .operator "|" :: rest => do
    let (more, rest) ← patterns rest
    .ok (w :: more, rest)
  | .word _ :: rest => unexpected rest
  | rest => unexpected rest

mutual

def readList : Nat → List ScriptToken → Except SyntaxFault ReadScript
  | 0, ts => unexpected ts
  | fuel + 1, ts =>
    match ts.dropWhile ScriptToken.separates with
    | [] => .ok (.nothing, [])
    | t :: rest =>
      if t.closes then .ok (.nothing, t :: rest)
      else do
        let (first, ts) ← readPipeline fuel (t :: rest)
        let (first, ts) ← readJoined fuel first ts
        match ts with
        | [] => .ok (first, [])
        | t :: _ =>
          if t.separates then do
            let (second, ts) ← readList fuel ts
            .ok (.sequence first second, ts)
          else if t.closes then .ok (first, ts)
          else unexpected ts

def readJoined : Nat → Script → List ScriptToken → Except SyntaxFault ReadScript
  | 0, _, ts => unexpected ts
  | fuel + 1, first, ts =>
    match ts with
    | .operator "&&" :: rest => do
      let (second, ts) ← readPipeline fuel (skipNewlines rest)
      readJoined fuel (.both first second) ts
    | .operator "||" :: rest => do
      let (second, ts) ← readPipeline fuel (skipNewlines rest)
      readJoined fuel (.either first second) ts
    | _ => .ok (first, ts)

def readPipeline : Nat → List ScriptToken → Except SyntaxFault ReadScript
  | 0, ts => unexpected ts
  | fuel + 1, ts =>
    if (ts.head?.bind ScriptToken.bareWord?) = some "!" then do
      let (body, ts) ← readPipeline fuel ts.tail
      .ok (.negation body, ts)
    else do
      let (first, ts) ← readCommand fuel ts
      match ts with
      | .operator "|" :: rest => do
        let (second, ts) ← readPipeline fuel (skipNewlines rest)
        .ok (.pipe first second, ts)
      | _ => .ok (first, ts)

def readCommand : Nat → List ScriptToken → Except SyntaxFault ReadScript
  | 0, ts => unexpected ts
  | fuel + 1, ts =>
    match ts with
    | .operator "(" :: rest => do
      let (body, ts) ← readList fuel rest
      match ts with
      | .operator ")" :: rest => do
        let (links, rest) ← redirects rest
        .ok (.subshell body links, rest)
      | _ => .error (.unexpected (ts.head?.map ScriptToken.shown) (some ")"))
    | _ =>
      let rest := ts.tail
      match ts.head?.bind ScriptToken.bareWord? with
      | some "\x7b" => do
        let (body, ts) ← readList fuel rest
        let (links, rest) ← redirects (← reserved "\x7d" ts)
        .ok (.group body links, rest)
      | some "if" => do
        let (body, ts) ← readBranch fuel rest
        let (links, ts) ← redirects ts
        .ok (.group body links, ts)
      | some "while" => readLoop fuel true rest
      | some "until" => readLoop fuel false rest
      | some "for" => match rest with
        | name :: ts => do
          let (words, ts) := match ts with
            | [] => ([], [])
            | t :: more => if t.bareWord? = some "in" then wordsHere more
              else ([[.parameter "@" [] true]], ts)
          let (body, ts) ← readList fuel (← reserved "do" (ts.dropWhile ScriptToken.separates))
          let (links, ts) ← redirects (← reserved "done" ts)
          .ok (.group (.each (name.bareWord?.getD "") words body) links, ts)
        | [] => unexpected []
      | some "case" => match rest with
        | .word subject :: ts => do
          let (body, ts) ← readArms fuel subject (skipNewlines (← reserved "in" (skipNewlines ts)))
          let (links, ts) ← redirects ts
          .ok (.group body links, ts)
        | _ => unexpected rest
      | _ => do
        let ((words, links), rest) ← simpleParts ts
        if words.isEmpty && links.isEmpty then unexpected ts else .ok (.simple words links, rest)

def readBranch : Nat → List ScriptToken → Except SyntaxFault ReadScript
  | 0, ts => unexpected ts
  | fuel + 1, ts => do
    let (condition, ts) ← readList fuel ts
    let (yes, ts) ← readList fuel (← reserved "then" ts)
    match ts.head?.bind ScriptToken.bareWord? with
    | some "elif" => do
      let (no, ts) ← readBranch fuel ts.tail
      .ok (.branch condition yes no, ts)
    | some "else" => do
      let (no, ts) ← readList fuel ts.tail
      .ok (.branch condition yes no, ← reserved "fi" ts)
    | _ => do .ok (.branch condition yes .nothing, ← reserved "fi" ts)

def readLoop : Nat → Bool → List ScriptToken → Except SyntaxFault ReadScript
  | 0, _, ts => unexpected ts
  | fuel + 1, whileTrue, ts => do
    let (condition, ts) ← readList fuel ts
    let (body, ts) ← readList fuel (← reserved "do" ts)
    let (links, ts) ← redirects (← reserved "done" ts)
    .ok (.group (.loop condition whileTrue body) links, ts)

def readArms : Nat → Word → List ScriptToken → Except SyntaxFault ReadScript
  | 0, _, ts => unexpected ts
  | fuel + 1, subject, ts =>
    if ts.head?.bind ScriptToken.bareWord? = some "esac" then .ok (.nothing, ts.tail)
    else do
      let ts := match ts with
        | .operator "(" :: rest => rest
        | _ => ts
      let (accepted, ts) ← patterns ts
      let (body, ts) ← readList fuel ts
      let ts := match ts with
        | .operator ";;" :: rest => rest
        | _ => ts
      let (otherwise, ts) ← readArms fuel subject (skipNewlines ts)
      .ok (.arm subject accepted body otherwise, ts)

end

def Script.ofText (text : List Char) : Except SyntaxFault Script := do
  let ts ← tokens text
  let (script, rest) ← readList (3 * ts.length + 3) ts
  if rest.isEmpty then .ok script else unexpected rest

end LiveMarkup.Shell
