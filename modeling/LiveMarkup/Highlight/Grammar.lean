import LiveMarkup.Highlight.Pattern
import LiveMarkup.Highlight.Scope

/-! # Grammars

A grammar is a set of contexts, each with rules that look for patterns. The first context is entered at
the start of the text. Inside a line the rule of the innermost context whose pattern matches nearest
decides, of two that match at one place the first; it gives scopes to what it matched and may enter and
leave contexts.
-/
namespace LiveMarkup.Highlight

/-- A scope written with points between its names. -/
def scope (names : String) : Scope := (names.toList.splitOn '.').map String.ofList

inductive Action where
  | stay
  | leave
  /-- Enters contexts, the innermost last. -/
  | enter (names : List String)
  /-- Enters contexts in place of the innermost one; none of them hides scopes. -/
  | exchange (names : List String)

/-- A rule: a pattern, the scopes of what it matches and of its parts, and what to do. -/
structure Rule where
  pattern : Pattern
  scopes : List Scope := []
  parts : List (Nat × List Scope) := []
  action : Action := .stay

/-- A line of a context: a rule, or the rules of another context. -/
inductive Clause where
  | rule (r : Rule)
  | rulesOf (name : String)

/-- A rule that gives a scope to what it matches, and then acts. -/
def paintAnd (action : Action) (pattern : Pattern) (name : String) : Clause :=
  .rule ⟨pattern, [scope name], [], action⟩

def paint : Pattern → String → Clause := paintAnd .stay

def paintLeave : Pattern → String → Clause := paintAnd .leave

def paintEnter (pattern : Pattern) (name : String) (contexts : List String) : Clause :=
  paintAnd (.enter contexts) pattern name

def paintParts (pattern : Pattern) (parts : List (Nat × String)) (action : Action) : Clause :=
  .rule ⟨pattern, [], parts.map fun p => (p.1, [scope p.2]), action⟩

def bare (pattern : Pattern) (action : Action) : Clause := .rule ⟨pattern, [], [], action⟩

structure Context where
  name : String
  /-- How many of the scopes open outside are closed while the context lasts. -/
  hides : Nat := 0
  /-- The scopes of the context, with what entered and left it. -/
  around : List Scope := []
  inside : List Scope := []
  common : Bool := true
  clauses : List Clause

structure Grammar where
  scope : Scope
  /-- The contexts; the first one is entered at the start. -/
  contexts : List Context
  common : Option String := none

namespace Grammar

def context (g : Grammar) (name : String) : Context :=
  (g.contexts.find? fun c => c.name = name).getD ⟨name, 0, [], [], true, []⟩

/-- The rules of some clauses; the number bounds how deep contexts refer to others. -/
def rulesWithin (g : Grammar) : Nat → List Clause → List Rule
  | 0, _ => []
  | fuel + 1, clauses => clauses.flatMap fun c =>
    match c with
    | .rule r => [r]
    | .rulesOf name => rulesWithin g fuel (g.context name).clauses

def rulesIn (g : Grammar) (c : Context) : List Rule :=
  let depth := g.contexts.length + 1
  let shared := match c.common, g.common with
    | true, some name => rulesWithin g depth (g.context name).clauses
    | _, _ => []
  shared ++ rulesWithin g depth c.clauses

/-- A context that has been entered, with the texts of the parts of the match that entered it. -/
structure Entered where
  context : Context
  texts : List (Nat × List Char) := []

def openScopes (g : Grammar) : List Entered → List Scope
  | [] => [g.scope]
  | e :: outer =>
    (e.context.around ++ e.context.inside).reverse ++ (openScopes g outer).drop e.context.hides

/-- The scopes that the innermost context hides, the innermost first. -/
def hiddenScopes (g : Grammar) : List Entered → List Scope
  | [] => []
  | e :: outer => (openScopes g outer).take e.context.hides

structure Reader where
  /-- The contexts entered, innermost first. -/
  contexts : List Entered
  spot : Spot
  /-- Where a context was last entered without moving, and how many contexts there were then. -/
  entered : Option (Nat × Nat) := none
  /-- What has been found, last one first. -/
  events : List ScopeEvent := []

/-- A rule that matches at a place, and the place behind the match. -/
structure Found where
  rule : Rule
  start : Nat
  finish : Spot
  /-- Whether the rule would leave the context that has just been entered without moving. -/
  idle : Bool

/-- The first rule that matches at a place; one that would be idle gives way to any other. -/
def foundAt (origin : Nat) (justEntered : Bool) (s : Spot) : List Rule → Option Found
  | [] => none
  | r :: rules =>
    match r.pattern.matchAt? s with
    | none => foundAt origin justEntered s rules
    | some finish =>
      let moves := origin < finish.position
      let found (idle : Bool) : Found := ⟨r, s.position, finish, idle⟩
      match r.action with
      | .stay =>
        if s.position < finish.position then some (found false)
        else foundAt origin justEntered s rules
      | .leave =>
        if justEntered && !moves then
          match foundAt origin justEntered s rules with
          | some other => some other
          | none => some (found true)
        else some (found false)
      | _ => some (found false)

/-- The first match at a place or behind it; the number bounds the places tried. -/
def foundFrom (rules : List Rule) (origin : Nat) (justEntered : Bool) : Nat → Spot → Option Found
  | 0, s => foundAt origin justEntered s rules
  | n + 1, s =>
    match foundAt origin justEntered s rules with
    | some f => some f
    | none =>
      match s.next? with
      | some (_, t) => foundFrom rules origin justEntered n t
      | none => none

/-- The openings of some scopes at a position, the last one first. -/
def openings (position : Nat) (scopes : List Scope) : List ScopeEvent :=
  (scopes.map fun s => ⟨position, .opens s⟩).reverse

def closings (position count : Nat) : List ScopeEvent := List.replicate count ⟨position, .closes⟩

/-- Whether an opening or closing of a part comes in front of another: by position, closings first,
and of two openings the longer part first. -/
def comesFirst (a b : Nat × Option Nat × ScopeEvent) : Bool :=
  a.1 < b.1 || (a.1 = b.1 &&
    (match a.2.1, b.2.1 with
      | none, _ => true
      | some _, none => false
      | some m, some n => n ≤ m))

def partEvents (rule : Rule) (finish : Spot) : List ScopeEvent :=
  let events := rule.parts.flatMap fun (number, scopes) =>
    match finish.parts.find? fun p => p.1 = number with
    | some (_, first, last) =>
      if first = last then []
      else
        (scopes.map fun s => (first, some (last - first), (⟨first, .opens s⟩ : ScopeEvent))) ++
          (scopes.map fun _ => (last, none, (⟨last, .closes⟩ : ScopeEvent)))
    | none => []
  (events.mergeSort comesFirst).map fun e => e.2.2

def aroundOf (cs : List Context) : List Scope := cs.flatMap Context.around

def allOf (cs : List Context) : List Scope := cs.flatMap fun c => c.around ++ c.inside

def enteredBy (g : Grammar) (names : List String) (texts : List (Nat × List Char)) : List Entered :=
  names.map fun name => ⟨g.context name, texts⟩

/-- The closings of the scopes that contexts hide when they are entered one inside the other, and the
openings of the scopes around what entered them, last one first. -/
def enterEvents (g : Grammar) (position : Nat) (outer : List Entered) :
    List Entered → List ScopeEvent
  | [] => []
  | e :: inner =>
    enterEvents g position (e :: outer) inner ++ openings position e.context.around ++
      closings position (hiddenScopes g (e :: outer)).length

/-- What a match leads to: events in front of it and behind it, last one first, and the contexts. -/
def effect (g : Grammar) (contexts : List Entered) (texts : List (Nat × List Char)) (action : Action)
    (start finish : Nat) : List ScopeEvent × List ScopeEvent × List Entered :=
  match contexts with
  | [] => ([], [], [])
  | c :: outer =>
    match action with
    | .stay => ([], [], contexts)
    | .leave =>
      (closings start c.context.inside.length,
        openings finish (hiddenScopes g contexts).reverse ++
          closings finish c.context.around.length, outer)
    | .enter names =>
      let entered := g.enteredBy names texts
      let cs := entered.map Entered.context
      let again := cs.any fun e => !e.inside.isEmpty
      (enterEvents g start contexts entered,
        if again then openings finish (allOf cs) ++ closings finish (aroundOf cs).length else [],
        entered.reverse ++ contexts)
    | .exchange names =>
      let entered := g.enteredBy names texts
      let cs := entered.map Entered.context
      let again := !c.context.around.isEmpty || !c.context.inside.isEmpty ||
        cs.any fun e => !e.inside.isEmpty
      let left := c.context.inside.length + c.context.around.length
      (openings start (aroundOf cs),
        if again then
          openings finish (allOf cs) ++
            closings finish ((aroundOf cs).length + left)
        else [],
        entered.reverse ++ outer)

/-- The most contexts inside one another that a rule may add to. -/
def deepest : Nat := 100

def enters (r : Rule) : Bool := match r.action with | .enter _ => true | _ => false

def textsOf (finish : Spot) : List (Nat × List Char) :=
  finish.parts.map fun (number, first, last) =>
    (number, (finish.before.reverse.drop first).take (last - first))

/-- Reads on in a line up to its end; the first number bounds the steps. Nothing if they do not
suffice. -/
def readOn (g : Grammar) : Nat → Reader → Option Reader
  | 0, _ => none
  | fuel + 1, r =>
    match r.contexts with
    | [] => some r
    | c :: _ =>
      let origin := r.spot.position
      let justEntered := r.entered == some (origin, r.contexts.length)
      let rules := (g.rulesIn c.context).map fun rule =>
        { rule with pattern := rule.pattern.filled c.texts }
      match foundFrom rules origin justEntered r.spot.behind.length r.spot with
      | none => some r
      | some f =>
        if f.idle then
          match r.spot.next? with
          | some (_, next) =>
            if next.behind.isEmpty then some r else readOn g fuel { r with spot := next }
          | none => some r
        else if enters f.rule && deepest ≤ r.contexts.length then some r
        else
          let finish := f.finish.position
          let entered := match f.rule.action with
            | .enter _ => if finish = origin then some (finish, r.contexts.length + 1) else r.entered
            | _ => r.entered
          let (front, back, contexts) :=
            effect g r.contexts (textsOf f.finish) f.rule.action f.start finish
          let own := openings f.start f.rule.scopes
          let parts := (partEvents f.rule f.finish).reverse
          let ends := closings finish f.rule.scopes.length
          let events := back ++ ends ++ parts ++ own ++ front ++ r.events
          readOn g fuel { contexts, spot := f.finish, entered, events }

def stepsFor (line : List Char) : Nat := 64 * (line.length + 1)

def marksFrom (g : Grammar) (contexts : List Entered) :
    List (List Char) → Option (List (List Char × List ScopeEvent))
  | [] => some []
  | line :: later => do
    let r ← readOn g (stepsFor line) { contexts, spot := { behind := line } }
    let rest ← marksFrom g r.contexts later
    some ((line, r.events.reverse) :: rest)

/-- The marks of the lines of a text. The scope of the text opens with its first line. -/
def marks (g : Grammar) (lines : List (List Char)) :
    Option (List (List Char × List ScopeEvent)) := do
  match ← marksFrom g ((g.contexts.take 1).map fun c => ⟨c, []⟩) lines with
  | [] => some []
  | (line, events) :: rest => some ((line, ⟨0, .opens g.scope⟩ :: events) :: rest)

end Grammar
end LiveMarkup.Highlight
