import LiveMarkup.Text.Blank
import LiveMarkup.Text.WordChar

/-! # Patterns

A pattern describes pieces of a line. Matching tries alternatives in order and repetitions longest
first, and goes back where the rest of the pattern does not fit.
-/
namespace LiveMarkup.Highlight

inductive Pattern where
  | nothing
  | one (test : Char → Bool)
  | both (first second : Pattern)
  | either (first second : Pattern)
  | repeated (most : Option Nat) (p : Pattern)
  | fewest (p : Pattern)
  | part (number : Nat) (p : Pattern)
  | ahead (p : Pattern)
  | notAhead (p : Pattern)
  /-- The empty piece where what is in front of it on the line, last character first, passes a test. -/
  | after (test : List Char → Bool)
  /-- The text of a part of the match that entered the context. -/
  | again (number : Nat)
  | lineStart
  | lineEnd
  | wordEdge

/-- A place in a line: what is in front of it, last character first, what is behind it, and the parts
found on the way there with their first and last positions. -/
structure Spot where
  before : List Char := []
  behind : List Char
  position : Nat := 0
  parts : List (Nat × Nat × Nat) := []

namespace Spot

def next? (s : Spot) : Option (Char × Spot) :=
  match s.behind with
  | [] => none
  | c :: cs => some (c, { s with before := c :: s.before, behind := cs, position := s.position + 1 })

def atWordEdge (s : Spot) : Bool := s.before.head?.any isWordChar != s.behind.head?.any isWordChar

end Spot

namespace Pattern

/-- Repeats a step as often as possible, the first number being a bound; a repetition that does not
move is not made. -/
def repeatFrom (step : Spot → (Spot → Option Spot) → Option Spot) :
    Nat → Spot → (Spot → Option Spot) → Option Spot
  | 0, s, k => k s
  | n + 1, s, k =>
    match step s fun t => if s.position < t.position then repeatFrom step n t k else none with
    | some t => some t
    | none => k s

/-- Repeats a step only where the rest of the pattern does not fit, the number being a bound. -/
def fewestFrom (step : Spot → (Spot → Option Spot) → Option Spot) :
    Nat → Spot → (Spot → Option Spot) → Option Spot
  | 0, s, k => k s
  | n + 1, s, k =>
    match k s with
    | some t => some t
    | none => step s fun t => if s.position < t.position then fewestFrom step n t k else none

/-- Matches at a place, and goes on with what has to follow. -/
def run : Pattern → Spot → (Spot → Option Spot) → Option Spot
  | nothing, s, k => k s
  | one test, s, k =>
    match s.next? with
    | some (c, t) => if test c then k t else none
    | none => none
  | both p q, s, k => run p s fun t => run q t k
  | either p q, s, k =>
    match run p s k with
    | some t => some t
    | none => run q s k
  | repeated most p, s, k => repeatFrom (run p) (most.getD s.behind.length) s k
  | fewest p, s, k => fewestFrom (run p) s.behind.length s k
  | part number p, s, k =>
    run p s fun t => k { t with parts := (number, s.position, t.position) :: t.parts }
  | ahead p, s, k =>
    match run p s some with
    | some _ => k s
    | none => none
  | notAhead p, s, k =>
    match run p s some with
    | some _ => none
    | none => k s
  | after test, s, k => if test s.before then k s else none
  | again _, _, _ => none
  | lineStart, s, k => if s.before.isEmpty then k s else none
  | lineEnd, s, k => if s.behind.isEmpty || s.behind.head? = some '\n' then k s else none
  | wordEdge, s, k => if s.atWordEdge then k s else none

def matchAt? (p : Pattern) (s : Spot) : Option Spot := p.run { s with parts := [] } some

/-! ## Building patterns -/

def all : List Pattern → Pattern
  | [] => nothing
  | [p] => p
  | p :: ps => both p (all ps)

def any : List Pattern → Pattern
  | [] => .one fun _ => false
  | [p] => p
  | p :: ps => either p (any ps)

def oneOf (cs : String) : Pattern := one fun c => cs.toList.contains c

def noneOf (cs : String) : Pattern := one fun c => !cs.toList.contains c

def anyChar : Pattern := one fun c => c != '\n'

def exactly (text : List Char) : Pattern := all (text.map fun c => one fun d => c = d)

def word (w : String) : Pattern := exactly w.toList

/-- A pattern with the texts of the parts it refers to in their places. -/
def filled (texts : List (Nat × List Char)) : Pattern → Pattern
  | both p q => both (filled texts p) (filled texts q)
  | either p q => either (filled texts p) (filled texts q)
  | repeated most p => repeated most (filled texts p)
  | fewest p => fewest (filled texts p)
  | part number p => part number (filled texts p)
  | ahead p => ahead (filled texts p)
  | notAhead p => notAhead (filled texts p)
  | again number =>
    match texts.find? fun t => t.1 = number with
    | some (_, text) => exactly text
    | none => again number
  | p => p

def wordAnyCase (w : String) : Pattern := all (w.toList.map fun c => one fun d => c = d.toLower)

def maybe (p : Pattern) : Pattern := repeated (some 1) p

def many (p : Pattern) : Pattern := repeated none p

def some1 (p : Pattern) : Pattern := both p (many p)

/-- A number of repetitions between two bounds, the upper one being optional. -/
def times (least : Nat) (most : Option Nat) (p : Pattern) : Pattern :=
  all (List.replicate least p ++ [repeated (most.map (· - least)) p])

def blank : Pattern := one isBlank

def solid : Pattern := one fun c => !isBlank c

def afterBlank : Pattern := after fun front => front.head?.all isBlank

def afterWord (w : String) : Pattern :=
  after fun front => w.toList.reverse.isPrefixOf (front.map Char.toLower)

def digit : Pattern := one Char.isDigit

def hexDigit : Pattern :=
  one fun c => c.isDigit || ('a' ≤ c && c ≤ 'f') || ('A' ≤ c && c ≤ 'F')

end Pattern
end LiveMarkup.Highlight
