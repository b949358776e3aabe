import LiveMarkup.Json.Fault
import LiveMarkup.Text.Bytes

/-! # Reading JSON text character by character

The state of a reader is what is left of the text and the place reached. Below are the scanners that
the readers for particular shapes share: blanks, words, numbers and strings.
-/
namespace LiveMarkup

namespace Place

def after (p : Place) (c : Char) : Place :=
  if c = '\n' then ⟨p.line + 1, 0⟩ else ⟨p.line, p.column + c.utf8Size⟩

def afterByte (p : Place) (c : Char) : Place :=
  if c = '\n' then ⟨p.line + 1, 0⟩ else ⟨p.line, p.column + 1⟩

def afterBytes (p : Place) : Nat → List Char → Place
  | 0, _ => p
  | _, [] => p
  | n + 1, c :: cs =>
    if c.utf8Size ≤ n + 1 then (p.after c).afterBytes (n + 1 - c.utf8Size) cs
    else ⟨p.line, p.column + (n + 1)⟩

end Place

/-- What is left of a text, and the place reached in it. -/
structure JsonInput where
  rest : List Char
  place : Place := {}

namespace JsonInput

def ofText (text : String) : JsonInput := ⟨text.toList, {}⟩

def skip (i : JsonInput) : JsonInput :=
  match i.rest with
  | [] => i
  | c :: cs => ⟨cs, i.place.after c⟩

def drop : Nat → JsonInput → JsonInput
  | 0, i => i
  | n + 1, i => drop n i.skip

def fail {α : Type} (i : JsonInput) (cause : JsonCause) : Except JsonFault α :=
  .error ⟨cause, i.place⟩

/-- The place of a character that has been looked at and not read: behind its first byte. -/
def peekPlace (i : JsonInput) : Place :=
  match i.rest with
  | [] => i.place
  | c :: _ => i.place.afterByte c

def failPeek {α : Type} (i : JsonInput) (cause : JsonCause) : Except JsonFault α :=
  .error ⟨cause, i.peekPlace⟩

def isBlank (c : Char) : Bool := c = ' ' || c = '\n' || c = '\t' || c = '\r'

def skipBlanksFrom (place : Place) : List Char → JsonInput
  | [] => ⟨[], place⟩
  | c :: cs => if isBlank c then skipBlanksFrom (place.after c) cs else ⟨c :: cs, place⟩

def skipBlanks (i : JsonInput) : JsonInput := skipBlanksFrom i.place i.rest

def word : List Char → JsonInput → Except JsonFault JsonInput
  | [], i => .ok i
  | expected :: more, i =>
    match i.rest with
    | [] => i.fail .eofInValue
    | c :: cs =>
      if c = expected then word more ⟨cs, i.place.after c⟩
      else .error ⟨.expectedIdent, i.place.afterByte c⟩

def digitsOf (text : List Char) : List Char := text.takeWhile Char.isDigit

def greatestInt : Nat := 0xffffffffffffffff

/-- Takes digits as long as the value stays within 64 bits. Gives the value and the number of digits
taken. -/
def accumulate : Nat → List Char → Nat × Nat
  | value, [] => (value, 0)
  | value, d :: ds =>
    let next := value * 10 + (d.toNat - 48)
    if next ≤ greatestInt then
      let more := accumulate next ds
      (more.1, more.2 + 1)
    else (value, 0)

def power10 (n : Nat) : Float := Float.ofScientific 1 false n

/-- `x · 10 ^ e` by one multiplication or by division in steps of at most `10 ^ 308`; nothing when
the result is infinite. -/
def scaleFloat : Nat → Float → Int → Option Float
  | 0, x, _ => some x
  | fuel + 1, x, e =>
    if e.natAbs ≤ 308 then
      if 0 ≤ e then
        let y := x * power10 e.natAbs
        if y.isInf then none else some y
      else some (x / power10 e.natAbs)
    else if x == 0.0 then some x
    else if 0 ≤ e then none
    else scaleFloat fuel (x / power10 308) (e + 308)

/-- The double of a coefficient of at most 64 bits and a power of ten. -/
def floatOf (negative : Bool) (coefficient : Nat) (e : Int) : Option Float :=
  (scaleFloat 4 coefficient.toUInt64.toFloat e).map fun x => if negative then -x else x

def float (i : JsonInput) (negative : Bool) (coefficient : Nat) (e : Int) : Except JsonFault (JsonNumber × JsonInput) :=
  match floatOf negative coefficient e with
  | some x => .ok (.float x, i)
  | none => i.fail .numberOutOfRange

def greatestExponent : Nat := 0x7fffffff

/-- Reads exponent digits up to the one that makes the exponent too large: the exponent, the number
of digits read, and whether it grew too large. -/
def exponentDigits : Nat → List Char → Nat × Nat × Bool
  | e, [] => (e, 0, false)
  | e, d :: ds =>
    let next := e * 10 + (d.toNat - 48)
    if next ≤ greatestExponent then
      let more := exponentDigits next ds
      (more.1, more.2.1 + 1, more.2.2)
    else (e, 1, true)

def exponentPart (i : JsonInput) (negative : Bool) (coefficient : Nat) (e : Int) :
    Except JsonFault (JsonNumber × JsonInput) :=
  let i := i.skip
  let down := i.rest.head? = some '-'
  let i := if i.rest.head? = some '-' || i.rest.head? = some '+' then i.skip else i
  match i.rest with
  | [] => i.fail .eofInValue
  | d :: _ =>
    if d.isDigit then
      let digits := digitsOf i.rest
      let (size, count, tooLarge) := exponentDigits 0 digits
      if tooLarge then
        if coefficient ≠ 0 && !down then (i.drop count).fail .numberOutOfRange
        else .ok (.float (if negative then -0.0 else 0.0), i.drop digits.length)
      else float (i.drop digits.length) negative coefficient (if down then e - size else e + size)
    else .error ⟨.invalidNumber, i.place.afterByte d⟩

def startsExponent (text : List Char) : Bool :=
  text.head? = some 'e' || text.head? = some 'E'

/-- The fraction of a number, from the point on. Digits that no longer fit the coefficient are
passed over. -/
def fractionPart (i : JsonInput) (negative : Bool) (coefficient : Nat) (e : Int) :
    Except JsonFault (JsonNumber × JsonInput) :=
  let i := i.skip
  let digits := digitsOf i.rest
  let (coefficient, used) := accumulate coefficient digits
  let behind := i.drop digits.length
  match digits with
  | [] => if i.rest = [] then i.fail .eofInValue else i.failPeek .invalidNumber
  | _ :: _ =>
    if startsExponent behind.rest then exponentPart behind negative coefficient (e - used)
    else float behind negative coefficient (e - used)

/-- The integer a digit string stands for, or a double when its sign does not allow that. -/
def integer (negative : Bool) (value : Nat) : JsonNumber :=
  if negative then
    if value = 0 || 0x8000000000000000 < value then .float (-value.toUInt64.toFloat) else .int (-value)
  else .int value

/-- A number behind its sign. Integers beyond 64 bits are read as doubles of the leading digits that
fit. -/
def number (i : JsonInput) (negative : Bool) : Except JsonFault (JsonNumber × JsonInput) :=
  match i.rest with
  | [] => i.fail .eofInValue
  | c :: cs =>
    if !c.isDigit then .error ⟨.invalidNumber, i.place.afterByte c⟩
    else if c = '0' && (cs.headD 'x').isDigit then i.skip.failPeek .invalidNumber
    else
      let digits := if c = '0' then [c] else digitsOf i.rest
      let (value, used) := accumulate 0 digits
      let left := digits.length - used
      let behind := i.drop digits.length
      if behind.rest.head? = some '.' then fractionPart behind negative value left
      else if startsExponent behind.rest then exponentPart behind negative value left
      else if left = 0 then .ok (integer negative value, behind)
      else float behind negative value left

def hexValue? (c : Char) : Option Nat :=
  if '0' ≤ c ∧ c ≤ '9' then some (c.toNat - 48)
  else if 'a' ≤ c ∧ c ≤ 'f' then some (c.toNat - 87)
  else if 'A' ≤ c ∧ c ≤ 'F' then some (c.toNat - 55)
  else none

def hexDigits? (text : List Char) : Option Nat :=
  match text with
  | a :: b :: c :: d :: _ => do
    let value := ((← hexValue? a) * 16 + (← hexValue? b)) * 16 + (← hexValue? c)
    some (value * 16 + (← hexValue? d))
  | _ => none

def hexEscape (i : JsonInput) : Except JsonFault (Nat × JsonInput) :=
  match hexDigits? i.rest with
  | some value => .ok (value, i.drop 4)
  | none =>
    let cause := if byteLength i.rest < 4 then JsonCause.eofInString else .invalidEscape
    .error ⟨cause, i.place.afterBytes 4 i.rest⟩

/-- The second half of a surrogate pair whose first half has been read. -/
def lowSurrogate (i : JsonInput) (high : Nat) : Except JsonFault (Char × JsonInput) :=
  match i.rest with
  | [] => i.fail .eofInString
  | c :: rest =>
    if c ≠ '\\' then .error ⟨.endOfHexEscape, i.place.afterByte c⟩
    else match rest with
      | [] => i.skip.fail .eofInString
      | u :: _ =>
        if u ≠ 'u' then .error ⟨.endOfHexEscape, i.skip.place.afterByte u⟩
        else do
          let (low, i) ← hexEscape (i.drop 2)
          if low < 0xdc00 || 0xdfff < low then i.fail .unpairedSurrogate
          else .ok (Char.ofNat (0x10000 + (high - 0xd800) * 0x400 + (low - 0xdc00)), i)

def escape (i : JsonInput) : Except JsonFault (Char × JsonInput) :=
  match i.rest with
  | [] => i.fail .eofInString
  | c :: _ =>
    let behind := i.skip
    if c = '"' || c = '\\' || c = '/' then .ok (c, behind)
    else if c = 'b' then .ok ('\x08', behind)
    else if c = 'f' then .ok ('\x0c', behind)
    else if c = 'n' then .ok ('\n', behind)
    else if c = 'r' then .ok ('\r', behind)
    else if c = 't' then .ok ('\t', behind)
    else if c = 'u' then do
      let (code, i) ← hexEscape behind
      if 0xdc00 ≤ code && code ≤ 0xdfff then i.fail .unpairedSurrogate
      else if 0xd800 ≤ code && code ≤ 0xdbff then lowSurrogate i code
      else .ok (Char.ofNat code, i)
    else .error ⟨.invalidEscape, i.place.afterByte c⟩

/-- The characters of a string behind its opening quote, and the input behind the closing one. The
characters read before are given last one first. -/
def stringBody : Nat → List Char → JsonInput → Except JsonFault (List Char × JsonInput)
  | 0, _, i => i.fail .eofInString
  | fuel + 1, before, i =>
    match i.rest with
    | [] => i.fail .eofInString
    | c :: cs =>
      if c = '"' then .ok (before.reverse, i.skip)
      else if c = '\\' then do
        let (decoded, i) ← i.skip.escape
        stringBody fuel (decoded :: before) i
      else if c.toNat < 0x20 then .error ⟨.controlCharacter, i.place.after c⟩
      else stringBody fuel (c :: before) ⟨cs, i.place.after c⟩

def string (i : JsonInput) : Except JsonFault (String × JsonInput) := do
  let (text, i) ← stringBody (i.rest.length + 1) [] i
  .ok (String.ofList text, i)

end JsonInput
end LiveMarkup
