import LiveMarkup.Json.Input

/-! # Reading JSON values

A value, a list or an object may stand inside at most 127 others. After the value only blanks may
follow.
-/
namespace LiveMarkup

namespace JsonInput

/-- How many lists and objects may be open at once, plus one. -/
def depthLimit : Nat := 128

/-- Opens a list or object: eats its bracket, unless that would be one level too many. -/
def openBracket (i : JsonInput) (depth : Nat) : Except JsonFault JsonInput :=
  if depth ≤ 1 then i.failPeek .tooDeep else .ok i.skip

/-- Whether another item follows in a list. The comma before it has been read if so. -/
def nextItem (i : JsonInput) (first : Bool) : Except JsonFault (Bool × JsonInput) :=
  let i := i.skipBlanks
  match i.rest with
  | [] => i.failPeek .eofInList
  | c :: _ =>
    if c = ']' then .ok (false, i)
    else if first then .ok (true, i)
    else if c = ',' then
      let i := i.skip.skipBlanks
      match i.rest with
      | [] => i.failPeek .eofInValue
      | d :: _ => if d = ']' then i.failPeek .trailingComma else .ok (true, i)
    else i.failPeek .expectedListEnd

def closeList (i : JsonInput) : Except JsonFault JsonInput :=
  let i := i.skipBlanks
  match i.rest with
  | [] => i.failPeek .eofInList
  | c :: _ =>
    if c = ']' then .ok i.skip
    else if c = ',' then
      let i := i.skip.skipBlanks
      if i.rest.head? = some ']' then i.failPeek .trailingComma
      else i.failPeek .trailingCharacters
    else i.failPeek .trailingCharacters

/-- Whether another member follows in an object. If so, its key's opening quote is next. -/
def nextKey (i : JsonInput) (first : Bool) : Except JsonFault (Bool × JsonInput) :=
  let i := i.skipBlanks
  match i.rest with
  | [] => i.failPeek .eofInObject
  | c :: _ =>
    if c = '\x7d' then .ok (false, i)
    else if first then
      if c = '"' then .ok (true, i) else i.failPeek .keyNotString
    else if c = ',' then
      let i := i.skip.skipBlanks
      match i.rest with
      | [] => i.failPeek .eofInValue
      | d :: _ =>
        if d = '"' then .ok (true, i)
        else if d = '\x7d' then i.failPeek .trailingComma
        else i.failPeek .keyNotString
    else i.failPeek .expectedObjectEnd

def colon (i : JsonInput) : Except JsonFault JsonInput :=
  let i := i.skipBlanks
  match i.rest with
  | [] => i.failPeek .eofInObject
  | c :: _ => if c = ':' then .ok i.skip else i.failPeek .expectedColon

def atEnd (i : JsonInput) : Except JsonFault Unit :=
  let i := i.skipBlanks
  if i.rest = [] then .ok () else i.failPeek .trailingCharacters

mutual

/-- A value, inside at most `depth - 1` further lists and objects. -/
def value : Nat → Nat → JsonInput → Except JsonFault (Json × JsonInput)
  | 0, _, i => i.fail .tooDeep
  | fuel + 1, depth, i =>
    let i := i.skipBlanks
    match i.rest with
    | [] => i.failPeek .eofInValue
    | c :: _ =>
      if c = 'n' then do .ok (.null, ← i.skip.word ['u', 'l', 'l'])
      else if c = 't' then do .ok (.bool true, ← i.skip.word ['r', 'u', 'e'])
      else if c = 'f' then do .ok (.bool false, ← i.skip.word ['a', 'l', 's', 'e'])
      else if c = '-' then do
        let (n, i) ← i.skip.number true
        .ok (.num n, i)
      else if c.isDigit then do
        let (n, i) ← i.number false
        .ok (.num n, i)
      else if c = '"' then do
        let (s, i) ← i.skip.string
        .ok (.str s, i)
      else if c = '[' then do
        let i ← i.openBracket depth
        let (found, i) ← items fuel (depth - 1) true [] i
        .ok (.arr found, i)
      else if c = '\x7b' then do
        let i ← i.openBracket depth
        let (found, i) ← members fuel (depth - 1) true [] i
        .ok (.obj found, i)
      else i.failPeek .expectedValue

def items : Nat → Nat → Bool → List Json → JsonInput → Except JsonFault (List Json × JsonInput)
  | 0, _, _, _, i => i.fail .tooDeep
  | fuel + 1, depth, first, before, i => do
    let (more, i) ← i.nextItem first
    if more then
      let (v, i) ← value fuel depth i
      items fuel depth false (v :: before) i
    else .ok (before.reverse, i.skip)

/-- The members of an object together with those read before, and its closing brace. -/
def members : Nat → Nat → Bool → List (String × Json) → JsonInput →
    Except JsonFault (List (String × Json) × JsonInput)
  | 0, _, _, _, i => i.fail .tooDeep
  | fuel + 1, depth, first, before, i => do
    let (more, i) ← i.nextKey first
    if more then
      let (key, i) ← i.skip.string
      let i ← i.colon
      let (v, i) ← value fuel depth i
      members fuel depth false (insertMember key v before) i
    else .ok (before, i.skip)

end

def enough (i : JsonInput) : Nat := 2 * i.rest.length + 2

def topValue (i : JsonInput) : Except JsonFault (Json × JsonInput) := value i.enough depthLimit i

/-- The members of an object that must stand at the outermost level. -/
def topMembers (i : JsonInput) (fuel depth : Nat) :
    Except JsonFault (List (String × Json) × JsonInput) := do
  let i ← i.openBracket depth
  members fuel (depth - 1) true [] i

/-- The fault that the next value, whatever it is, is not what was expected. A scalar is read first,
a list or an object is not. -/
def unexpected {α : Type} (i : JsonInput) (expected : String) : Except JsonFault α :=
  match i.rest with
  | [] => i.failPeek .eofInValue
  | c :: _ =>
    let wrong (found : Found) (i : JsonInput) : Except JsonFault α :=
      i.fail (.invalidType found expected)
    let wrongNumber (n : JsonNumber) (i : JsonInput) : Except JsonFault α :=
      match n with
      | .int v => wrong (.int v) i
      | .float x => wrong (.float x) i
    if c = 'n' then do wrong .null (← i.skip.word ['u', 'l', 'l'])
    else if c = 't' then do wrong (.bool true) (← i.skip.word ['r', 'u', 'e'])
    else if c = 'f' then do wrong (.bool false) (← i.skip.word ['a', 'l', 's', 'e'])
    else if c = '-' then do
      let (n, i) ← i.skip.number true
      wrongNumber n i
    else if c.isDigit then do
      let (n, i) ← i.number false
      wrongNumber n i
    else if c = '"' then do
      let (s, i) ← i.skip.string
      wrong (.str s) i
    else if c = '[' then wrong .sequence i
    else if c = '\x7b' then wrong .map i
    else i.failPeek .expectedValue

def expectString (i : JsonInput) (expected : String) : Except JsonFault (String × JsonInput) :=
  let i := i.skipBlanks
  if i.rest.head? = some '"' then i.skip.string else i.unexpected expected

def expectNat (i : JsonInput) (expected : String) : Except JsonFault (Nat × JsonInput) :=
  let i := i.skipBlanks
  let take (found : JsonNumber × JsonInput) : Except JsonFault (Nat × JsonInput) :=
    match found.1 with
    | .int v =>
      if 0 ≤ v then .ok (v.toNat, found.2)
      else found.2.fail (.invalidValue (.int v) expected)
    | .float x => found.2.fail (.invalidType (.float x) expected)
  match i.rest with
  | [] => i.failPeek .eofInValue
  | c :: _ =>
    if c = '-' then do take (← i.skip.number true)
    else if c.isDigit then do take (← i.number false)
    else i.unexpected expected

end JsonInput

def Json.ofText? (text : String) : Except JsonFault Json := do
  let (v, i) ← (JsonInput.ofText text).topValue
  i.atEnd
  .ok v

def Json.membersOfText? (text : String) : Except JsonFault (List (String × Json)) := do
  let i := (JsonInput.ofText text).skipBlanks
  let fuel := i.enough
  let (found, i) ← match i.rest with
    | [] => i.failPeek .eofInValue
    | c :: _ =>
      if c = '\x7b' then i.topMembers fuel JsonInput.depthLimit else i.unexpected "a map"
  i.atEnd
  .ok found

end LiveMarkup
