import LiveMarkup.Json.Reader

/-! # Passing over JSON values

A value that nobody asks for is passed over: its syntax is checked, but not how deep it is nested,
how large its numbers are or whether its surrogates come in pairs.
-/
namespace LiveMarkup.JsonInput

def skipExponent (i : JsonInput) : Except JsonFault JsonInput :=
  let i := i.skip
  let i := if i.rest.head? = some '-' || i.rest.head? = some '+' then i.skip else i
  match i.rest with
  | [] => i.fail .invalidNumber
  | d :: _ =>
    if d.isDigit then .ok (i.drop (digitsOf i.rest).length)
    else .error ⟨.invalidNumber, i.place.afterByte d⟩

def skipNumber (i : JsonInput) : Except JsonFault JsonInput :=
  match i.rest with
  | [] => i.fail .invalidNumber
  | c :: cs =>
    if !c.isDigit then .error ⟨.invalidNumber, i.place.afterByte c⟩
    else if c = '0' && (cs.headD 'x').isDigit then i.skip.failPeek .invalidNumber
    else
      let behind := if c = '0' then i.skip else i.drop (digitsOf i.rest).length
      if behind.rest.head? = some '.' then
        let fraction := digitsOf behind.skip.rest
        let behind := behind.skip.drop fraction.length
        if fraction = [] then behind.failPeek .invalidNumber
        else if startsExponent behind.rest then behind.skipExponent
        else .ok behind
      else if startsExponent behind.rest then behind.skipExponent
      else .ok behind

def skipString : Nat → JsonInput → Except JsonFault JsonInput
  | 0, i => i.fail .eofInString
  | fuel + 1, i =>
    match i.rest with
    | [] => i.fail .eofInString
    | c :: _ =>
      if c = '"' then .ok i.skip
      else if c = '\\' then
        let i := i.skip
        match i.rest with
        | [] => i.fail .eofInString
        | e :: _ =>
          if e = 'u' then do
            let (_, i) ← i.skip.hexEscape
            skipString fuel i
          else if ['"', '\\', '/', 'b', 'f', 'n', 'r', 't'].contains e then skipString fuel i.skip
          else .error ⟨.invalidEscape, i.place.afterByte e⟩
      else if c.toNat < 0x20 then i.fail .controlCharacter
      else skipString fuel i.skip

mutual

def skipValue : Nat → JsonInput → Except JsonFault JsonInput
  | 0, i => i.fail .tooDeep
  | fuel + 1, i =>
    let i := i.skipBlanks
    match i.rest with
    | [] => i.failPeek .eofInValue
    | c :: _ =>
      if c = 'n' then i.skip.word ['u', 'l', 'l']
      else if c = 't' then i.skip.word ['r', 'u', 'e']
      else if c = 'f' then i.skip.word ['a', 'l', 's', 'e']
      else if c = '-' then i.skip.skipNumber
      else if c.isDigit then i.skipNumber
      else if c = '"' then i.skip.skipString (i.rest.length + 1)
      else if c = '[' then
        let i := i.skip.skipBlanks
        match i.rest with
        | [] => i.failPeek .eofInList
        | d :: _ => if d = ']' then .ok i.skip else skipItems fuel i
      else if c = '\x7b' then
        let i := i.skip.skipBlanks
        match i.rest with
        | [] => i.failPeek .eofInObject
        | d :: _ => if d = '\x7d' then .ok i.skip else skipMembers fuel i
      else i.failPeek .expectedValue

/-- Passes over the items of a list, the first of which is next, and its closing bracket. -/
def skipItems : Nat → JsonInput → Except JsonFault JsonInput
  | 0, i => i.fail .tooDeep
  | fuel + 1, i => do
    let i ← skipValue fuel i
    let i := i.skipBlanks
    match i.rest with
    | [] => i.failPeek .eofInList
    | c :: _ =>
      if c = ',' then skipItems fuel i.skip
      else if c = ']' then .ok i.skip
      else i.failPeek .expectedListEnd

/-- Passes over the members of an object, the first of which is next, and its closing brace. -/
def skipMembers : Nat → JsonInput → Except JsonFault JsonInput
  | 0, i => i.fail .tooDeep
  | fuel + 1, i =>
    let i := i.skipBlanks
    match i.rest with
    | [] => i.failPeek .eofInObject
    | q :: _ =>
      if q ≠ '"' then i.failPeek .keyNotString
      else do
        let i ← i.skip.skipString (i.rest.length + 1)
        let i ← i.colon
        let i ← skipValue fuel i
        let i := i.skipBlanks
        match i.rest with
        | [] => i.failPeek .eofInObject
        | c :: _ =>
          if c = ',' then skipMembers fuel i.skip
          else if c = '\x7d' then .ok i.skip
          else i.failPeek .expectedObjectEnd

end

end LiveMarkup.JsonInput
