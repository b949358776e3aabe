import LiveMarkup.Json.Value
import LiveMarkup.Decimal.Shortest

/-! # JSON text

Two layouts: compact, without any blank, and indented, with two spaces a level, one member or item a
line, and nothing between the brackets of an empty array or object.
-/
namespace LiveMarkup.Json

def hexDigit (n : Nat) : Char := if n < 10 then Char.ofNat (48 + n) else Char.ofNat (87 + n)

/-- A character inside a JSON string. Quotes, backslashes and controls are escaped, the rest stands
for itself. -/
def stringChar (c : Char) : List Char :=
  if c = '"' then ['\\', '"']
  else if c = '\\' then ['\\', '\\']
  else if c = '\n' then ['\\', 'n']
  else if c = '\r' then ['\\', 'r']
  else if c = '\t' then ['\\', 't']
  else if c = '\x08' then ['\\', 'b']
  else if c = '\x0c' then ['\\', 'f']
  else if c.toNat < 0x20 then
    ['\\', 'u', '0', '0', hexDigit (c.toNat / 16), hexDigit (c.toNat % 16)]
  else [c]

def stringText (s : List Char) : List Char := '"' :: (s.flatMap stringChar ++ ['"'])

/-- Doubles are written positionally from `1e-5` to below `1e16`, and otherwise with a signed
exponent. -/
def floatLayout : Decimal.Layout := ⟨-5, 15, true⟩

def intText (i : Int) : List Char :=
  if i < 0 then '-' :: Decimal.natText i.natAbs else Decimal.natText i.natAbs

def numberText : JsonNumber → List Char
  | .int i => intText i
  | .float x => Decimal.floatText floatLayout x

mutual

def compact : Json → List Char
  | null => ['n', 'u', 'l', 'l']
  | bool true => ['t', 'r', 'u', 'e']
  | bool false => ['f', 'a', 'l', 's', 'e']
  | num n => numberText n
  | str s => stringText s.toList
  | arr items => '[' :: (compactItems items ++ [']'])
  | obj members => '\x7b' :: (compactMembers members ++ ['\x7d'])

def compactItems : List Json → List Char
  | [] => []
  | [item] => compact item
  | item :: rest => compact item ++ ',' :: compactItems rest

def compactMembers : List (String × Json) → List Char
  | [] => []
  | [(key, value)] => stringText key.toList ++ ':' :: compact value
  | (key, value) :: rest =>
    stringText key.toList ++ ':' :: (compact value ++ ',' :: compactMembers rest)

end

def newline (level : Nat) : List Char := '\n' :: List.replicate (2 * level) ' '

mutual

def pretty (level : Nat) : Json → List Char
  | null => ['n', 'u', 'l', 'l']
  | bool true => ['t', 'r', 'u', 'e']
  | bool false => ['f', 'a', 'l', 's', 'e']
  | num n => numberText n
  | str s => stringText s.toList
  | arr [] => ['[', ']']
  | arr (item :: rest) =>
    '[' :: (prettyItems (level + 1) (item :: rest) ++ newline level ++ [']'])
  | obj [] => ['\x7b', '\x7d']
  | obj (member :: rest) =>
    '\x7b' :: (prettyMembers (level + 1) (member :: rest) ++ newline level ++ ['\x7d'])

def prettyItems (level : Nat) : List Json → List Char
  | [] => []
  | [item] => newline level ++ pretty level item
  | item :: rest => newline level ++ pretty level item ++ ',' :: prettyItems level rest

def prettyMembers (level : Nat) : List (String × Json) → List Char
  | [] => []
  | [(key, value)] => newline level ++ stringText key.toList ++ ':' :: ' ' :: pretty level value
  | (key, value) :: rest =>
    newline level ++ stringText key.toList ++ ':' :: ' ' ::
      (pretty level value ++ ',' :: prettyMembers level rest)

end

def compactText (v : Json) : String := String.ofList (compact v)

def prettyText (v : Json) : String := String.ofList (pretty 0 v)

end LiveMarkup.Json
