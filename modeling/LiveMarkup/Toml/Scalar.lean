import LiveMarkup.Json.Input
import LiveMarkup.Toml.Value

/-! # TOML numbers, dates and strings -/
namespace LiveMarkup.Toml

def digitRun (digit? : Char → Option Nat) : List Char → Option (List Nat)
  | [] => none
  | [c] => (digit? c).map ([·])
  | c :: '_' :: rest => do some ((← digit? c) :: (← digitRun digit? rest))
  | c :: rest => do some ((← digit? c) :: (← digitRun digit? rest))

def decimalDigit? (c : Char) : Option Nat := if c.isDigit then some (c.toNat - 48) else none

def smallDigit? (base : Nat) (c : Char) : Option Nat :=
  (decimalDigit? c).filter fun d => d < base

def valueOf (base : Nat) (digits : List Nat) : Nat := digits.foldl (fun n d => n * base + d) 0

/-- The digits of an integer part: no zero in front of others. -/
def integerDigits? (text : List Char) : Option (List Nat) := do
  let digits ← digitRun decimalDigit? text
  match digits with
  | 0 :: _ :: _ => none
  | _ => some digits

def unsigned : List Char → Bool × List Char
  | '-' :: rest => (true, rest)
  | '+' :: rest => (false, rest)
  | rest => (false, rest)

/-- An integer in one of the four bases; only decimal ones may carry a sign. -/
def integer? (text : List Char) : Option Int :=
  match text with
  | '0' :: 'x' :: rest => (digitRun JsonInput.hexValue? rest).map fun d => (valueOf 16 d : Int)
  | '0' :: 'o' :: rest => (digitRun (smallDigit? 8) rest).map fun d => (valueOf 8 d : Int)
  | '0' :: 'b' :: rest => (digitRun (smallDigit? 2) rest).map fun d => (valueOf 2 d : Int)
  | _ =>
    let (negative, rest) := unsigned text
    (integerDigits? rest).map fun d =>
      if negative then -(valueOf 10 d : Int) else (valueOf 10 d : Int)

def overflowsDouble (digits : List Nat) (e : Int) : Bool :=
  let digits := digits.dropWhile (· = 0)
  let lead := e + digits.length
  if digits = [] then false
  else if 310 ≤ lead then true
  else if lead < 309 then false
  else
    let limit := Nat.pow 2 1024 - Nat.pow 2 970
    if 0 ≤ e then decide (limit ≤ valueOf 10 digits * Nat.pow 10 e.toNat)
    else decide (limit * Nat.pow 10 (-e).toNat ≤ valueOf 10 digits)

def float? (text : List Char) : Option Bool :=
  let (_, rest) := unsigned text
  if rest = ['i', 'n', 'f'] ∨ rest = ['n', 'a', 'n'] then some false
  else
    let isMark (c : Char) : Bool := c = 'e' || c = 'E'
    let mantissa := rest.takeWhile fun c => !isMark c
    let whole := mantissa.takeWhile (· ≠ '.')
    let fraction? : Option (List Nat) := match mantissa.dropWhile (· ≠ '.') with
      | [] => some []
      | _ :: fraction => digitRun decimalDigit? fraction
    let exponent? : Option Int := match rest.dropWhile fun c => !isMark c with
      | [] => some 0
      | _ :: exponent =>
        let (negative, digits) := unsigned exponent
        (digitRun decimalDigit? digits).map fun d =>
          let size : Int := valueOf 10 d
          if negative then -size else size
    if mantissa.length = rest.length ∧ whole.length = mantissa.length then none
    else do
      let whole ← integerDigits? whole
      let fraction ← fraction?
      let exponent ← exponent?
      some (overflowsDouble (whole ++ fraction) (exponent - fraction.length))

def fixedDigits (n : Nat) (text : List Char) : Option (Nat × List Char) :=
  let digits := text.take n
  if digits.length = n ∧ digits.all Char.isDigit then
    some (valueOf 10 (digits.map fun c => c.toNat - 48), text.drop n)
  else none

def expect (c : Char) : List Char → Option (List Char)
  | d :: rest => if c = d then some rest else none
  | [] => none

def daysOf (year month : Nat) : Nat :=
  if month = 2 then
    if year % 4 = 0 ∧ (year % 100 ≠ 0 ∨ year % 400 = 0) then 29 else 28
  else if month = 4 ∨ month = 6 ∨ month = 9 ∨ month = 11 then 30
  else 31

def date (text : List Char) : Option (List Char × List Char) := do
  let (year, rest) ← fixedDigits 4 text
  let (month, rest) ← fixedDigits 2 (← expect '-' rest)
  let (day, rest) ← fixedDigits 2 (← expect '-' rest)
  if 1 ≤ month ∧ month ≤ 12 ∧ 1 ≤ day ∧ day ≤ daysOf year month then some (text.take 10, rest)
  else none

/-- A fraction of a second to the nanosecond, without zeros at its end. -/
def fractionText (digits : List Char) : List Char :=
  match (digits.take 9).reverse.dropWhile (· = '0') with
  | [] => []
  | kept => '.' :: kept.reverse

/-- Takes a time of day; the seconds may be missing in the text, not in the normal form. -/
def time (text : List Char) : Option (List Char × List Char) := do
  let (hour, rest) ← fixedDigits 2 text
  let (minute, rest) ← fixedDigits 2 (← expect ':' rest)
  if 23 < hour ∨ 59 < minute then none
  else match rest with
    | ':' :: rest => do
      let (second, rest) ← fixedDigits 2 rest
      if 60 < second then none
      else match rest with
        | '.' :: fraction =>
          let digits := fraction.takeWhile Char.isDigit
          if digits.isEmpty then none
          else some (text.take 8 ++ fractionText digits, fraction.dropWhile Char.isDigit)
        | _ => some (text.take 8, rest)
    | _ => some (text.take 5 ++ [':', '0', '0'], rest)

/-- What may follow a time of day that has a date. In its normal form an offset of zero is positive. -/
def zone? : List Char → Option (List Char)
  | [] => some []
  | ['Z'] | ['z'] => some ['Z']
  | sign :: clock => do
    let (hour, rest) ← fixedDigits 2 clock
    let (minute, rest) ← fixedDigits 2 (← expect ':' rest)
    if (sign = '+' ∨ sign = '-') ∧ hour ≤ 23 ∧ minute ≤ 59 ∧ rest = [] then
      some ((if hour = 0 ∧ minute = 0 then '+' else sign) :: clock)
    else none

/-- The normal form of a date, a time of day or both: only the normal form is handed on. -/
def datetime? (text : List Char) : Option (List Char) :=
  match date text with
  | some (day, []) => some day
  | some (day, mark :: rest) =>
    if mark = 'T' ∨ mark = 't' ∨ mark = ' ' then do
      let (clock, rest) ← time rest
      let zone ← zone? rest
      some (day ++ 'T' :: clock ++ zone)
    else none
  | none => match time text with
    | some (clock, []) => some clock
    | _ => none

def scalar? (text : List Char) : Option Toml :=
  if text = ['t', 'r', 'u', 'e'] then some (.bool true)
  else if text = ['f', 'a', 'l', 's', 'e'] then some (.bool false)
  else match integer? text with
    | some v => some (.int v)
    | none => match float? text with
      | some overflows => some (.float overflows)
      | none => (datetime? text).map fun normal => .datetime (String.ofList normal)

/-- Whether a character may stand in a string as it is: no control other than a tab. -/
def isTextChar (c : Char) : Bool := c = '\t' || (0x20 ≤ c.toNat && c.toNat ≠ 0x7f)

def codeEscape (n : Nat) (text : List Char) : Option (Char × List Char) := do
  let digits ← (text.take n).mapM JsonInput.hexValue?
  let code := valueOf 16 digits
  if digits.length = n ∧ code.isValidChar then some (Char.ofNat code, text.drop n) else none

def escape? : List Char → Option (Char × List Char)
  | [] => none
  | c :: rest =>
    if c = 'b' then some ('\x08', rest)
    else if c = 't' then some ('\t', rest)
    else if c = 'n' then some ('\n', rest)
    else if c = 'f' then some ('\x0c', rest)
    else if c = 'r' then some ('\r', rest)
    else if c = 'e' then some ('\x1b', rest)
    else if c = '"' ∨ c = '\\' then some (c, rest)
    else if c = 'x' then codeEscape 2 rest
    else if c = 'u' then codeEscape 4 rest
    else if c = 'U' then codeEscape 8 rest
    else none

def basicString : Nat → List Char → List Char → Option (List Char × List Char)
  | 0, _, _ => none
  | _, _, [] => none
  | fuel + 1, before, c :: rest =>
    if c = '"' then some (before.reverse, rest)
    else if c = '\\' then do
      let (decoded, rest) ← escape? rest
      basicString fuel (decoded :: before) rest
    else if isTextChar c then basicString fuel (c :: before) rest
    else none

/-- A string without escapes on one line, behind its opening quote. -/
def literalString (text : List Char) : Option (List Char × List Char) :=
  let content := text.takeWhile fun c => c ≠ '\'' && isTextChar c
  match text.drop content.length with
  | '\'' :: rest => some (content, rest)
  | _ => none

def skipSpace (text : List Char) : List Char := text.dropWhile fun c => c = ' ' || c = '\t'

def lineBreak? : List Char → Option (List Char)
  | '\n' :: rest => some rest
  | '\r' :: '\n' :: rest => some rest
  | _ => none

def skipBlankLines : List Char → List Char
  | '\r' :: '\n' :: rest => skipBlankLines rest
  | c :: rest => if c = ' ' ∨ c = '\t' ∨ c = '\n' then skipBlankLines rest else c :: rest
  | [] => []

/-- The body of a string over several lines that ends with three of the given quotes; up to two more
may stand in front of them. -/
def longString (quote : Char) (escapes : Bool) :
    Nat → List Char → List Char → Option (List Char × List Char)
  | 0, _, _ => none
  | _, _, [] => none
  | fuel + 1, before, c :: rest =>
    if c = quote then
      let run := (c :: rest).takeWhile (· = quote)
      if run.length < 3 then longString quote escapes fuel (c :: before) rest
      else
        let extra := min (run.length - 3) 2
        some (before.reverse ++ List.replicate extra quote, (c :: rest).drop (extra + 3))
    else if c = '\\' ∧ escapes then
      match lineBreak? (skipSpace rest) with
      | some later => longString quote escapes fuel before (skipBlankLines later)
      | none => do
        let (decoded, rest) ← escape? rest
        longString quote escapes fuel (decoded :: before) rest
    else if c = '\n' ∨ isTextChar c then longString quote escapes fuel (c :: before) rest
    else if c = '\r' ∧ rest.head? = some '\n' then longString quote escapes fuel (c :: before) rest
    else none

/-- A string behind the three quotes that open it; a line break directly behind them is dropped. -/
def longStringBody (quote : Char) (escapes : Bool) (text : List Char) :
    Option (List Char × List Char) :=
  longString quote escapes (text.length + 1) [] ((lineBreak? text).getD text)

def string? (text : List Char) : Option (List Char × List Char) :=
  match text with
  | '"' :: '"' :: '"' :: rest => longStringBody '"' true rest
  | '\'' :: '\'' :: '\'' :: rest => longStringBody '\'' false rest
  | '"' :: rest => basicString (rest.length + 1) [] rest
  | '\'' :: rest => literalString rest
  | _ => none

end LiveMarkup.Toml
