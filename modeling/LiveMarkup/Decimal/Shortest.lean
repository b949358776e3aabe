/-! # The shortest decimal that reads back

A binary number `m · 2 ^ q` is written with the fewest digits for which no other binary number is
nearer. Every real within half a step of the number reads back as it, the ends of that interval
included when `m` is even. For one digit, two digits and so on, the number's two neighbours on the
decimal grid are tried; the first grid with a hit decides, and of two hits the nearer one.
-/
namespace LiveMarkup.Decimal

/-- The significant digits of a number as a natural number, and the power of ten of their last
place. -/
structure Digits where
  coefficient : Nat
  exponent : Int
deriving Repr, DecidableEq

/-- A positive binary fraction with the interval that reads back as it, over one denominator. -/
structure Interval where
  value : Nat
  low : Nat
  high : Nat
  denominator : Nat
  closed : Bool

/-- The interval of `m · 2 ^ q`. Below a power of two the step is half as wide, unless `q` is the
least exponent. -/
def Interval.of (m : Nat) (q : Int) (narrowBelow : Bool) : Interval :=
  let scale := if 0 ≤ q then Nat.pow 2 q.toNat else 1
  let den := if 0 ≤ q then 1 else Nat.pow 2 (-q).toNat
  let below := if narrowBelow then 1 else 2
  { value := 4 * m * scale
    low := (4 * m - below) * scale
    high := (4 * m + 2) * scale
    denominator := 4 * den
    closed := m % 2 = 0 }

/-- Whether the grid point `c · 10 ^ e` lies in the interval. -/
def Interval.holds (i : Interval) (c : Nat) (e : Int) : Bool :=
  let point := c * (if 0 ≤ e then Nat.pow 10 e.toNat else 1) * i.denominator
  let unit := if 0 ≤ e then 1 else Nat.pow 10 (-e).toNat
  if i.closed then i.low * unit ≤ point && point ≤ i.high * unit
  else i.low * unit < point && point < i.high * unit

/-- The hit on the grid `10 ^ e`, if there is one: the nearer neighbour, an even one on a tie. -/
def Interval.hit? (i : Interval) (e : Int) : Option Nat :=
  let up := if 0 ≤ e then Nat.pow 10 e.toNat else 1
  let unit := if 0 ≤ e then 1 else Nat.pow 10 (-e).toNat
  let num := i.value * unit
  let den := i.denominator * up
  let lower := num / den
  let remainder := num % den
  let lowerFits := 0 < lower && i.holds lower e
  let upperFits := i.holds (lower + 1) e
  if lowerFits && upperFits then
    if 2 * remainder < den || (2 * remainder = den && lower % 2 = 0) then some lower
    else some (lower + 1)
  else if lowerFits then some lower
  else if upperFits then some (lower + 1)
  else none

/-- An exponent `k` with `10 ^ k ≤ value < 10 ^ (k + 1)`, searched downward from `k`. -/
def Interval.magnitude (i : Interval) : Nat → Int → Int
  | 0, k => k
  | fuel + 1, k =>
    let fits := if 0 ≤ k then decide (i.denominator * Nat.pow 10 k.toNat ≤ i.value)
      else decide (i.denominator ≤ i.value * Nat.pow 10 (-k).toNat)
    if fits then k else i.magnitude fuel (k - 1)

def Digits.trim : Nat → Digits → Digits
  | 0, d => d
  | fuel + 1, d =>
    if d.coefficient ≠ 0 && d.coefficient % 10 = 0 then trim fuel ⟨d.coefficient / 10, d.exponent + 1⟩
    else d

def Interval.search (i : Interval) : Nat → Int → Digits
  | 0, e => ⟨0, e⟩
  | fuel + 1, e =>
    match i.hit? e with
    | some c => ⟨c, e⟩
    | none => i.search fuel (e - 1)

/-- The shortest digits of the positive number `m · 2 ^ q`. -/
def shortest (m : Nat) (q : Int) (narrowBelow : Bool) : Digits :=
  let i := Interval.of m q narrowBelow
  (i.search 25 (i.magnitude 700 330)).trim 25

def natText (n : Nat) : List Char := Nat.toDigits 10 n

/-- Where a number is written positionally, and how its exponent is marked otherwise. -/
structure Layout where
  /-- The least exponent of the leading digit that is written positionally. -/
  least : Int
  /-- The greatest exponent of the leading digit that is written positionally. -/
  greatest : Int
  plusSign : Bool

/-- Writes digits in a layout; a number without a fraction keeps one zero behind the point. -/
def Digits.text (layout : Layout) (d : Digits) : List Char :=
  let digits := natText d.coefficient
  let lead := d.exponent + digits.length - 1
  if layout.least ≤ lead && lead ≤ layout.greatest then
    if lead < 0 then
      ['0', '.'] ++ List.replicate (-lead - 1).toNat '0' ++ digits
    else if 0 ≤ d.exponent then
      digits ++ List.replicate d.exponent.toNat '0' ++ ['.', '0']
    else
      digits.take (lead + 1).toNat ++ '.' :: digits.drop (lead + 1).toNat
  else
    let fraction := match digits.tail with
      | [] => []
      | rest => '.' :: rest
    let sign := if lead < 0 then ['-'] else if layout.plusSign then ['+'] else []
    digits.take 1 ++ fraction ++ 'e' :: sign ++ natText lead.natAbs

/-- The parts of a double: sign, coefficient, power of two, and whether the step below is half as
wide. -/
def parts (bits : UInt64) : Bool × Nat × Int × Bool :=
  let field := ((bits >>> 52) &&& 0x7ff).toNat
  let mantissa := (bits &&& 0xfffffffffffff).toNat
  let negative := (bits >>> 63) ≠ 0
  if field = 0 then (negative, mantissa, -1074, false)
  else (negative, mantissa + 0x10000000000000, (field : Int) - 1075, mantissa = 0 && field ≠ 1)

def floatText (layout : Layout) (x : Float) : List Char :=
  let (negative, m, q, narrow) := parts x.toBits
  let sign := if negative then ['-'] else []
  if m = 0 then sign ++ ['0', '.', '0']
  else sign ++ (shortest m q narrow).text layout

end LiveMarkup.Decimal
