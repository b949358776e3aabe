/-! # Ranges of characters

Character classes of the Unicode standard are kept as sorted lists of code point ranges, both ends
included.
-/
namespace LiveMarkup

def inRanges (ranges : List (Nat × Nat)) (c : Char) : Bool :=
  ranges.any fun r => r.1 ≤ c.toNat && c.toNat ≤ r.2

end LiveMarkup
