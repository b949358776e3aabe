/-! # UTF-8

Text is decoded from bytes in two ways: strictly, where any malformed byte refuses the whole, and
leniently, where each malformed piece becomes one replacement character. A malformed piece is the
longest start of a well-formed sequence that breaks off.
-/
namespace LiveMarkup

def isContinuation (b : UInt8) : Bool := 0x80 ≤ b && b ≤ 0xbf

def payload (b : UInt8) : Nat := b.toNat % 64

/-- Whether a byte may come second after a first byte of a three-byte sequence. -/
def secondOfThree (first second : UInt8) : Bool :=
  if first = 0xe0 then 0xa0 ≤ second && second ≤ 0xbf
  else if first = 0xed then 0x80 ≤ second && second ≤ 0x9f
  else isContinuation second

/-- Whether a byte may come second after a first byte of a four-byte sequence. -/
def secondOfFour (first second : UInt8) : Bool :=
  if first = 0xf0 then 0x90 ≤ second && second ≤ 0xbf
  else if first = 0xf4 then 0x80 ≤ second && second ≤ 0x8f
  else isContinuation second

/-- The character that starts a byte sequence, or nothing if the start is malformed, and how many
bytes behind the first belong to it. -/
def decodeFirst (first : UInt8) (rest : List UInt8) : Option Char × Nat :=
  if first < 0x80 then (some (Char.ofNat first.toNat), 0)
  else if 0xc2 ≤ first && first ≤ 0xdf then
    match rest with
    | b :: _ =>
      if isContinuation b then (some (Char.ofNat (first.toNat % 32 * 64 + payload b)), 1)
      else (none, 0)
    | [] => (none, 0)
  else if 0xe0 ≤ first && first ≤ 0xef then
    match rest with
    | b :: c :: _ =>
      if !secondOfThree first b then (none, 0)
      else if !isContinuation c then (none, 1)
      else (some (Char.ofNat ((first.toNat % 16 * 64 + payload b) * 64 + payload c)), 2)
    | [b] => (none, if secondOfThree first b then 1 else 0)
    | [] => (none, 0)
  else if 0xf0 ≤ first && first ≤ 0xf4 then
    match rest with
    | b :: c :: d :: _ =>
      if !secondOfFour first b then (none, 0)
      else if !isContinuation c then (none, 1)
      else if !isContinuation d then (none, 2)
      else
        let high := (first.toNat % 8 * 64 + payload b) * 64 + payload c
        (some (Char.ofNat (high * 64 + payload d)), 3)
    | [b, c] =>
      if !secondOfFour first b then (none, 0) else (none, if isContinuation c then 2 else 1)
    | [b] => (none, if secondOfFour first b then 1 else 0)
    | [] => (none, 0)
  else (none, 0)

/-- The pieces of a byte string: characters, and nothing for each malformed piece. The number says how
many bytes still belong to the piece before. -/
def decodePieces : Nat → List UInt8 → List (Option Char)
  | _, [] => []
  | skip + 1, _ :: bytes => decodePieces skip bytes
  | 0, first :: bytes =>
    let (c, more) := decodeFirst first bytes
    c :: decodePieces more bytes

def decodeUtf8 (bytes : List UInt8) : Option (List Char) := (decodePieces 0 bytes).mapM id

/-- The text of a byte string, with a replacement character for each malformed piece. -/
def decodeLossy (bytes : List UInt8) : List Char :=
  (decodePieces 0 bytes).map fun c => c.getD (Char.ofNat 0xfffd)

def encodeUtf8 (text : List Char) : List UInt8 := text.flatMap String.utf8EncodeChar

theorem encodeUtf8_cons (c : Char) (cs : List Char) :
    encodeUtf8 (c :: cs) = String.utf8EncodeChar c ++ encodeUtf8 cs := rfl

theorem utf8EncodeChar_ascii {c : Char} (h : c.val.toNat ≤ 0x7f) :
    String.utf8EncodeChar c = [c.val.toUInt8] :=
  String.utf8EncodeChar_eq_singleton (Char.utf8Size_eq_one_iff.2 (UInt32.le_iff_toNat_le.2 h))

/-- A character beyond ASCII has no byte within ASCII. -/
theorem lt_of_mem_utf8EncodeChar {c : Char} (h : 0x7f < c.val.toNat) {b : UInt8}
    (hb : b ∈ String.utf8EncodeChar c) : 0x7f < b.toNat := by
  have hbyte : ∀ n, 0x7f < n → n < 0x100 → 0x7f < (UInt8.ofNat n).toNat := by
    intro n hlow hhigh
    rwa [UInt8.toNat_ofNat', Nat.mod_eq_of_lt hhigh]
  have hvalid : c.val.toNat < 0xd800 ∨ 0xdfff < c.val.toNat ∧ c.val.toNat < 0x110000 := c.valid
  unfold String.utf8EncodeChar at hb
  generalize c.val.toNat = v at h hvalid hb
  simp only [if_neg (Nat.not_le.2 h)] at hb
  split at hb
  · simp only [List.mem_cons, List.not_mem_nil, or_false] at hb
    rcases hb with rfl | rfl <;> exact hbyte _ (by omega) (by omega)
  · split at hb
    · simp only [List.mem_cons, List.not_mem_nil, or_false] at hb
      rcases hb with rfl | rfl | rfl <;> exact hbyte _ (by omega) (by omega)
    · simp only [List.mem_cons, List.not_mem_nil, or_false] at hb
      rcases hb with rfl | rfl | rfl | rfl <;> exact hbyte _ (by omega) (by omega)

end LiveMarkup
