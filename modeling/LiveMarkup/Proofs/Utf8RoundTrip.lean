import Mathlib
import LiveMarkup.Text.Utf8

/-! # Decoding what was encoded

The strict decoder takes back the encoding of every text. The bytes of a character are decoded to it
whatever follows, so the bytes of a text are decoded piece by piece.
-/
namespace LiveMarkup

theorem toNat_byte {n : Nat} (h : n < 256) : (UInt8.ofNat n).toNat = n := by
  simp [Nat.mod_eq_of_lt h]

/-- The last six bits of a number, as a byte that continues a sequence. -/
def continuation (n : Nat) : UInt8 := UInt8.ofNat (n % 0x40 + 0x80)

theorem toNat_continuation (n : Nat) : (continuation n).toNat = n % 0x40 + 0x80 :=
  toNat_byte (by omega)

@[simp] theorem isContinuation_continuation (n : Nat) : isContinuation (continuation n) = true := by
  have h := toNat_continuation n
  simp only [isContinuation, Bool.and_eq_true, decide_eq_true_eq, UInt8.le_iff_toNat_le, h]
  constructor
  · exact Nat.le_add_left _ _
  · show n % 0x40 + 0x80 ≤ 0xbf
    omega

@[simp] theorem payload_continuation (n : Nat) : payload (continuation n) = n % 0x40 := by
  rw [payload, toNat_continuation]
  omega

theorem inRange_iff {low high byte : UInt8} :
    (low ≤ byte && byte ≤ high) = true ↔ low.toNat ≤ byte.toNat ∧ byte.toNat ≤ high.toNat := by
  simp [UInt8.le_iff_toNat_le]

theorem decodeFirst_one {v : Nat} (h : v ≤ 0x7f) (rest : List UInt8) :
    decodeFirst (UInt8.ofNat v) rest = (some (Char.ofNat v), 0) := by
  have hv : (UInt8.ofNat v).toNat = v := toNat_byte (by omega)
  have hlt : UInt8.ofNat v < 0x80 := by
    rw [UInt8.lt_iff_toNat_lt, hv]
    exact Nat.lt_succ_of_le h
  unfold decodeFirst
  rw [if_pos hlt, hv]

section
variable {first : UInt8}

theorem not_lt_of_high (h : 0x80 ≤ first.toNat) : ¬first < 0x80 := by
  rw [UInt8.lt_iff_toNat_lt]
  exact Nat.not_lt_of_le h

theorem decodeFirst_two {v : Nat} (h : 0x7f < v) (hle : v ≤ 0x7ff)
    (hfirst : first.toNat = v / 0x40 + 0xc0) (rest : List UInt8) :
    decodeFirst first (continuation v :: rest) = (some (Char.ofNat v), 1) := by
  have hhigh : ¬first < 0x80 := not_lt_of_high (by omega)
  have htwo : (0xc2 ≤ first && first ≤ 0xdf) = true := by
    rw [inRange_iff, hfirst]
    simp only [UInt8.reduceToNat]
    omega
  have hv : first.toNat % 32 * 64 + v % 0x40 = v := by omega
  rw [decodeFirst, if_neg hhigh, if_pos htwo]
  simp only [isContinuation_continuation, if_true, payload_continuation, hv]

theorem decodeFirst_three {v : Nat} (h : 0x7ff < v) (hle : v ≤ 0xffff)
    (hvalid : v < 0xd800 ∨ 0xdfff < v) (hfirst : first.toNat = v / 0x1000 + 0xe0)
    (rest : List UInt8) :
    decodeFirst first (continuation (v / 0x40) :: continuation v :: rest) =
      (some (Char.ofNat v), 2) := by
  have hhigh : ¬first < 0x80 := not_lt_of_high (by omega)
  have htwo : ¬(0xc2 ≤ first && first ≤ 0xdf) = true := by
    rw [inRange_iff, hfirst]
    simp only [UInt8.reduceToNat]
    omega
  have hthree : (0xe0 ≤ first && first ≤ 0xef) = true := by
    rw [inRange_iff, hfirst]
    simp only [UInt8.reduceToNat]
    omega
  have hsecond : secondOfThree first (continuation (v / 0x40)) = true := by
    have hc := toNat_continuation (v / 0x40)
    unfold secondOfThree
    split_ifs with h0 hd
    · have hn : v / 0x1000 + 0xe0 = 0xe0 := by rw [← hfirst, h0]; rfl
      rw [inRange_iff, hc]
      simp only [UInt8.reduceToNat]
      omega
    · have hn : v / 0x1000 + 0xe0 = 0xed := by rw [← hfirst, hd]; rfl
      rw [inRange_iff, hc]
      simp only [UInt8.reduceToNat]
      omega
    · exact isContinuation_continuation _
  have hv : (first.toNat % 16 * 64 + v / 0x40 % 0x40) * 64 + v % 0x40 = v := by omega
  rw [decodeFirst, if_neg hhigh, if_neg htwo, if_pos hthree]
  simp only [hsecond, isContinuation_continuation, Bool.not_true, Bool.false_eq_true, if_false,
    payload_continuation, hv]

theorem decodeFirst_four {v : Nat} (h : 0xffff < v) (hle : v ≤ 0x10ffff)
    (hfirst : first.toNat = v / 0x40000 + 0xf0) (rest : List UInt8) :
    decodeFirst first
        (continuation (v / 0x1000) :: continuation (v / 0x40) :: continuation v :: rest) =
      (some (Char.ofNat v), 3) := by
  have hhigh : ¬first < 0x80 := not_lt_of_high (by omega)
  have htwo : ¬(0xc2 ≤ first && first ≤ 0xdf) = true := by
    rw [inRange_iff, hfirst]
    simp only [UInt8.reduceToNat]
    omega
  have hthree : ¬(0xe0 ≤ first && first ≤ 0xef) = true := by
    rw [inRange_iff, hfirst]
    simp only [UInt8.reduceToNat]
    omega
  have hfour : (0xf0 ≤ first && first ≤ 0xf4) = true := by
    rw [inRange_iff, hfirst]
    simp only [UInt8.reduceToNat]
    omega
  have hsecond : secondOfFour first (continuation (v / 0x1000)) = true := by
    have hc := toNat_continuation (v / 0x1000)
    unfold secondOfFour
    split_ifs with h0 hd
    · have hn : v / 0x40000 + 0xf0 = 0xf0 := by rw [← hfirst, h0]; rfl
      rw [inRange_iff, hc]
      simp only [UInt8.reduceToNat]
      omega
    · have hn : v / 0x40000 + 0xf0 = 0xf4 := by rw [← hfirst, hd]; rfl
      rw [inRange_iff, hc]
      simp only [UInt8.reduceToNat]
      omega
    · exact isContinuation_continuation _
  have hv : ((first.toNat % 8 * 64 + v / 0x1000 % 0x40) * 64 + v / 0x40 % 0x40) * 64 + v % 0x40 =
      v := by omega
  rw [decodeFirst, if_neg hhigh, if_neg htwo, if_neg hthree, if_pos hfour]
  simp only [hsecond, isContinuation_continuation, Bool.not_true, Bool.false_eq_true, if_false,
    payload_continuation, hv]

end

theorem decodePieces_encode (c : Char) (rest : List UInt8) :
    decodePieces 0 (String.utf8EncodeChar c ++ rest) = some c :: decodePieces 0 rest := by
  have hc : Char.ofNat c.val.toNat = c := Char.ofNat_toNat c
  have hvalid : c.val.toNat < 0xd800 ∨ 0xdfff < c.val.toNat ∧ c.val.toNat < 0x110000 := c.valid
  unfold String.utf8EncodeChar
  generalize c.val.toNat = v at hc hvalid
  simp only []
  split_ifs with h1 h2 h3
  · simp only [List.singleton_append, decodePieces, decodeFirst_one h1, hc]
  · have hfirst : (UInt8.ofNat (v / 0x40 % 0x20 + 0xc0)).toNat = v / 0x40 + 0xc0 := by
      rw [toNat_byte (by omega)]
      omega
    have hd := decodeFirst_two (by omega) h2 hfirst rest
    rw [continuation, hc] at hd
    simp only [List.cons_append, List.nil_append, decodePieces, hd]
  · have hfirst : (UInt8.ofNat (v / 0x1000 % 0x10 + 0xe0)).toNat = v / 0x1000 + 0xe0 := by
      rw [toNat_byte (by omega)]
      omega
    have hd := decodeFirst_three (by omega) h3 (hvalid.imp_right And.left) hfirst rest
    rw [continuation, continuation, hc] at hd
    simp only [List.cons_append, List.nil_append, decodePieces, hd]
  · have hfirst : (UInt8.ofNat (v / 0x40000 % 0x08 + 0xf0)).toNat = v / 0x40000 + 0xf0 := by
      rw [toNat_byte (by omega)]
      omega
    have hd := decodeFirst_four (by omega) (by omega) hfirst rest
    rw [continuation, continuation, continuation, hc] at hd
    simp only [List.cons_append, List.nil_append, decodePieces, hd]

theorem decodePieces_encodeUtf8 (text : List Char) :
    decodePieces 0 (encodeUtf8 text) = text.map some := by
  induction text with
  | nil => rfl
  | cons c text ih =>
    rw [encodeUtf8, List.flatMap_cons, decodePieces_encode, List.map_cons, ← ih]
    rfl

theorem decodeUtf8_encodeUtf8 (text : List Char) : decodeUtf8 (encodeUtf8 text) = some text := by
  rw [decodeUtf8, decodePieces_encodeUtf8]
  induction text with
  | nil => rfl
  | cons c text ih =>
    rw [List.map_cons, List.mapM_cons, ih]
    rfl

end LiveMarkup
