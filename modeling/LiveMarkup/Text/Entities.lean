import LiveMarkup.Text.Bytes
import LiveMarkup.Text.Utf8

/-! # Character references of markup text

The five characters that have a meaning of their own in markup are written as references. The live
editor writes the apostrophe as `&#039;`, the read-only panes as `&#39;`.

What is written for a text is defined character by character. To write it, the bytes of the text are
gone over, and stretches without a reserved character are cut out whole: no cut fails, and the result is
the same.
-/
namespace LiveMarkup

/-- The reference of a reserved character, and nothing for any other character. -/
def entityOf (c : Char) : Option (List Char) :=
  if c = '&' then some ['&', 'a', 'm', 'p', ';']
  else if c = '<' then some ['&', 'l', 't', ';']
  else if c = '>' then some ['&', 'g', 't', ';']
  else if c = '"' then some ['&', 'q', 'u', 'o', 't', ';']
  else if c = '\'' then some ['&', '#', '0', '3', '9', ';']
  else none

def escapeChar (c : Char) : List Char := (entityOf c).getD [c]

/-- A text as it is written in markup. Each character is replaced on its own, so the ampersand of a
reference is never escaped again. -/
def escape : List Char → List Char
  | [] => []
  | c :: cs => escapeChar c ++ escape cs

@[simp] theorem escape_nil : escape [] = [] := rfl

@[simp] theorem escape_cons (c : Char) (cs : List Char) :
    escape (c :: cs) = escapeChar c ++ escape cs := rfl

theorem escape_append (s t : List Char) : escape (s ++ t) = escape s ++ escape t := by
  induction s with
  | nil => rfl
  | cons c s ih => simp [ih]

/-- One character as the read-only panes write it: the apostrophe is `&#39;`. -/
def escapeCharShort (c : Char) : List Char :=
  if c = '\'' then ['&', '#', '3', '9', ';'] else escapeChar c

def escapeShort (text : List Char) : List Char := text.flatMap escapeCharShort

def escapeText (text : String) : String := String.ofList (escape text.toList)

theorem toList_escapeText (text : String) : (escapeText text).toList = escape text.toList :=
  String.toList_ofList

theorem escapeText_append (s t : String) : escapeText (s ++ t) = escapeText s ++ escapeText t := by
  rw [escapeText, String.toList_append, escape_append, String.ofList_append]
  rfl

/-! ### Byte by byte -/

/-- The reference of a reserved character that consists of this byte. -/
def entityOfByte (b : UInt8) : Option (List Char) := entityOf (Char.ofUInt8 b)

/-- Appends the escaped form of a text to a buffer, with some of its bytes still to be looked at. What is
not yet written starts at `last`, and the next byte stands at `place`. -/
def escapeBytes? (text : List Char) (buffer : List Char) (last place : Nat) :
    List UInt8 → Option (List Char)
  | [] => (dropBytes? text last).map (buffer ++ ·)
  | b :: bytes => match entityOfByte b with
    | some entity => do
      let stretch ← cutBytes? text last place
      escapeBytes? text (buffer ++ stretch ++ entity) (place + 1) (place + 1) bytes
    | none => escapeBytes? text buffer last (place + 1) bytes

def escapeInto? (buffer text : String) : Option String :=
  (escapeBytes? text.toList buffer.toList 0 0 (encodeUtf8 text.toList)).map String.ofList

theorem entityOf_eq_none_of_lt {c : Char} (h : 0x7f < c.val.toNat) : entityOf c = none := by
  have hne : ∀ d : Char, d.val.toNat ≤ 0x7f → c ≠ d := by
    rintro d hd rfl
    exact absurd hd (Nat.not_le.2 h)
  unfold entityOf
  rw [if_neg (hne _ (by decide)), if_neg (hne _ (by decide)), if_neg (hne _ (by decide)),
    if_neg (hne _ (by decide)), if_neg (hne _ (by decide))]

theorem le_of_entityOf {c : Char} {entity : List Char} (h : entityOf c = some entity) :
    c.val.toNat ≤ 0x7f := by
  refine Nat.le_of_not_lt fun hlt => ?_
  rw [entityOf_eq_none_of_lt hlt] at h
  exact nomatch h

theorem utf8Size_of_entityOf {c : Char} {entity : List Char} (h : entityOf c = some entity) :
    c.utf8Size = 1 :=
  Char.utf8Size_eq_one_iff.2 (le_of_entityOf h)

theorem entityOfByte_ascii {c : Char} (h : c.val.toNat ≤ 0x7f) :
    entityOfByte c.val.toUInt8 = entityOf c := by
  have hc : Char.ofUInt8 c.val.toUInt8 = c := by
    refine Char.ext (UInt32.toNat_inj.1 ?_)
    show c.val.toUInt8.toUInt32.toNat = c.val.toNat
    rw [UInt8.toNat_toUInt32, UInt32.toNat_toUInt8]
    omega
  rw [entityOfByte, hc]

/-- A byte of a character that is not reserved is not reserved. -/
theorem entityOfByte_eq_none {c : Char} (h : entityOf c = none) {b : UInt8}
    (hb : b ∈ String.utf8EncodeChar c) : entityOfByte b = none := by
  by_cases hc : c.val.toNat ≤ 0x7f
  · rw [utf8EncodeChar_ascii hc, List.mem_singleton] at hb
    rw [hb, entityOfByte_ascii hc, h]
  · have hlt := lt_of_mem_utf8EncodeChar (Nat.lt_of_not_le hc) hb
    refine entityOf_eq_none_of_lt (c := Char.ofUInt8 b) ?_
    show 0x7f < b.toUInt32.toNat
    rwa [UInt8.toNat_toUInt32]

section
variable (text buffer : List Char) (last place : Nat)

theorem escapeBytes?_unreserved {bytes : List UInt8} (h : ∀ b ∈ bytes, entityOfByte b = none)
    (rest : List UInt8) :
    escapeBytes? text buffer last place (bytes ++ rest) =
      escapeBytes? text buffer last (place + bytes.length) rest := by
  induction bytes generalizing place with
  | nil => rfl
  | cons b bytes ih =>
    rw [List.forall_mem_cons] at h
    rw [List.cons_append, escapeBytes?, h.1, ih _ h.2, List.length_cons, Nat.add_right_comm,
      Nat.add_assoc]

theorem escapeBytes?_plain {c : Char} (h : entityOf c = none) (cs : List Char) :
    escapeBytes? text buffer last place (encodeUtf8 (c :: cs)) =
      escapeBytes? text buffer last (place + c.utf8Size) (encodeUtf8 cs) := by
  rw [encodeUtf8_cons, escapeBytes?_unreserved _ _ _ _ fun b => entityOfByte_eq_none h,
    String.length_utf8EncodeChar]

theorem escapeBytes?_reserved {c : Char} {entity : List Char} (h : entityOf c = some entity)
    (cs : List Char) :
    escapeBytes? text buffer last place (encodeUtf8 (c :: cs)) =
      (cutBytes? text last place).bind fun stretch =>
        escapeBytes? text (buffer ++ stretch ++ entity) (place + 1) (place + 1) (encodeUtf8 cs) := by
  have hc := le_of_entityOf h
  rw [encodeUtf8_cons, utf8EncodeChar_ascii hc, List.singleton_append, escapeBytes?,
    entityOfByte_ascii hc, h]
  rfl

end

/-- What has been written ends behind `front`. The stretch behind it has been looked at and waits to be cut
out, and the rest of the text is still to be looked at. -/
theorem escapeBytes?_eq (buffer front stretch cs : List Char) :
    escapeBytes? (front ++ stretch ++ cs) buffer (byteLength front) (byteLength (front ++ stretch))
      (encodeUtf8 cs) = some (buffer ++ stretch ++ escape cs) := by
  -- over the characters still to come: a plain one joins the stretch, a reserved one ends it
  induction cs generalizing buffer front stretch with
  | nil =>
    rw [List.append_nil]
    show (dropBytes? (front ++ stretch) (byteLength front)).map (buffer ++ ·) = _
    rw [dropBytes?_append, Option.map_some, escape_nil, List.append_nil]
  | cons c cs ih =>
    have htext : front ++ stretch ++ c :: cs = front ++ (stretch ++ [c]) ++ cs := by simp
    have hplace : byteLength (front ++ stretch) + c.utf8Size =
        byteLength (front ++ (stretch ++ [c])) := by
      simp [byteLength_append, Nat.add_assoc]
    rw [escape_cons, escapeChar]
    cases hc : entityOf c with
    | none =>
      rw [escapeBytes?_plain _ _ _ _ hc, htext, hplace, ih]
      simp
    | some entity =>
      have hcut : cutBytes? (front ++ stretch ++ c :: cs) (byteLength front)
          (byteLength (front ++ stretch)) = some stretch :=
        cutBytes?_eq_some_iff.2 ⟨front, c :: cs, rfl, rfl, rfl⟩
      have hrest := ih (buffer ++ stretch ++ entity) (front ++ (stretch ++ [c])) []
      rw [List.append_nil, ← htext, ← hplace, utf8Size_of_entityOf hc, List.append_nil] at hrest
      rw [escapeBytes?_reserved _ _ _ _ hc, hcut, Option.bind_some, hrest, List.append_assoc]
      rfl

theorem escapeBytes?_encodeUtf8 (text buffer : List Char) :
    escapeBytes? text buffer 0 0 (encodeUtf8 text) = some (buffer ++ escape text) := by
  simpa using escapeBytes?_eq buffer [] [] text

theorem escapeInto?_eq (buffer text : String) :
    escapeInto? buffer text = some (buffer ++ escapeText text) := by
  rw [escapeInto?, escapeBytes?_encodeUtf8, Option.map_some, String.ofList_append,
    String.ofList_toList, escapeText]

theorem isSome_escapeInto? (buffer text : String) : (escapeInto? buffer text).isSome := by
  rw [escapeInto?_eq]
  rfl

/-- Appends the escaped form of a text to a buffer. No cut fails, so there is always a result. -/
def escapeInto (buffer text : String) : String :=
  (escapeInto? buffer text).get (isSome_escapeInto? buffer text)

theorem escapeInto_eq (buffer text : String) : escapeInto buffer text = buffer ++ escapeText text :=
  Option.get_of_eq_some _ (escapeInto?_eq buffer text)

end LiveMarkup
