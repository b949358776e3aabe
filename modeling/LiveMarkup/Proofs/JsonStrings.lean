import Mathlib
import LiveMarkup.Json.Reader

/-! # Reading back strings

A string is read back from every text that spells it, whatever follows. The characters of a string may
stand for themselves or be escaped, with a letter, with a code or with a pair of codes; the printed text
is one of these spellings.
-/
namespace LiveMarkup
namespace JsonInput
open Json

/-! ### Spellings -/

/-- A hexadecimal digit, in either case. -/
def HexDigit (c : Char) (n : Nat) : Prop := n < 16 ∧ (c = hexDigit n ∨ c = (hexDigit n).toUpper)

/-- The code of a character, or of half a character, as it stands behind `\u`. -/
inductive HexCode : List Char → Nat → Prop
  | mk {a b c d : Char} {k l m n : Nat} (ha : HexDigit a k) (hb : HexDigit b l) (hc : HexDigit c m)
      (hd : HexDigit d n) : HexCode [a, b, c, d] (((k * 16 + l) * 16 + m) * 16 + n)

/-- What may stand behind a backslash, and what it stands for. -/
def shortEscapes : List (Char × Char) :=
  [('"', '"'), ('\\', '\\'), ('/', '/'), ('b', '\x08'), ('f', '\x0c'), ('n', '\n'), ('r', '\r'),
    ('t', '\t')]

/-- The ways to write a character of a string. -/
inductive SpellsChar : List Char → Char → Prop
  | plain {c : Char} (hquote : c ≠ '"') (hslash : c ≠ '\\') (hcontrol : 0x20 ≤ c.toNat) :
      SpellsChar [c] c
  | short {e c : Char} (h : (e, c) ∈ shortEscapes) : SpellsChar ['\\', e] c
  | code {digits : List Char} {c : Char} (h : HexCode digits c.toNat) :
      SpellsChar ('\\' :: 'u' :: digits) c
  | pair {high low : List Char} {m n : Nat} {c : Char} (hhigh : HexCode high m) (hlow : HexCode low n)
      (hm : 0xd800 ≤ m ∧ m ≤ 0xdbff) (hn : 0xdc00 ≤ n ∧ n ≤ 0xdfff)
      (hc : c.toNat = 0x10000 + (m - 0xd800) * 0x400 + (n - 0xdc00)) :
      SpellsChar ('\\' :: 'u' :: (high ++ '\\' :: 'u' :: low)) c

/-- The ways to write a string. -/
def SpellsString (text : List Char) (s : String) : Prop :=
  ∃ pieces, List.Forall₂ SpellsChar pieces s.toList ∧ text = '"' :: (pieces.flatten ++ ['"'])

/-! ### Reading a spelling -/

theorem HexDigit.hexValue? {c : Char} {n : Nat} (h : HexDigit c n) : hexValue? c = some n := by
  have hall : ∀ n < 16, JsonInput.hexValue? (hexDigit n) = some n ∧
      JsonInput.hexValue? (hexDigit n).toUpper = some n := by decide
  obtain ⟨hn, rfl | rfl⟩ := h
  · exact (hall n hn).1
  · exact (hall n hn).2

theorem HexCode.hexEscape {digits : List Char} {n : Nat} (h : HexCode digits n) (rest : List Char)
    (place : Place) : ∃ behind, hexEscape ⟨digits ++ rest, place⟩ = .ok (n, ⟨rest, behind⟩) := by
  obtain ⟨ha, hb, hc, hd⟩ := h
  simp only [JsonInput.hexEscape, List.cons_append, List.nil_append, hexDigits?, ha.hexValue?,
    hb.hexValue?, hc.hexValue?, hd.hexValue?, Option.bind_eq_bind, Option.bind_some]
  exact ⟨_, rfl⟩

theorem escape_code {place : Place} {rest : List Char} {n : Nat} {behind : JsonInput}
    (h : hexEscape ⟨rest, place.after 'u'⟩ = .ok (n, behind)) :
    escape ⟨'u' :: rest, place⟩ =
      if 0xdc00 ≤ n && n ≤ 0xdfff then behind.fail .unpairedSurrogate
      else if 0xd800 ≤ n && n ≤ 0xdbff then lowSurrogate behind n
      else .ok (Char.ofNat n, behind) := by
  have hcode : escape ⟨'u' :: rest, place⟩ = (hexEscape ⟨rest, place.after 'u'⟩).bind fun read =>
      if 0xdc00 ≤ read.1 && read.1 ≤ 0xdfff then read.2.fail .unpairedSurrogate
      else if 0xd800 ≤ read.1 && read.1 ≤ 0xdbff then lowSurrogate read.2 read.1
      else .ok (Char.ofNat read.1, read.2) := rfl
  rw [hcode, h]
  rfl

theorem SpellsChar.escape {text : List Char} {c : Char} (h : SpellsChar ('\\' :: text) c)
    (rest : List Char) (place : Place) :
    ∃ behind, escape ⟨text ++ rest, place⟩ = .ok (c, ⟨rest, behind⟩) := by
  cases h with
  | plain _ hslash _ => exact absurd rfl hslash
  | short h =>
    simp only [shortEscapes, List.mem_cons, Prod.mk.injEq, List.not_mem_nil, or_false] at h
    rcases h with ⟨rfl, rfl⟩ | ⟨rfl, rfl⟩ | ⟨rfl, rfl⟩ | ⟨rfl, rfl⟩ | ⟨rfl, rfl⟩ | ⟨rfl, rfl⟩ |
      ⟨rfl, rfl⟩ | ⟨rfl, rfl⟩ <;> exact ⟨_, rfl⟩
  | @code digits _ h =>
    obtain ⟨behind, hhex⟩ := h.hexEscape rest (place.after 'u')
    refine ⟨behind, ?_⟩
    -- a character is no half of a pair
    have hvalid : c.toNat < 0xd800 ∨ 0xdfff < c.toNat ∧ c.toNat < 0x110000 := c.valid
    rw [List.cons_append, escape_code hhex, if_neg, if_neg, Char.ofNat_toNat]
    all_goals
      rw [Bool.and_eq_true, decide_eq_true_eq, decide_eq_true_eq]
      omega
  | @pair high low m n _ hhigh hlow hm hn hc =>
    obtain ⟨next, hfirst⟩ := hhigh.hexEscape ('\\' :: 'u' :: (low ++ rest)) (place.after 'u')
    obtain ⟨behind, hsecond⟩ := hlow.hexEscape rest ((next.after '\\').after 'u')
    refine ⟨behind, ?_⟩
    have htext : 'u' :: (high ++ '\\' :: 'u' :: low) ++ rest =
        'u' :: (high ++ '\\' :: 'u' :: (low ++ rest)) := by simp
    have hlow : lowSurrogate ⟨'\\' :: 'u' :: (low ++ rest), next⟩ m =
        (hexEscape ⟨low ++ rest, (next.after '\\').after 'u'⟩).bind fun read =>
          if read.1 < 0xdc00 || 0xdfff < read.1 then read.2.fail .unpairedSurrogate
          else .ok (Char.ofNat (0x10000 + (m - 0xd800) * 0x400 + (read.1 - 0xdc00)), read.2) := rfl
    have hpair : ¬(n < 0xdc00 || 0xdfff < n) = true := by
      rw [Bool.or_eq_true, decide_eq_true_eq, decide_eq_true_eq]
      omega
    rw [htext, escape_code hfirst, if_neg, if_pos, hlow, hsecond]
    · show (if (n < 0xdc00 || 0xdfff < n) = true then _ else _) = _
      rw [if_neg hpair, ← hc, Char.ofNat_toNat]
    all_goals
      rw [Bool.and_eq_true, decide_eq_true_eq, decide_eq_true_eq]
      omega

theorem SpellsChar.stringBody {text : List Char} {c : Char} (h : SpellsChar text c) (fuel : Nat)
    (before rest : List Char) (place : Place) :
    ∃ behind, stringBody (fuel + 1) before ⟨text ++ rest, place⟩ =
      stringBody fuel (c :: before) ⟨rest, behind⟩ := by
  -- behind a backslash the escape is read, and nothing else begins with one
  have hescape : ∀ {escaped : List Char}, text = '\\' :: escaped → ∃ behind,
      JsonInput.stringBody (fuel + 1) before ⟨text ++ rest, place⟩ =
        JsonInput.stringBody fuel (c :: before) ⟨rest, behind⟩ := by
    rintro escaped rfl
    obtain ⟨behind, hread⟩ := h.escape rest (place.after '\\')
    refine ⟨behind, ?_⟩
    simp only [JsonInput.stringBody, List.cons_append, skip, if_true, hread,
      if_neg (show '\\' ≠ '"' by decide)]
    rfl
  cases h with
  | plain hquote hslash hcontrol =>
    refine ⟨place.after c, ?_⟩
    rw [List.singleton_append, JsonInput.stringBody]
    simp only [if_neg hquote, if_neg hslash, if_neg (Nat.not_lt.2 hcontrol)]
  | short h => exact hescape rfl
  | code h => exact hescape rfl
  | pair hhigh hlow hm hn hc => exact hescape rfl

theorem SpellsChar.length_pos {text : List Char} {c : Char} (h : SpellsChar text c) :
    0 < text.length := by
  cases h <;> exact Nat.succ_pos _

theorem length_le_flatten {pieces : List (List Char)} {s : List Char}
    (h : List.Forall₂ SpellsChar pieces s) : s.length ≤ pieces.flatten.length := by
  induction h with
  | nil => exact le_rfl
  | cons hc _ ih =>
    have hpos := hc.length_pos
    rw [List.flatten_cons, List.length_append, List.length_cons]
    omega

theorem stringBody_flatten {pieces : List (List Char)} {s : List Char}
    (h : List.Forall₂ SpellsChar pieces s) {fuel : Nat} (hfuel : s.length < fuel)
    (before rest : List Char) (place : Place) :
    ∃ behind, stringBody fuel before ⟨pieces.flatten ++ '"' :: rest, place⟩ =
      .ok (before.reverse ++ s, ⟨rest, behind⟩) := by
  induction h generalizing fuel before place with
  | nil =>
    obtain ⟨fuel, rfl⟩ := Nat.exists_eq_add_of_lt hfuel
    exact ⟨place.after '"', by rw [List.append_nil]; rfl⟩
  | @cons piece c pieces s hc _ ih =>
    cases fuel with
    | zero => exact absurd hfuel (Nat.not_lt_zero _)
    | succ fuel =>
      obtain ⟨next, hfirst⟩ := hc.stringBody fuel before (pieces.flatten ++ '"' :: rest) place
      obtain ⟨behind, hmore⟩ := ih (Nat.lt_of_succ_lt_succ hfuel) (c :: before) next
      refine ⟨behind, ?_⟩
      rw [List.flatten_cons, List.append_assoc, hfirst, hmore, List.reverse_cons, List.append_assoc,
        List.singleton_append]

/-- The reader of a string stands behind its opening quote. -/
theorem SpellsString.string {text : List Char} {s : String} (h : SpellsString text s)
    (rest : List Char) (place : Place) :
    ∃ behind, (skip ⟨text ++ rest, place⟩).string = .ok (s, ⟨rest, behind⟩) := by
  obtain ⟨pieces, hpieces, rfl⟩ := h
  have hfuel : s.toList.length < (pieces.flatten ++ '"' :: rest).length + 1 := by
    have hlength := length_le_flatten hpieces
    rw [List.length_append]
    omega
  obtain ⟨behind, hbody⟩ := stringBody_flatten hpieces hfuel [] rest (place.after '"')
  refine ⟨behind, ?_⟩
  have htext : '"' :: (pieces.flatten ++ ['"']) ++ rest = '"' :: (pieces.flatten ++ '"' :: rest) := by
    simp
  rw [htext, skip, JsonInput.string, hbody]
  show Except.ok (String.ofList ([].reverse ++ s.toList), _) = _
  rw [List.reverse_nil, List.nil_append, String.ofList_toList]

/-! ### The printed text -/

theorem hexCode_control {n : Nat} (h : n < 0x20) :
    HexCode ['0', '0', hexDigit (n / 16), hexDigit (n % 16)] n := by
  have hzero : HexDigit '0' 0 := ⟨by decide, .inl rfl⟩
  have hhigh : HexDigit (hexDigit (n / 16)) (n / 16) := ⟨by omega, .inl rfl⟩
  have hlow : HexDigit (hexDigit (n % 16)) (n % 16) := ⟨by omega, .inl rfl⟩
  have hn : ((0 * 16 + 0) * 16 + n / 16) * 16 + n % 16 = n := by omega
  have hcode := HexCode.mk hzero hzero hhigh hlow
  rwa [hn] at hcode

theorem spellsChar_stringChar (c : Char) : SpellsChar (stringChar c) c := by
  unfold stringChar
  split_ifs with hquote hslash hn hr ht hb hf hcontrol
  · subst hquote; exact .short (by decide)
  · subst hslash; exact .short (by decide)
  · subst hn; exact .short (by decide)
  · subst hr; exact .short (by decide)
  · subst ht; exact .short (by decide)
  · subst hb; exact .short (by decide)
  · subst hf; exact .short (by decide)
  · exact .code (hexCode_control hcontrol)
  · exact .plain hquote hslash (Nat.not_lt.1 hcontrol)

theorem spellsString_stringText (s : String) : SpellsString (stringText s.toList) s := by
  refine ⟨s.toList.map stringChar, ?_, ?_⟩
  · rw [List.forall₂_map_left_iff, List.forall₂_same]
    exact fun c _ => spellsChar_stringChar c
  · rw [stringText, List.flatMap_def]

end JsonInput
end LiveMarkup
