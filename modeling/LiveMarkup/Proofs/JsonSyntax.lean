import LiveMarkup.Proofs.JsonLayout
import LiveMarkup.Json.Skip

/-! # Passing over well-formed values

What counts as a JSON text is laid down without regard to what it stands for: numbers of any size, codes
that are half a character, members that come twice, lists and objects at any depth, and blanks wherever
they may stand. The reader passes over every such value and stops right behind it.
-/
namespace LiveMarkup
namespace JsonInput

/-! ### Well-formed text -/

def DigitsText (text : List Char) : Prop := text ≠ [] ∧ ∀ c ∈ text, c.isDigit

inductive FractionText : List Char → Prop
  | absent : FractionText []
  | present {digits : List Char} (h : DigitsText digits) : FractionText ('.' :: digits)

inductive ExponentText : List Char → Prop
  | absent : ExponentText []
  | present {e : Char} {sign digits : List Char} (he : e = 'e' ∨ e = 'E')
      (hsign : sign = [] ∨ sign = ['+'] ∨ sign = ['-']) (h : DigitsText digits) :
      ExponentText (e :: (sign ++ digits))

/-- A number behind its sign. Only a zero that stands alone leads the whole part. -/
inductive UnsignedText : List Char → Prop
  | mk {whole fraction exponent : List Char} (hwhole : DigitsText whole)
      (hzero : whole.head? = some '0' → whole = ['0']) (hfraction : FractionText fraction)
      (hexponent : ExponentText exponent) : UnsignedText (whole ++ (fraction ++ exponent))

/-- A piece of a string: a character, or an escape with any code. -/
inductive StringPiece : List Char → Prop
  | plain {c : Char} (hquote : c ≠ '"') (hslash : c ≠ '\\') (hcontrol : 0x20 ≤ c.toNat) :
      StringPiece [c]
  | short {e c : Char} (h : (e, c) ∈ shortEscapes) : StringPiece ['\\', e]
  | code {digits : List Char} {n : Nat} (h : HexCode digits n) : StringPiece ('\\' :: 'u' :: digits)

def QuotedText (text : List Char) : Prop :=
  ∃ pieces : List (List Char), (∀ piece ∈ pieces, StringPiece piece) ∧ text = '"' :: (pieces.flatten ++ ['"'])

inductive Part where
  | value | items | members

/-- A value, or what stands between the brackets of a list or an object that is not empty. -/
inductive WellFormed : Part → List Char → Prop
  | word {text : List Char} (h : text = ['n', 'u', 'l', 'l'] ∨ text = ['t', 'r', 'u', 'e'] ∨
      text = ['f', 'a', 'l', 's', 'e']) : WellFormed .value text
  | number {text : List Char} (h : UnsignedText text) : WellFormed .value text
  | negative {text : List Char} (h : UnsignedText text) : WellFormed .value ('-' :: text)
  | string {text : List Char} (h : QuotedText text) : WellFormed .value text
  | emptyList {gap : List Char} (hgap : Blank gap) : WellFormed .value ('[' :: (gap ++ [']']))
  | list {text : List Char} (h : WellFormed .items text) : WellFormed .value ('[' :: (text ++ [']']))
  | emptyObject {gap : List Char} (hgap : Blank gap) :
      WellFormed .value ('\x7b' :: (gap ++ ['\x7d']))
  | object {text : List Char} (h : WellFormed .members text) :
      WellFormed .value ('\x7b' :: (text ++ ['\x7d']))
  | lastItem {before text behind : List Char} (hbefore : Blank before) (h : WellFormed .value text)
      (hbehind : Blank behind) : WellFormed .items (before ++ (text ++ behind))
  | item {before text behind later : List Char} (hbefore : Blank before) (h : WellFormed .value text)
      (hbehind : Blank behind) (hlater : WellFormed .items later) :
      WellFormed .items (before ++ (text ++ (behind ++ ',' :: later)))
  | lastMember {before key colon gap text behind : List Char} (hbefore : Blank before)
      (hkey : QuotedText key) (hcolon : Blank colon) (hgap : Blank gap) (h : WellFormed .value text)
      (hbehind : Blank behind) :
      WellFormed .members (before ++ (key ++ (colon ++ ':' :: (gap ++ (text ++ behind)))))
  | member {before key colon gap text behind later : List Char} (hbefore : Blank before)
      (hkey : QuotedText key) (hcolon : Blank colon) (hgap : Blank gap) (h : WellFormed .value text)
      (hbehind : Blank behind) (hlater : WellFormed .members later) :
      WellFormed .members
        (before ++ (key ++ (colon ++ ':' :: (gap ++ (text ++ (behind ++ ',' :: later))))))

/-! ### Numbers -/

theorem DigitsText.digitsOf {digits : List Char} (h : DigitsText digits) {rest : List Char}
    (hrest : ∀ c, rest.head? = some c → ¬c.isDigit) : digitsOf (digits ++ rest) = digits :=
  digitsOf_append h.2 hrest

theorem ExponentText.starts {exponent : List Char} (h : ExponentText exponent) {rest : List Char}
    (hrest : EndsNumber rest) {c : Char} (hc : (exponent ++ rest).head? = some c) :
    ¬c.isDigit ∧ c ≠ '.' := by
  cases h with
  | absent => exact ⟨(hrest c hc).1, (hrest c hc).2.1⟩
  | present he _ _ =>
    obtain rfl := Option.some.inj hc
    rcases he with rfl | rfl <;> decide

theorem FractionText.starts {fraction exponent : List Char} (h : FractionText fraction)
    (hexponent : ExponentText exponent) {rest : List Char} (hrest : EndsNumber rest) {c : Char}
    (hc : (fraction ++ (exponent ++ rest)).head? = some c) : ¬c.isDigit := by
  cases h with
  | absent => exact (hexponent.starts hrest hc).1
  | present _ =>
    obtain rfl := Option.some.inj hc
    decide

theorem ExponentText.skip {exponent : List Char} (h : ExponentText exponent) {rest : List Char}
    (hrest : EndsNumber rest) (place : Place) :
    ∃ behind, (if startsExponent (exponent ++ rest) then skipExponent ⟨exponent ++ rest, place⟩
      else .ok ⟨exponent ++ rest, place⟩) = .ok ⟨rest, behind⟩ := by
  cases h with
  | absent => exact ⟨place, if_neg hrest.not_startsExponent⟩
  | @present e sign digits he hsign h =>
    have hstarts : startsExponent (e :: (sign ++ digits) ++ rest) := by
      rcases he with rfl | rfl <;> rfl
    obtain ⟨d, ds, rfl⟩ := List.exists_cons_of_ne_nil h.1
    have hd : d.isDigit := h.2 d List.mem_cons_self
    have hplus : d ≠ '+' := by rintro rfl; exact absurd hd (by decide)
    have hminus : d ≠ '-' := by rintro rfl; exact absurd hd (by decide)
    have hdigits : JsonInput.digitsOf (d :: (ds ++ rest)) = d :: ds :=
      h.digitsOf fun c hc => (hrest c hc).1
    rw [if_pos hstarts]
    -- behind the letter and the sign, if any, the digits are dropped
    rcases hsign with rfl | rfl | rfl
    · obtain ⟨behind, hdrop⟩ := drop_append (d :: ds) rest (place.after e)
      exact ⟨behind, by simp_all [skipExponent, JsonInput.skip]⟩
    · obtain ⟨behind, hdrop⟩ := drop_append (d :: ds) rest ((place.after e).after '+')
      exact ⟨behind, by simp_all [skipExponent, JsonInput.skip]⟩
    · obtain ⟨behind, hdrop⟩ := drop_append (d :: ds) rest ((place.after e).after '-')
      exact ⟨behind, by simp_all [skipExponent, JsonInput.skip]⟩

theorem UnsignedText.starts {text : List Char} (h : UnsignedText text) :
    ∃ c cs, text = c :: cs ∧ c.isDigit := by
  obtain ⟨hwhole, -, -, -⟩ := h
  obtain ⟨c, cs, rfl⟩ := List.exists_cons_of_ne_nil hwhole.1
  exact ⟨c, _, rfl, hwhole.2 c List.mem_cons_self⟩

theorem UnsignedText.skipNumber {text : List Char} (h : UnsignedText text) {rest : List Char}
    (hrest : EndsNumber rest) (place : Place) :
    ∃ behind, skipNumber ⟨text ++ rest, place⟩ = .ok ⟨rest, behind⟩ := by
  obtain @⟨whole, fraction, exponent, hwhole, hzero, hfraction, hexponent⟩ := h
  obtain ⟨c, cs, rfl⟩ := List.exists_cons_of_ne_nil hwhole.1
  have hc : c.isDigit := hwhole.2 c List.mem_cons_self
  have hends := fun d => hfraction.starts (c := d) hexponent hrest
  have hdigits : JsonInput.digitsOf (c :: (cs ++ (fraction ++ (exponent ++ rest)))) = c :: cs :=
    hwhole.digitsOf hends
  have hleading : ¬(c = '0' && ((cs ++ (fraction ++ (exponent ++ rest))).headD 'x').isDigit) := by
    rw [Bool.and_eq_true, decide_eq_true_eq]
    rintro ⟨rfl, hnext⟩
    obtain rfl : cs = [] := (List.cons.inj (hzero rfl)).2
    cases hbehind : fraction ++ (exponent ++ rest) with
    | nil =>
      rw [List.nil_append, hbehind] at hnext
      exact absurd hnext (by decide)
    | cons d ds =>
      rw [List.nil_append, hbehind] at hnext
      exact hends d (by rw [hbehind]; rfl) hnext
  have hfirst : ∃ next, (if c = '0' then
      JsonInput.skip ⟨c :: (cs ++ (fraction ++ (exponent ++ rest))), place⟩
      else drop (c :: cs).length ⟨c :: (cs ++ (fraction ++ (exponent ++ rest))), place⟩) =
        ⟨fraction ++ (exponent ++ rest), next⟩ := by
    split_ifs with h0
    · subst h0
      obtain rfl : cs = [] := (List.cons.inj (hzero rfl)).2
      exact ⟨_, rfl⟩
    · exact drop_append (c :: cs) _ place
  obtain ⟨next, hnext⟩ := hfirst
  have htext : c :: cs ++ (fraction ++ exponent) ++ rest =
      c :: (cs ++ (fraction ++ (exponent ++ rest))) := by simp
  rw [htext, JsonInput.skipNumber]
  simp only [hc, hleading, hdigits, hnext, Bool.not_true, Bool.false_eq_true, if_false]
  cases hfraction with
  | absent =>
    obtain ⟨behind, hskip⟩ := hexponent.skip hrest next
    have hpoint : ¬(exponent ++ rest).head? = some '.' :=
      fun hhead => (hexponent.starts hrest hhead).2 rfl
    exact ⟨behind, by rw [List.nil_append, if_neg hpoint]; exact hskip⟩
  | @present digits h =>
    obtain ⟨start, hdrop⟩ := drop_append digits (exponent ++ rest) (next.after '.')
    obtain ⟨behind, hskip⟩ := hexponent.skip hrest start
    have hall : JsonInput.digitsOf (digits ++ (exponent ++ rest)) = digits :=
      h.digitsOf fun d hd => (hexponent.starts hrest hd).1
    refine ⟨behind, ?_⟩
    simp only [List.cons_append, List.head?_cons, if_true, JsonInput.skip, hall, hdrop, h.1, if_false]
    exact hskip

/-! ### Strings -/

theorem StringPiece.skipString {piece : List Char} (h : StringPiece piece) (fuel : Nat)
    (rest : List Char) (place : Place) :
    ∃ behind, skipString (fuel + 1) ⟨piece ++ rest, place⟩ = skipString fuel ⟨rest, behind⟩ := by
  cases h with
  | @plain c hquote hslash hcontrol =>
    refine ⟨place.after c, ?_⟩
    rw [List.singleton_append, JsonInput.skipString]
    simp only [if_neg hquote, if_neg hslash, if_neg (Nat.not_lt.2 hcontrol), skip]
  | short h =>
    simp only [shortEscapes, List.mem_cons, Prod.mk.injEq, List.not_mem_nil, or_false] at h
    rcases h with ⟨rfl, -⟩ | ⟨rfl, -⟩ | ⟨rfl, -⟩ | ⟨rfl, -⟩ | ⟨rfl, -⟩ | ⟨rfl, -⟩ | ⟨rfl, -⟩ |
      ⟨rfl, -⟩ <;> exact ⟨_, rfl⟩
  | @code digits n h =>
    obtain ⟨behind, hhex⟩ := h.hexEscape rest ((place.after '\\').after 'u')
    have hescape : JsonInput.skipString (fuel + 1) ⟨'\\' :: 'u' :: (digits ++ rest), place⟩ =
        (hexEscape ⟨digits ++ rest, (place.after '\\').after 'u'⟩).bind fun read =>
          JsonInput.skipString fuel read.2 := rfl
    refine ⟨behind, ?_⟩
    rw [List.cons_append, List.cons_append, hescape, hhex]
    rfl

theorem StringPiece.length_pos {piece : List Char} (h : StringPiece piece) : 0 < piece.length := by
  cases h <;> exact Nat.succ_pos _

theorem skipString_flatten {pieces : List (List Char)} (h : ∀ piece ∈ pieces, StringPiece piece)
    {fuel : Nat} (hfuel : pieces.flatten.length < fuel) (rest : List Char) (place : Place) :
    ∃ behind, skipString fuel ⟨pieces.flatten ++ '"' :: rest, place⟩ = .ok ⟨rest, behind⟩ := by
  induction pieces generalizing fuel place with
  | nil =>
    obtain ⟨fuel, rfl⟩ := Nat.exists_eq_succ_of_ne_zero (Nat.ne_zero_of_lt hfuel)
    exact ⟨_, rfl⟩
  | cons piece pieces ih =>
    obtain ⟨hpiece, hlater⟩ := List.forall_mem_cons.1 h
    obtain ⟨fuel, rfl⟩ := Nat.exists_eq_succ_of_ne_zero (Nat.ne_zero_of_lt hfuel)
    have hpos := hpiece.length_pos
    have hfuel' : pieces.flatten.length < fuel := by
      rw [List.flatten_cons, List.length_append] at hfuel
      omega
    obtain ⟨next, hfirst⟩ := hpiece.skipString fuel (pieces.flatten ++ '"' :: rest) place
    obtain ⟨behind, hmore⟩ := ih hlater hfuel' next
    exact ⟨behind, by rw [List.flatten_cons, List.append_assoc, hfirst, hmore]⟩

/-- The quote in front of a string has been seen when the rest is passed over. -/
theorem QuotedText.skipString {text : List Char} (h : QuotedText text) (rest : List Char)
    (place : Place) :
    ∃ behind, skipString ((text ++ rest).length + 1) (skip ⟨text ++ rest, place⟩) =
      .ok ⟨rest, behind⟩ := by
  obtain ⟨pieces, hpieces, rfl⟩ := h
  have htext : '"' :: (pieces.flatten ++ ['"']) ++ rest = '"' :: (pieces.flatten ++ '"' :: rest) := by
    simp
  have hfuel : pieces.flatten.length < ('"' :: (pieces.flatten ++ '"' :: rest)).length + 1 := by
    simp only [List.length_cons, List.length_append]
    omega
  rw [htext, skip]
  exact skipString_flatten hpieces hfuel rest (place.after '"')

/-! ### Values -/

theorem skipBlanksFrom_idem (place : Place) (text : List Char) :
    (skipBlanksFrom place text).skipBlanks = skipBlanksFrom place text := by
  induction text generalizing place with
  | nil => rfl
  | cons c cs ih =>
    rw [skipBlanksFrom]
    split_ifs with hc
    · exact ih (place.after c)
    · exact skipBlanks_cons (Bool.not_eq_true _ ▸ hc) cs place

theorem skipBlanks_idem (i : JsonInput) : i.skipBlanks.skipBlanks = i.skipBlanks :=
  skipBlanksFrom_idem i.place i.rest

theorem skipItems_skipBlanks (fuel : Nat) (i : JsonInput) :
    skipItems (fuel + 2) i.skipBlanks = skipItems (fuel + 2) i := by
  simp only [skipItems, skipValue, skipBlanks_idem]

theorem skipMembers_skipBlanks (fuel : Nat) (i : JsonInput) :
    skipMembers (fuel + 1) i.skipBlanks = skipMembers (fuel + 1) i := by
  simp only [skipMembers, skipBlanks_idem]

section
variable {place next : Place} {body rest : List Char} {d : Char}

theorem skipValue_openList (h : skipBlanks ⟨body, place.after '['⟩ = ⟨d :: rest, next⟩) (fuel : Nat) :
    skipValue (fuel + 1) ⟨'[' :: body, place⟩ =
      if d = ']' then .ok ⟨rest, next.after d⟩ else skipItems fuel ⟨d :: rest, next⟩ := by
  simp [skipValue, skipBlanks_cons (c := '[') rfl, skip, h]

theorem skipValue_openObject (h : skipBlanks ⟨body, place.after '\x7b'⟩ = ⟨d :: rest, next⟩)
    (fuel : Nat) :
    skipValue (fuel + 1) ⟨'\x7b' :: body, place⟩ =
      if d = '\x7d' then .ok ⟨rest, next.after d⟩ else skipMembers fuel ⟨d :: rest, next⟩ := by
  simp [skipValue, skipBlanks_cons (c := '\x7b') rfl, skip, h]

end

theorem WellFormed.starts {text : List Char} (h : WellFormed .value text) : StartsItem text := by
  cases h with
  | word h => rcases h with rfl | rfl | rfl <;> exact ⟨_, _, rfl, by decide, by decide⟩
  | number h =>
    obtain ⟨c, cs, rfl, hc⟩ := h.starts
    refine ⟨c, cs, rfl, not_isBlank_of_isDigit hc, ?_⟩
    rintro rfl
    exact absurd hc (by decide)
  | negative _ => exact ⟨'-', _, rfl, by decide, by decide⟩
  | string h =>
    obtain ⟨pieces, -, rfl⟩ := h
    exact ⟨'"', _, rfl, by decide, by decide⟩
  | emptyList _ => exact ⟨'[', _, rfl, by decide, by decide⟩
  | list _ => exact ⟨'[', _, rfl, by decide, by decide⟩
  | emptyObject _ => exact ⟨'\x7b', _, rfl, by decide, by decide⟩
  | object _ => exact ⟨'\x7b', _, rfl, by decide, by decide⟩

theorem QuotedText.starts {text : List Char} (h : QuotedText text) : StartsKey text := by
  obtain ⟨pieces, -, rfl⟩ := h
  exact ⟨_, rfl⟩

theorem WellFormed.startsItem {text : List Char} (h : WellFormed .items text) :
    ∃ before inner, text = before ++ inner ∧ Blank before ∧ StartsItem inner := by
  cases h with
  | lastItem hbefore h _ => exact ⟨_, _, rfl, hbefore, h.starts.append _⟩
  | item hbefore h _ _ => exact ⟨_, _, rfl, hbefore, h.starts.append _⟩

theorem WellFormed.startsKey {text : List Char} (h : WellFormed .members text) :
    ∃ before inner, text = before ++ inner ∧ Blank before ∧ StartsKey inner := by
  cases h with
  | lastMember hbefore hkey _ _ _ _ => exact ⟨_, _, rfl, hbefore, hkey.starts.append _⟩
  | member hbefore hkey _ _ _ _ _ => exact ⟨_, _, rfl, hbefore, hkey.starts.append _⟩

namespace Part

def skip : Part → Nat → JsonInput → Except JsonFault JsonInput
  | value => skipValue
  | items => skipItems
  | members => skipMembers

/-- What ends a part. A value ends by itself. -/
def close : Part → List Char
  | value => []
  | items => [']']
  | members => ['\x7d']

/-- The fuel for the closing bracket. -/
def spare : Part → Nat
  | value => 0
  | items | members => 1

end Part

theorem UnsignedText.skipValue {text : List Char} (h : UnsignedText text) (fuel : Nat)
    {rest : List Char} (hrest : EndsNumber rest) (place : Place) :
    ∃ behind, skipValue (fuel + 1) ⟨text ++ rest, place⟩ = .ok ⟨rest, behind⟩ := by
  obtain ⟨behind, hskip⟩ := h.skipNumber hrest place
  obtain ⟨c, cs, rfl, hc⟩ := h.starts
  have hother : ∀ d : Char, d.isDigit = false → c ≠ d := by
    rintro d hd rfl
    exact absurd hc (by simp [hd])
  refine ⟨behind, ?_⟩
  rw [← hskip]
  simp only [JsonInput.skipValue, List.cons_append, skipBlanks_cons (not_isBlank_of_isDigit hc),
    if_neg (hother 'n' rfl), if_neg (hother 't' rfl), if_neg (hother 'f' rfl),
    if_neg (hother '-' rfl), hc, if_true]

theorem QuotedText.skipValue {text : List Char} (h : QuotedText text) (fuel : Nat)
    (rest : List Char) (place : Place) :
    ∃ behind, skipValue (fuel + 1) ⟨text ++ rest, place⟩ = .ok ⟨rest, behind⟩ := by
  obtain ⟨behind, hskip⟩ := h.skipString rest place
  obtain ⟨body, rfl⟩ := h.starts
  refine ⟨behind, ?_⟩
  rw [← hskip]
  simp [JsonInput.skipValue, skipBlanks_cons (c := '"') rfl]

section
variable {before key colon text behind rest : List Char} {c : Char} {fuel : Nat}

theorem WellFormed.skipValue_gap (h : WellFormed .value text) (hbefore : Blank before)
    (hskip : ∀ place, ∃ next, skipValue fuel ⟨text ++ rest, place⟩ = .ok ⟨rest, next⟩)
    (place : Place) :
    ∃ next, skipValue fuel ⟨before ++ (text ++ rest), place⟩ = .ok ⟨rest, next⟩ := by
  obtain ⟨d, ds, rfl, hd, -⟩ := h.starts
  obtain ⟨start, hblanks⟩ := skipBlanks_append hbefore hd (ds ++ rest) place
  obtain ⟨next, hvalue⟩ := hskip start
  refine ⟨next, ?_⟩
  rw [← hvalue]
  cases fuel with
  | zero => exact nomatch hvalue
  | succ fuel => simp only [skipValue, List.cons_append, hblanks, skipBlanks_cons hd]

theorem skipItems_of_skipValue
    (hvalue : ∀ place, ∃ next, skipValue fuel ⟨text, place⟩ = .ok ⟨behind ++ c :: rest, next⟩)
    (hbehind : Blank behind) (hc : isBlank c = false) (place : Place) :
    ∃ last, skipItems (fuel + 1) ⟨text, place⟩ =
      if c = ',' then skipItems fuel ⟨rest, last.after c⟩
      else if c = ']' then .ok ⟨rest, last.after c⟩
      else failPeek ⟨c :: rest, last⟩ .expectedListEnd := by
  obtain ⟨next, hskip⟩ := hvalue place
  obtain ⟨last, hblanks⟩ := skipBlanks_append hbehind hc rest next
  exact ⟨last, by simp only [skipItems, hskip, hblanks, bind, Except.bind, skip]⟩

theorem skipMembers_of_skipValue (hbefore : Blank before) (hkey : QuotedText key)
    (hcolon : Blank colon)
    (hvalue : ∀ place, ∃ next, skipValue fuel ⟨text, place⟩ = .ok ⟨behind ++ c :: rest, next⟩)
    (hbehind : Blank behind) (hc : isBlank c = false) (place : Place) :
    ∃ last, skipMembers (fuel + 1) ⟨before ++ (key ++ (colon ++ ':' :: text)), place⟩ =
      if c = ',' then skipMembers fuel ⟨rest, last.after c⟩
      else if c = '\x7d' then .ok ⟨rest, last.after c⟩
      else failPeek ⟨c :: rest, last⟩ .expectedObjectEnd := by
  obtain ⟨body, rfl⟩ := hkey.starts
  obtain ⟨first, hquote⟩ :=
    skipBlanks_append hbefore (c := '"') rfl (body ++ (colon ++ ':' :: text)) place
  obtain ⟨named, hname⟩ := hkey.skipString (colon ++ ':' :: text) first
  obtain ⟨start, hsep⟩ := colon_gap hcolon text named
  obtain ⟨next, hskip⟩ := hvalue start
  obtain ⟨last, hblanks⟩ := skipBlanks_append hbehind hc rest next
  rw [List.cons_append, skip] at hname
  exact ⟨last, by simp only [skipMembers, List.cons_append, hquote, hname, hsep, hskip, hblanks, bind,
    Except.bind, skip, ne_eq, not_true, if_false]⟩

/-- Items that are passed over make a list that is passed over. -/
theorem WellFormed.skipValue_list (h : WellFormed .items text)
    (hskip : ∀ place, ∃ next, skipItems (fuel + 2) ⟨text ++ ']' :: rest, place⟩ = .ok ⟨rest, next⟩)
    (place : Place) :
    ∃ next, skipValue (fuel + 3) ⟨'[' :: (text ++ ']' :: rest), place⟩ = .ok ⟨rest, next⟩ := by
  obtain ⟨next, hitems⟩ := hskip (place.after '[')
  obtain ⟨before, inner, rfl, hbefore, d, ds, rfl, hd, hclose⟩ := h.startsItem
  obtain ⟨start, hblanks⟩ := skipBlanks_append hbefore hd (ds ++ ']' :: rest) (place.after '[')
  refine ⟨next, ?_⟩
  rw [List.append_assoc, List.cons_append] at hitems ⊢
  rw [skipValue_openList hblanks, if_neg hclose, ← hblanks, skipItems_skipBlanks, hitems]

theorem WellFormed.skipValue_object (h : WellFormed .members text)
    (hskip : ∀ place, ∃ next,
      skipMembers (fuel + 1) ⟨text ++ '\x7d' :: rest, place⟩ = .ok ⟨rest, next⟩)
    (place : Place) :
    ∃ next, skipValue (fuel + 2) ⟨'\x7b' :: (text ++ '\x7d' :: rest), place⟩ = .ok ⟨rest, next⟩ := by
  obtain ⟨next, hmembers⟩ := hskip (place.after '\x7b')
  obtain ⟨before, inner, rfl, hbefore, body, rfl⟩ := h.startsKey
  obtain ⟨start, hblanks⟩ :=
    skipBlanks_append hbefore (c := '"') rfl (body ++ '\x7d' :: rest) (place.after '\x7b')
  refine ⟨next, ?_⟩
  rw [List.append_assoc, List.cons_append] at hmembers ⊢
  rw [skipValue_openObject hblanks, if_neg (by decide), ← hblanks, skipMembers_skipBlanks, hmembers]

end

theorem WellFormed.length_pos {part : Part} {text : List Char} (h : WellFormed part text) :
    0 < text.length := by
  cases part with
  | value => exact h.starts.length_pos
  | items =>
    obtain ⟨before, inner, rfl, -, hinner⟩ := h.startsItem
    exact List.length_append ▸ Nat.add_pos_right _ hinner.length_pos
  | members =>
    obtain ⟨before, inner, rfl, -, hinner⟩ := h.startsKey
    exact List.length_append ▸ Nat.add_pos_right _ hinner.length_pos

/-- A part is passed over up to its end, by induction on how it is built. -/
theorem WellFormed.skip {part : Part} {text : List Char} (h : WellFormed part text) {fuel : Nat}
    (hfuel : text.length + part.spare ≤ fuel + 1) {rest : List Char} (hrest : EndsNumber rest)
    (place : Place) :
    ∃ behind, part.skip (fuel + 1) ⟨text ++ (part.close ++ rest), place⟩ = .ok ⟨rest, behind⟩ := by
  have hends : ∀ {c : Char}, c = ',' ∨ c = ']' ∨ c = '\x7d' → ∀ {behind : List Char}, Blank behind →
      ∀ rest, EndsNumber (behind ++ c :: rest) := by
    rintro c (rfl | rfl | rfl) behind hbehind <;> exact endsNumber_gap hbehind (by decide)
  induction h generalizing fuel rest place with
  | word h => rcases h with rfl | rfl | rfl <;> exact ⟨_, rfl⟩
  | number h => exact h.skipValue fuel hrest place
  | negative h =>
    obtain ⟨behind, hskip⟩ := h.skipNumber hrest (place.after '-')
    refine ⟨behind, ?_⟩
    rw [← hskip]
    rfl
  | string h => exact h.skipValue fuel rest place
  | @emptyList gap hgap =>
    obtain ⟨next, hblanks⟩ := skipBlanks_append hgap (c := ']') rfl rest (place.after '[')
    refine ⟨next.after ']', ?_⟩
    rw [List.cons_append, List.append_assoc]
    exact skipValue_openList hblanks fuel
  | @list text h ih =>
    have hpos := h.length_pos
    simp only [List.length_cons, List.length_append, List.length_nil, Part.spare] at hfuel
    obtain ⟨fuel, rfl⟩ := Nat.exists_eq_add_of_le' (show 2 ≤ fuel by omega)
    have hskip : ∀ place, ∃ next,
        skipItems (fuel + 2) ⟨text ++ ']' :: rest, place⟩ = .ok ⟨rest, next⟩ :=
      fun place => @ih (fuel + 1) (show text.length + 1 ≤ _ by omega) rest hrest place
    obtain ⟨behind, hlist⟩ := h.skipValue_list hskip place
    refine ⟨behind, ?_⟩
    rw [List.cons_append, List.append_assoc]
    exact hlist
  | @emptyObject gap hgap =>
    obtain ⟨next, hblanks⟩ := skipBlanks_append hgap (c := '\x7d') rfl rest (place.after '\x7b')
    refine ⟨next.after '\x7d', ?_⟩
    rw [List.cons_append, List.append_assoc]
    exact skipValue_openObject hblanks fuel
  | @object text h ih =>
    simp only [List.length_cons, List.length_append, List.length_nil, Part.spare] at hfuel
    obtain ⟨fuel, rfl⟩ := Nat.exists_eq_add_of_le' (show 1 ≤ fuel by omega)
    have hskip : ∀ place, ∃ next,
        skipMembers (fuel + 1) ⟨text ++ '\x7d' :: rest, place⟩ = .ok ⟨rest, next⟩ :=
      fun place => @ih fuel (show text.length + 1 ≤ _ by omega) rest hrest place
    obtain ⟨behind, hobject⟩ := h.skipValue_object hskip place
    refine ⟨behind, ?_⟩
    rw [List.cons_append, List.append_assoc]
    exact hobject
  | @lastItem before text behind hbefore h hbehind ih =>
    have hpos := h.length_pos
    simp only [List.length_append, Part.spare] at hfuel
    obtain ⟨fuel, rfl⟩ := Nat.exists_eq_add_of_le' (show 1 ≤ fuel by omega)
    have hvalue := h.skipValue_gap hbefore fun place =>
      @ih fuel (show text.length ≤ _ by omega) _ (hends (.inr (.inl rfl)) hbehind rest) place
    obtain ⟨last, hitems⟩ := skipItems_of_skipValue hvalue hbehind (by decide) place
    refine ⟨last.after ']', ?_⟩
    rw [List.append_assoc, List.append_assoc]
    exact hitems
  | @item before text behind later hbefore h hbehind hlater ih ihlater =>
    have hpos := hlater.length_pos
    simp only [List.length_append, List.length_cons, Part.spare] at hfuel
    obtain ⟨fuel, rfl⟩ := Nat.exists_eq_add_of_le' (show 1 ≤ fuel by omega)
    have hvalue := h.skipValue_gap hbefore fun place => @ih fuel
      (show text.length ≤ _ by omega) _ (hends (.inl rfl) hbehind (later ++ ']' :: rest)) place
    obtain ⟨last, hitems⟩ := skipItems_of_skipValue hvalue hbehind (by decide) place
    obtain ⟨next, hmore⟩ :=
      @ihlater fuel (show later.length + 1 ≤ _ by omega) rest hrest (last.after ',')
    refine ⟨next, ?_⟩
    rw [← hmore]
    simp only [List.append_assoc, List.cons_append]
    exact hitems
  | @lastMember before key colon gap text behind hbefore hkey hcolon hgap h hbehind ih =>
    have hpos := h.length_pos
    simp only [List.length_append, List.length_cons, Part.spare] at hfuel
    obtain ⟨fuel, rfl⟩ := Nat.exists_eq_add_of_le' (show 1 ≤ fuel by omega)
    have hvalue := h.skipValue_gap hgap fun place => @ih fuel
      (show text.length ≤ _ by omega) _ (hends (.inr (.inr rfl)) hbehind rest) place
    obtain ⟨last, hmembers⟩ :=
      skipMembers_of_skipValue hbefore hkey hcolon hvalue hbehind (by decide) place
    refine ⟨last.after '\x7d', ?_⟩
    simp only [List.append_assoc, List.cons_append]
    exact hmembers
  | @member before key colon gap text behind later hbefore hkey hcolon hgap h hbehind hlater ih
      ihlater =>
    have hpos := hlater.length_pos
    simp only [List.length_append, List.length_cons, Part.spare] at hfuel
    obtain ⟨fuel, rfl⟩ := Nat.exists_eq_add_of_le' (show 1 ≤ fuel by omega)
    have hvalue := h.skipValue_gap hgap fun place => @ih fuel
      (show text.length ≤ _ by omega) _ (hends (.inl rfl) hbehind (later ++ '\x7d' :: rest)) place
    obtain ⟨last, hmembers⟩ :=
      skipMembers_of_skipValue hbefore hkey hcolon hvalue hbehind (by decide) place
    obtain ⟨next, hmore⟩ :=
      @ihlater fuel (show later.length + 1 ≤ _ by omega) rest hrest (last.after ',')
    refine ⟨next, ?_⟩
    rw [← hmore]
    simp only [List.append_assoc, List.cons_append]
    exact hmembers

/-- A value with blanks in front of it is passed over with the fuel that its text gives. -/
theorem WellFormed.skipValue_enough {gap text : List Char} (h : WellFormed .value text)
    (hgap : Blank gap) {rest : List Char} (hrest : EndsNumber rest) (place : Place) :
    ∃ behind, skipValue (enough ⟨gap ++ (text ++ rest), place⟩) ⟨gap ++ (text ++ rest), place⟩ =
      .ok ⟨rest, behind⟩ := by
  have hfuel : text.length + Part.spare .value ≤ 2 * (gap ++ (text ++ rest)).length + 1 + 1 := by
    simp only [List.length_append, Part.spare]
    omega
  exact h.skipValue_gap hgap (fun place => h.skip hfuel hrest place) place

end JsonInput
end LiveMarkup
