import LiveMarkup.Proofs.JsonSyntax
import LiveMarkup.Token.Wire

/-! # The shapes of a token on the wire

A token is written as an object or as a list, and says as many of its fields as it likes. In an object
the members come in any order, with any others among them; a list holds the first fields in order.
Strings may be spelled in any way and blanks may stand wherever JSON allows them. All of this decodes to
the same token, in which a field that is not said has its default.
-/
namespace LiveMarkup

theorem TokenKind.tag_ofTag (tag : String) : (ofTag tag).tag = tag := by
  unfold ofTag
  split <;> rfl

namespace JsonInput

theorem SpellsString.expectString {text : List Char} {s : String} (h : SpellsString text s)
    (expected : String) (rest : List Char) (place : Place) :
    ∃ behind, expectString ⟨text ++ rest, place⟩ expected = .ok (s, ⟨rest, behind⟩) := by
  obtain ⟨behind, hread⟩ := h.string rest place
  obtain ⟨body, rfl⟩ := h.starts
  exact ⟨behind, hread⟩

theorem expectNat_natText {n : Nat} (hn : n ≤ greatestInt) (expected : String) {rest : List Char}
    (h : EndsNumber rest) (place : Place) :
    ∃ behind, expectNat ⟨Decimal.natText n ++ rest, place⟩ expected = .ok (n, ⟨rest, behind⟩) := by
  obtain ⟨behind, hnumber⟩ := number_natText hn false h place
  obtain ⟨c, cs, htext, hc, -, -⟩ := digits_natText n h
  have hminus : c ≠ '-' := by
    rintro rfl
    exact absurd hc (by decide)
  have hint : integer false n = .int n := rfl
  refine ⟨behind, ?_⟩
  rw [htext, hint] at hnumber
  rw [htext]
  unfold expectNat
  simp only [skipBlanks_cons (not_isBlank_of_isDigit hc), hminus, hc, if_false, if_true, hnumber,
    bind, Except.bind, Int.natCast_nonneg, Int.toNat_natCast]

end JsonInput

namespace Token
open JsonInput

theorem Field.ofName?_name (f : Field) : ofName? f.name = some f := by
  cases f <;> decide

/-- Whichever fields of a token are said. -/
structure Said where
  tag : Option String := none
  text : Option String := none
  endLine : Option Nat := none
  startColumn : Option Nat := none

namespace Said

/-- The token that is meant: what is not said is empty or zero. -/
def token (s : Said) : Token where
  kind := .ofTag (s.tag.getD "")
  text := s.text.getD ""
  endLine := s.endLine.getD 0
  startColumn := s.startColumn.getD 0

def Says (s : Said) : Field → Prop
  | .kind => s.tag ≠ none
  | .text => s.text ≠ none
  | .endLine => s.endLine ≠ none
  | .startColumn => s.startColumn ≠ none

/-- The ways to write the value of a field that is said. Numbers have 64 bits. -/
def SpellsValue (s : Said) (text : List Char) : Field → Prop
  | .kind => ∃ tag, s.tag = some tag ∧ SpellsString text tag
  | .text => ∃ value, s.text = some value ∧ SpellsString text value
  | .endLine => ∃ n, s.endLine = some n ∧ n < 2 ^ 64 ∧ text = Decimal.natText n
  | .startColumn => ∃ n, s.startColumn = some n ∧ n < 2 ^ 64 ∧ text = Decimal.natText n

/-- A member of an object: one of the fields, or one of any other name with any value at all. -/
inductive SpellsMember (s : Said) : List Char → Option Field → Prop
  | field {text : List Char} {f : Field}
      (h : Pair (SpellsString · f.name) (s.SpellsValue · f) text) : SpellsMember s text (some f)
  | foreign {text : List Char} {name : String} (hname : ∀ f : Field, f.name ≠ name)
      (h : Pair (SpellsString · name) (WellFormed .value) text) : SpellsMember s text none

/-- The shapes of a token: an object in which each of the fields that are said comes once, or a list
that begins with the fields that are said. -/
inductive Shape (s : Said) : List Char → Prop
  | object {text : List Char} {ms : List (Option Field)} (h : Listing s.SpellsMember true text ms)
      (honce : ms.reduceOption.Nodup) (hall : ∀ f, s.Says f → some f ∈ ms) :
      Shape s ('\x7b' :: (text ++ ['\x7d']))
  | list {text : List Char} {k : Nat} (h : Listing s.SpellsValue true text (Field.all.take k))
      (hall : ∀ f, s.Says f → f ∈ Field.all.take k) : Shape s ('[' :: (text ++ [']']))

/-- A token that takes one of its fields from what is said. -/
def put (s : Said) (t : Token) : Field → Token
  | .kind => { t with kind := s.token.kind }
  | .text => { t with text := s.token.text }
  | .endLine => { t with endLine := s.token.endLine }
  | .startColumn => { t with startColumn := s.token.startColumn }

/-! ### The fields -/

variable {s : Said}

theorem SpellsValue.starts {text : List Char} {f : Field} (h : s.SpellsValue text f) :
    StartsItem text := by
  have hstring : ∀ {text : List Char} {value : String}, SpellsString text value → StartsItem text := by
    intro text value h
    obtain ⟨body, rfl⟩ := h.starts
    exact ⟨'"', body, rfl, by decide, by decide⟩
  cases f with
  | kind =>
    obtain ⟨tag, -, h⟩ := h
    exact hstring h
  | text =>
    obtain ⟨value, -, h⟩ := h
    exact hstring h
  | endLine =>
    obtain ⟨n, -, -, rfl⟩ := h
    exact startsItem_natText n
  | startColumn =>
    obtain ⟨n, -, -, rfl⟩ := h
    exact startsItem_natText n

theorem SpellsValue.readField {text : List Char} {f : Field} (h : s.SpellsValue text f) (t : Token)
    {rest : List Char} (hrest : EndsNumber rest) (place : Place) :
    ∃ behind, readField t f ⟨text ++ rest, place⟩ = .ok (s.put t f, ⟨rest, behind⟩) := by
  cases f with
  | kind =>
    obtain ⟨tag, htag, h⟩ := h
    obtain ⟨behind, hread⟩ := h.expectString "a string" rest place
    have hput : s.put t .kind = { t with kind := .ofTag tag } := by simp [put, token, htag]
    exact ⟨behind, hput ▸ bind_of_ok hread _⟩
  | text =>
    obtain ⟨value, hvalue, h⟩ := h
    obtain ⟨behind, hread⟩ := h.expectString "a string" rest place
    have hput : s.put t .text = { t with text := value } := by simp [put, token, hvalue]
    exact ⟨behind, hput ▸ bind_of_ok hread _⟩
  | endLine =>
    obtain ⟨n, hn, hlt, rfl⟩ := h
    obtain ⟨behind, hread⟩ := expectNat_natText (Nat.le_of_lt_succ hlt) "usize" hrest place
    have hput : s.put t .endLine = { t with endLine := n } := by simp [put, token, hn]
    exact ⟨behind, hput ▸ bind_of_ok hread _⟩
  | startColumn =>
    obtain ⟨n, hn, hlt, rfl⟩ := h
    obtain ⟨behind, hread⟩ := expectNat_natText (Nat.le_of_lt_succ hlt) "usize" hrest place
    have hput : s.put t .startColumn = { t with startColumn := n } := by simp [put, token, hn]
    exact ⟨behind, hput ▸ bind_of_ok hread _⟩

/-- The reader of a field skips the blanks in front of its value. -/
theorem SpellsValue.readField_gap {gap text : List Char} {f : Field} (h : s.SpellsValue text f)
    (hgap : Blank gap) (t : Token) {rest : List Char} (hrest : EndsNumber rest) (place : Place) :
    ∃ behind, Token.readField t f ⟨gap ++ (text ++ rest), place⟩ =
      .ok (s.put t f, ⟨rest, behind⟩) := by
  have hstarts := h.starts
  obtain ⟨c, cs, rfl, hc, -⟩ := hstarts
  obtain ⟨start, hskip⟩ := skipBlanks_append hgap hc (cs ++ rest) place
  obtain ⟨behind, hread⟩ := h.readField t hrest start
  refine ⟨behind, ?_⟩
  rw [← hread]
  cases f <;>
    simp only [Token.readField, expectString, expectNat, List.cons_append, hskip, skipBlanks_cons hc]

/-- Whether a token has a field as it is meant. -/
def Agrees (s : Said) (t : Token) : Field → Prop
  | .kind => t.kind = s.token.kind
  | .text => t.text = s.token.text
  | .endLine => t.endLine = s.token.endLine
  | .startColumn => t.startColumn = s.token.startColumn

theorem agrees_put {t : Token} {f g : Field} (h : f = g ∨ s.Agrees t g) : s.Agrees (s.put t f) g := by
  rcases h with rfl | h
  · cases f <;> rfl
  · cases f <;> cases g <;> first | rfl | exact h

theorem agrees_foldl_put {t : Token} {fs : List Field} {g : Field} (h : g ∈ fs ∨ s.Agrees t g) :
    s.Agrees (fs.foldl s.put t) g := by
  induction fs generalizing t with
  | nil => exact h.resolve_left List.not_mem_nil
  | cons f fs ih =>
    rw [List.mem_cons, or_assoc] at h
    rcases h with rfl | h | h
    · exact ih (.inr (agrees_put (.inl rfl)))
    · exact ih (.inl h)
    · exact ih (.inr (agrees_put (.inr h)))

theorem agrees_default {g : Field} (h : ¬s.Says g) : s.Agrees {} g := by
  cases g with
  | kind =>
    have hnone : s.tag = none := not_not.1 h
    rw [Agrees, token, hnone]
    rfl
  | text =>
    have hnone : s.text = none := not_not.1 h
    rw [Agrees, token, hnone]
    rfl
  | endLine =>
    have hnone : s.endLine = none := not_not.1 h
    rw [Agrees, token, hnone]
    rfl
  | startColumn =>
    have hnone : s.startColumn = none := not_not.1 h
    rw [Agrees, token, hnone]
    rfl

/-- The fields that are said are all that matters. -/
theorem foldl_put {fs : List Field} (hall : ∀ f, s.Says f → f ∈ fs) : fs.foldl s.put {} = s.token := by
  have hagrees : ∀ f, s.Agrees (fs.foldl s.put {}) f := by
    intro f
    by_cases hf : s.Says f
    · exact agrees_foldl_put (.inl (hall f hf))
    · exact agrees_foldl_put (.inr (agrees_default hf))
  exact Token.ext (hagrees .kind) (hagrees .text) (hagrees .endLine) (hagrees .startColumn)

/-! ### Objects and lists -/

theorem SpellsMember.starts {text : List Char} {m : Option Field} (h : s.SpellsMember text m) :
    StartsKey text := by
  cases h with
  | field h => exact h.starts
  | foreign _ h => exact h.starts

/-- The members are read up to the closing brace, by induction on them. -/
theorem readMembers_listing {ms : List (Option Field)} {first : Bool} {text : List Char}
    (h : Listing s.SpellsMember first text ms) {seen : List Field} (honce : ms.reduceOption.Nodup)
    (hseen : ∀ f ∈ ms.reduceOption, f ∉ seen) {fuel : Nat} (hfuel : ms.length < fuel) (t : Token)
    (rest : List Char) (place : Place) :
    ∃ behind, readMembers fuel seen first t ⟨text ++ '\x7d' :: rest, place⟩ =
      .ok (ms.reduceOption.foldl s.put t, ⟨rest, behind⟩) := by
  obtain ⟨fuel, rfl⟩ := Nat.exists_eq_succ_of_ne_zero (Nat.ne_zero_of_lt hfuel)
  induction ms generalizing first text seen fuel t place with
  | nil =>
    obtain ⟨start, hclose⟩ := h.nextKey_nil rest place
    refine ⟨start.after '\x7d', ?_⟩
    rw [readMembers, hclose]
    rfl
  | cons m ms ih =>
    obtain ⟨inner, later, hm, hlater, -, hkey⟩ := h.nextKey SpellsMember.starts
    have hfuel' : ms.length < fuel := Nat.lt_of_succ_lt_succ hfuel
    obtain ⟨fuel, rfl⟩ := Nat.exists_eq_succ_of_ne_zero (Nat.ne_zero_of_lt hfuel')
    have hends := hlater.endsNumber (c := '\x7d') (by decide) rest
    obtain ⟨start, hkey⟩ := hkey ('\x7d' :: rest) place
    cases hm with
    | @field f hm =>
      rw [List.reduceOption_cons_of_some] at honce hseen ⊢
      obtain ⟨hnew, honce⟩ := List.nodup_cons.1 honce
      obtain ⟨hf, hseen⟩ := List.forall_mem_cons.1 hseen
      obtain @⟨name, colon, gap, value, hname, hcolon, hgap, hvalue⟩ := hm
      obtain ⟨i, next, hstring, hsep⟩ :=
        hname.string_colon hcolon (gap ++ (value ++ (later ++ '\x7d' :: rest))) start
      obtain ⟨last, hread⟩ := hvalue.readField_gap hgap t hends next
      -- a field that comes once is not among those seen when its turn comes
      have hseen' : ∀ g ∈ ms.reduceOption, g ∉ f :: seen := by
        intro g hg hmem
        rcases List.mem_cons.1 hmem with rfl | hmem
        · exact hnew hg
        · exact hseen g hg hmem
      obtain ⟨behind, hmore⟩ := ih hlater honce hseen' (s.put t f) last fuel hfuel'
      refine ⟨behind, ?_⟩
      simp only [List.append_assoc, List.cons_append] at hkey
      rw [readMembers, List.foldl_cons]
      simp only [hkey, bind, Except.bind, if_true, hstring, Field.ofName?_name, hf, if_false, hsep,
        hread, hmore]
    | @foreign name hother hm =>
      rw [List.reduceOption_cons_of_none] at honce hseen ⊢
      obtain @⟨key, colon, gap, value, hname, hcolon, hgap, hvalue⟩ := hm
      obtain ⟨i, next, hstring, hsep⟩ :=
        hname.string_colon hcolon (gap ++ (value ++ (later ++ '\x7d' :: rest))) start
      obtain ⟨last, hskip⟩ := hvalue.skipValue_enough hgap hends next
      have hnone : Field.ofName? name = none :=
        List.find?_eq_none.2 fun f _ => by simpa using hother f
      obtain ⟨behind, hmore⟩ := ih hlater honce hseen t last fuel hfuel'
      refine ⟨behind, ?_⟩
      simp only [List.append_assoc, List.cons_append] at hkey
      rw [readMembers]
      simp only [hkey, bind, Except.bind, if_true, hstring, hnone, hsep, hskip, hmore]

/-- The values are read into the fields in order, by induction on them; the fields that are left over
stay as they are. -/
theorem readFields_listing {fs : List Field} {first : Bool} {text : List Char}
    (h : Listing s.SpellsValue first text fs) (others : List Field) (t : Token) (rest : List Char)
    (place : Place) :
    ∃ behind, readFields t (fs ++ others) first ⟨text ++ ']' :: rest, place⟩ =
      .ok (fs.foldl s.put t, ⟨rest, behind⟩) := by
  induction fs generalizing first text t place with
  | nil =>
    cases others with
    | nil =>
      obtain ⟨behind, hclose⟩ := h.closeList rest place
      exact ⟨behind, bind_of_ok hclose _⟩
    | cons f others =>
      obtain ⟨start, hnone⟩ := h.nextItem_nil rest place
      refine ⟨start.after ']', ?_⟩
      rw [List.nil_append, readFields, hnone]
      rfl
  | cons f fs ih =>
    obtain ⟨inner, later, hvalue, hlater, -, hitem⟩ := h.nextItem SpellsValue.starts
    obtain ⟨start, hitem⟩ := hitem (']' :: rest) place
    obtain ⟨next, hread⟩ := hvalue.readField t (hlater.endsNumber (c := ']') (by decide) rest) start
    obtain ⟨behind, hmore⟩ := ih hlater (s.put t f) next
    refine ⟨behind, ?_⟩
    rw [List.cons_append, readFields]
    simp only [hitem, bind, Except.bind, if_true, hread, hmore, List.foldl_cons]

end Said

/-! ### Streams -/

/-- A text that is read as a token where a list or object may still be opened. -/
structure Spells (text : List Char) (t : Token) : Prop where
  starts : StartsItem text
  reads : ∀ {depth : Nat}, 1 < depth → ∀ rest place, ∃ behind,
    read depth ⟨text ++ rest, place⟩ = .ok (t, ⟨rest, behind⟩)

theorem Said.Shape.spells {s : Said} {text : List Char} (h : s.Shape text) : Spells text s.token := by
  cases h with
  | @object body ms h honce hall =>
    refine ⟨⟨'\x7b', _, rfl, by decide, by decide⟩, fun {depth} hdepth rest place => ?_⟩
    have htext : '\x7b' :: (body ++ ['\x7d']) ++ rest = '\x7b' :: (body ++ '\x7d' :: rest) := by simp
    have hlength := h.length_le fun hm => hm.starts.length_pos
    have hfuel : ms.length < ('\x7b' :: (body ++ '\x7d' :: rest)).length + 1 := by
      simp only [List.length_cons, List.length_append]
      omega
    obtain ⟨behind, hmembers⟩ :=
      readMembers_listing h honce (fun _ _ => List.not_mem_nil) hfuel {} rest (place.after '\x7b')
    have hopen : openBracket ⟨'\x7b' :: (body ++ '\x7d' :: rest), place⟩ depth =
        .ok ⟨body ++ '\x7d' :: rest, place.after '\x7b'⟩ := if_neg (by omega)
    have hput : ms.reduceOption.foldl s.put {} = s.token :=
      foldl_put fun f hf => List.reduceOption_mem_iff.2 (hall f hf)
    refine ⟨behind, ?_⟩
    rw [htext, read]
    simp only [skipBlanks_cons (c := '\x7b') rfl, if_neg (show '\x7b' ≠ '[' by decide), if_true, hopen,
      bind, Except.bind]
    rw [hmembers, hput]
  | @list body k h hall =>
    refine ⟨⟨'[', _, rfl, by decide, by decide⟩, fun {depth} hdepth rest place => ?_⟩
    have htext : '[' :: (body ++ [']']) ++ rest = '[' :: (body ++ ']' :: rest) := by simp
    obtain ⟨behind, hfields⟩ :=
      readFields_listing h (Field.all.drop k) {} rest (place.after '[')
    have hopen : openBracket ⟨'[' :: (body ++ ']' :: rest), place⟩ depth =
        .ok ⟨body ++ ']' :: rest, place.after '['⟩ := if_neg (by omega)
    rw [List.take_append_drop, foldl_put hall] at hfields
    refine ⟨behind, ?_⟩
    rw [htext, read]
    simp only [skipBlanks_cons (c := '[') rfl, if_true, hopen, bind, Except.bind, hfields]

/-- The tokens are read up to the closing bracket, by induction on them. -/
theorem readList_listing {ts : List Token} {first : Bool} {text : List Char}
    (h : Listing Spells first text ts) {fuel depth : Nat} (hfuel : ts.length < fuel)
    (hdepth : 1 < depth) (before : List Token) (rest : List Char) (place : Place) :
    ∃ behind, readList fuel depth first before ⟨text ++ ']' :: rest, place⟩ =
      .ok (before.reverse ++ ts, ⟨rest, behind⟩) := by
  obtain ⟨fuel, rfl⟩ := Nat.exists_eq_succ_of_ne_zero (Nat.ne_zero_of_lt hfuel)
  induction ts generalizing first text fuel before place with
  | nil =>
    obtain ⟨start, hclose⟩ := h.nextItem_nil rest place
    refine ⟨start.after ']', ?_⟩
    rw [readList, hclose, List.append_nil]
    rfl
  | cons t ts ih =>
    obtain ⟨inner, later, ht, hlater, -, hitem⟩ := h.nextItem Spells.starts
    have hfuel' : ts.length < fuel := Nat.lt_of_succ_lt_succ hfuel
    obtain ⟨fuel, rfl⟩ := Nat.exists_eq_succ_of_ne_zero (Nat.ne_zero_of_lt hfuel')
    obtain ⟨start, hitem⟩ := hitem (']' :: rest) place
    obtain ⟨next, hread⟩ := ht.reads hdepth (later ++ ']' :: rest) start
    obtain ⟨behind, hmore⟩ := ih hlater (t :: before) next fuel hfuel'
    refine ⟨behind, ?_⟩
    rw [readList]
    simp only [hitem, bind, Except.bind, if_true, hread, hmore, List.reverse_cons, List.append_assoc,
      List.singleton_append]

/-- A list of texts that are read as tokens is a stream of these tokens. -/
theorem decode_listing {ts : List Token} {front text back : List Char} (hfront : Blank front)
    (h : Listing Spells true text ts) (hback : Blank back) :
    decode (String.ofList (front ++ '[' :: (text ++ ']' :: back))) = .ok ts := by
  have htext : JsonInput.ofText (String.ofList (front ++ '[' :: (text ++ ']' :: back))) =
      ⟨front ++ '[' :: (text ++ ']' :: back), {}⟩ :=
    congrArg (JsonInput.mk · {}) String.toList_ofList
  have hlength := h.length_le fun ht => ht.starts.length_pos
  have hfuel : ts.length < ('[' :: (text ++ ']' :: back)).length + 1 := by
    simp only [List.length_cons, List.length_append]
    omega
  obtain ⟨start, hskip⟩ := skipBlanks_append hfront (c := '[') rfl (text ++ ']' :: back) {}
  obtain ⟨behind, hread⟩ :=
    readList_listing h hfuel (show 1 < depthLimit - 1 by decide) [] back (start.after '[')
  have hopen : openBracket ⟨'[' :: (text ++ ']' :: back), start⟩ depthLimit =
      .ok ⟨text ++ ']' :: back, start.after '['⟩ := rfl
  simp only [decode, htext, hskip, if_true, hopen, hread, bind, Except.bind, atEnd_blank hback,
    List.reverse_nil, List.nil_append]

/-- The texts of a stream: a list of tokens in any of their shapes, with blanks around it. -/
inductive SpellsStream : String → List Said → Prop
  | mk {front text back : List Char} {said : List Said} (hfront : Blank front)
      (h : Listing (fun text s => s.Shape text) true text said) (hback : Blank back) :
      SpellsStream (String.ofList (front ++ '[' :: (text ++ ']' :: back))) said

/-- Every text of a stream decodes to the tokens that are meant, one by one, so two texts that say the
same decode alike. -/
theorem decode_of_spellsStream {said : List Said} {text : String} (h : SpellsStream text said) :
    decode text = .ok (said.map Said.token) ∧
      ∀ other, SpellsStream other said → decode other = decode text := by
  have hdecode : ∀ {text : String}, SpellsStream text said →
      decode text = .ok (said.map Said.token) := by
    rintro _ ⟨hfront, h, hback⟩
    exact decode_listing hfront (h.map Said.token Said.Shape.spells) hback
  exact ⟨hdecode h, fun other hother => (hdecode hother).trans (hdecode h).symm⟩

/-- A stream of an object with a member of another name, whose number is beyond every double, and of a
list that is cut short and spells its tag with a code. -/
theorem decode_of_spellsStream_foreign :
    let text := "[\x7b\"x\" : [1E+999],\"line\":7\x7d, [\"\\u00e9\"]]"
    let said : List Said := [{ endLine := some 7 }, { tag := some "é" }]
    SpellsStream text said ∧ decode text = .ok [{ endLine := 7 }, { kind := .other "é" }] := by
  intro text said
  have hnumber : UnsignedText ['1', 'E', '+', '9', '9', '9'] :=
    @UnsignedText.mk ['1'] [] ['E', '+', '9', '9', '9'] ⟨by decide, by simp⟩ (by decide) .absent
      (@ExponentText.present 'E' ['+'] ['9', '9', '9'] (.inr rfl) (.inr (.inl rfl))
        ⟨by decide, by simp⟩)
  have hvalue : WellFormed .value ['[', '1', 'E', '+', '9', '9', '9', ']'] :=
    .list (@WellFormed.lastItem [] _ [] blank_nil (.number hnumber) blank_nil)
  have hforeign : Said.SpellsMember { endLine := some 7 }
      ['"', 'x', '"', ' ', ':', ' ', '[', '1', 'E', '+', '9', '9', '9', ']'] none :=
    .foreign (fun f => by cases f <;> decide) (@Pair.mk _ _ ['"', 'x', '"'] [' '] [' '] _
      (spellsString_stringText "x") Json.blank_space Json.blank_space hvalue)
  have hline : Said.SpellsMember { endLine := some 7 } ['"', 'l', 'i', 'n', 'e', '"', ':', '7']
      (some .endLine) :=
    .field (@pair_memberText ['7'] [] (Said.SpellsValue { endLine := some 7 } · .endLine) blank_nil
      "line" ⟨7, rfl, by decide, rfl⟩)
  have hobject := Said.Shape.object
    (.first blank_nil hforeign (.further blank_nil blank_nil hline (.close blank_nil)))
    (by decide) fun f hf => by cases f <;> first | decide | exact absurd rfl hf
  have htag : SpellsString ['"', '\\', 'u', '0', '0', 'e', '9', '"'] "é" := by
    refine ⟨[['\\', 'u', '0', '0', 'e', '9']], .cons (.code ?_) .nil, rfl⟩
    exact @HexCode.mk '0' '0' 'e' '9' 0 0 14 9 ⟨by decide, .inl rfl⟩ ⟨by decide, .inl rfl⟩
      ⟨by decide, .inl rfl⟩ ⟨by decide, .inl rfl⟩
  have hlist : Said.Shape { tag := some "é" } ['[', '"', '\\', 'u', '0', '0', 'e', '9', '"', ']'] :=
    @Said.Shape.list _ _ 1
      (@Listing.first _ _ [] _ [] _ _ blank_nil ⟨"é", rfl, htag⟩ (.close blank_nil))
      fun f hf => by cases f <;> first | decide | exact absurd rfl hf
  have hstream : SpellsStream text said :=
    .mk blank_nil (.first blank_nil hobject (.further blank_nil Json.blank_space hlist (.close blank_nil)))
      blank_nil
  exact ⟨hstream, (decode_of_spellsStream hstream).1⟩

end Token
end LiveMarkup
