import LiveMarkup.Proofs.StoredEntries
import LiveMarkup.Proofs.TokenShapes

/-! # Tokens over the wire

A token is written as an object with all of its fields, so a stream of tokens that fit the wire is read
back as it was. Every token that is read fits the wire, whatever shape it was read from, so reading,
writing and reading again gives what was read first.
-/
namespace LiveMarkup

theorem Json.intText_natCast (n : Nat) : intText n = Decimal.natText n := by
  rw [intText, if_neg (Int.not_lt.2 (Int.natCast_nonneg n)), Int.natAbs_natCast]

namespace Token
open JsonInput

/-- What a stream can carry unchanged: the kind its tag stands for, and coordinates of 64 bits. -/
structure FitsWire (t : Token) : Prop where
  canonical : t.kind = .ofTag t.kind.tag
  endLine_lt : t.endLine < 2 ^ 64
  startColumn_lt : t.startColumn < 2 ^ 64

/-- The value of a field as it is written. -/
def Field.valueText (t : Token) : Field → List Char
  | kind => Json.stringText t.kind.tag.toList
  | text => Json.stringText t.text.toList
  | endLine => Decimal.natText t.endLine
  | startColumn => Decimal.natText t.startColumn

/-- A written token says all of its fields. -/
def said (t : Token) : Said := ⟨some t.kind.tag, some t.text, some t.endLine, some t.startColumn⟩

variable {t : Token}

theorem FitsWire.token_said (ht : t.FitsWire) : t.said.token = t := by
  show (⟨.ofTag t.kind.tag, t.text, t.endLine, t.startColumn⟩ : Token) = t
  rw [← ht.canonical]

theorem FitsWire.spellsValue (ht : t.FitsWire) (f : Field) :
    t.said.SpellsValue (f.valueText t) f := by
  cases f with
  | kind => exact ⟨_, rfl, spellsString_stringText _⟩
  | text => exact ⟨_, rfl, spellsString_stringText _⟩
  | endLine => exact ⟨_, rfl, ht.endLine_lt, rfl⟩
  | startColumn => exact ⟨_, rfl, ht.startColumn_lt, rfl⟩

theorem FitsWire.spells_members (ht : t.FitsWire) {gap inner last : List Char} (hgap : Blank gap)
    (hinner : Blank inner) (hlast : Blank last) :
    Spells ('\x7b' :: (listed gap (Field.all.map fun f => memberText inner f.name (f.valueText t)) ++
      last ++ ['\x7d'])) t := by
  have htexts : List.Forall₂ t.said.SpellsMember
      (Field.all.map fun f => memberText inner f.name (f.valueText t)) (Field.all.map some) := by
    rw [List.forall₂_map_left_iff, List.forall₂_map_right_iff, List.forall₂_same]
    exact fun f _ => .field (pair_memberText hinner f.name (ht.spellsValue f))
  have hshape : t.said.Shape ('\x7b' :: (listed gap
      (Field.all.map fun f => memberText inner f.name (f.valueText t)) ++ last ++ ['\x7d'])) :=
    .object (listing_listed hgap hlast htexts) (by decide) fun f _ => by cases f <;> decide
  have hspells := hshape.spells
  rwa [ht.token_said] at hspells

theorem compact_toJson (t : Token) :
    Json.compact t.toJson = '\x7b' :: (listed []
      (Field.all.map fun f => memberText [] f.name (f.valueText t)) ++ [] ++ ['\x7d']) := by
  have hnat : ∀ n : Nat, Json.compact (.ofNat n) = Decimal.natText n := Json.intText_natCast
  simp [toJson, Json.compact, Json.compactMembers_eq, hnat, Field.all, Field.valueText, Field.name]

theorem FitsWire.spells_compact (ht : t.FitsWire) : Spells (Json.compact t.toJson) t := by
  rw [compact_toJson]
  exact ht.spells_members blank_nil blank_nil blank_nil

theorem decode_encode {ts : List Token} (hts : ∀ t ∈ ts, t.FitsWire) :
    decode (encode ts) = .ok ts := by
  have htexts : List.Forall₂ Spells ((ts.map toJson).map Json.compact) ts := by
    rw [List.map_map, List.forall₂_map_left_iff, List.forall₂_same]
    exact fun t ht => (hts t ht).spells_compact
  have hstream := decode_listing blank_nil (listing_listed blank_nil blank_nil htexts) blank_nil
  rw [List.append_nil, List.nil_append] at hstream
  rw [encode, Json.compactText, streamToJson, Json.compact, Json.compactItems_eq]
  exact hstream

/-! ### Every token that is read fits the wire -/

theorem fitsWire_default : ({} : Token).FitsWire := ⟨by decide, by decide, by decide⟩

theorem expectNat_lt {i behind : JsonInput} {expected : String} {n : Nat}
    (h : i.expectNat expected = .ok (n, behind)) : n < 2 ^ 64 := by
  unfold expectNat at h
  simp only at h
  split at h
  · exact nomatch h
  · split_ifs at h
    case neg => exact absurd h (unexpected_ne_ok _ _ _)
    -- with or without a sign, the number that is read is the one that is taken
    all_goals
      obtain ⟨⟨found, _⟩, hnumber, h⟩ := bind_eq_ok.1 h
      cases found with
      | float x => exact nomatch h
      | int v =>
        simp only at h
        split_ifs at h
        · have hn : v.toNat = n := (Prod.mk.inj (Except.ok.inj h)).1
          have hv : v ≤ greatestInt := number_le hnumber
          have hgreatest : greatestInt < 2 ^ 64 := by decide
          omega
        · exact nomatch h

theorem FitsWire.readField {u : Token} (hu : u.FitsWire) {f : Field} {i behind : JsonInput}
    (h : u.readField f i = .ok (t, behind)) : t.FitsWire := by
  cases f with
  | kind =>
    obtain ⟨⟨tag, _⟩, -, h⟩ := bind_eq_ok.1 h
    obtain ⟨rfl, -⟩ := Prod.mk.inj (Except.ok.inj h)
    exact { hu with canonical := congrArg TokenKind.ofTag (TokenKind.tag_ofTag tag).symm }
  | text =>
    obtain ⟨⟨text, _⟩, -, h⟩ := bind_eq_ok.1 h
    obtain ⟨rfl, -⟩ := Prod.mk.inj (Except.ok.inj h)
    exact { hu with }
  | endLine =>
    obtain ⟨⟨n, _⟩, hn, h⟩ := bind_eq_ok.1 h
    obtain ⟨rfl, -⟩ := Prod.mk.inj (Except.ok.inj h)
    exact { hu with endLine_lt := expectNat_lt hn }
  | startColumn =>
    obtain ⟨⟨n, _⟩, hn, h⟩ := bind_eq_ok.1 h
    obtain ⟨rfl, -⟩ := Prod.mk.inj (Except.ok.inj h)
    exact { hu with startColumn_lt := expectNat_lt hn }

theorem FitsWire.readFields {u : Token} (hu : u.FitsWire) {fs : List Field} {first : Bool}
    {i behind : JsonInput} (h : u.readFields fs first i = .ok (t, behind)) : t.FitsWire := by
  induction fs generalizing u first i with
  | nil =>
    obtain ⟨_, -, h⟩ := bind_eq_ok.1 h
    obtain ⟨rfl, -⟩ := Prod.mk.inj (Except.ok.inj h)
    exact hu
  | cons f fs ih =>
    obtain ⟨⟨more, _⟩, -, h⟩ := bind_eq_ok.1 h
    cases more with
    | false =>
      obtain ⟨_, -, h⟩ := bind_eq_ok.1 h
      obtain ⟨rfl, -⟩ := Prod.mk.inj (Except.ok.inj h)
      exact hu
    | true =>
      obtain ⟨⟨_, _⟩, hfield, h⟩ := bind_eq_ok.1 h
      exact ih (hu.readField hfield) h

theorem FitsWire.readMembers {u : Token} (hu : u.FitsWire) {fuel : Nat} {seen : List Field}
    {first : Bool} {i behind : JsonInput}
    (h : readMembers fuel seen first u i = .ok (t, behind)) : t.FitsWire := by
  induction fuel generalizing u seen first i with
  | zero => exact nomatch h
  | succ fuel ih =>
    obtain ⟨⟨more, _⟩, -, h⟩ := bind_eq_ok.1 h
    cases more with
    | false =>
      obtain ⟨rfl, -⟩ := Prod.mk.inj (Except.ok.inj h)
      exact hu
    | true =>
      obtain ⟨⟨key, _⟩, -, h⟩ := bind_eq_ok.1 h
      simp only at h
      split at h
      · split_ifs at h
        · exact nomatch h
        · obtain ⟨_, -, h⟩ := bind_eq_ok.1 h
          obtain ⟨⟨_, _⟩, hfield, h⟩ := bind_eq_ok.1 h
          exact ih (hu.readField hfield) h
      · obtain ⟨_, -, h⟩ := bind_eq_ok.1 h
        obtain ⟨_, -, h⟩ := bind_eq_ok.1 h
        exact ih hu h

theorem fitsWire_of_read {depth : Nat} {i behind : JsonInput}
    (h : read depth i = .ok (t, behind)) : t.FitsWire := by
  unfold read at h
  simp only at h
  split at h
  · exact nomatch h
  · split_ifs at h
    · obtain ⟨_, -, h⟩ := bind_eq_ok.1 h
      exact fitsWire_default.readFields h
    · obtain ⟨_, -, h⟩ := bind_eq_ok.1 h
      exact fitsWire_default.readMembers h
    · exact absurd h (unexpected_ne_ok _ _ _)

theorem fitsWire_of_readList {fuel depth : Nat} {first : Bool} {before ts : List Token}
    {i behind : JsonInput} (hbefore : ∀ t ∈ before, t.FitsWire)
    (h : readList fuel depth first before i = .ok (ts, behind)) : ∀ t ∈ ts, t.FitsWire := by
  induction fuel generalizing first before i with
  | zero => exact nomatch h
  | succ fuel ih =>
    obtain ⟨⟨more, _⟩, -, h⟩ := bind_eq_ok.1 h
    cases more with
    | false =>
      obtain ⟨rfl, -⟩ := Prod.mk.inj (Except.ok.inj h)
      exact fun t ht => hbefore t (List.mem_reverse.1 ht)
    | true =>
      obtain ⟨⟨_, _⟩, hread, h⟩ := bind_eq_ok.1 h
      exact ih (List.forall_mem_cons.2 ⟨fitsWire_of_read hread, hbefore⟩) h

theorem fitsWire_of_decode {text : String} {ts : List Token} (h : decode text = .ok ts) :
    ∀ t ∈ ts, t.FitsWire := by
  unfold decode at h
  simp only at h
  split at h
  · exact nomatch h
  · split_ifs at h
    · obtain ⟨_, -, h⟩ := bind_eq_ok.1 h
      obtain ⟨⟨_, _⟩, hlist, h⟩ := bind_eq_ok.1 h
      obtain ⟨_, -, h⟩ := bind_eq_ok.1 h
      obtain rfl := Except.ok.inj h
      exact fitsWire_of_readList (by simp) hlist
    · obtain ⟨_, hread, -⟩ := bind_eq_ok.1 h
      exact absurd hread (unexpected_ne_ok _ _ _)

/-- A stream that fits the wire is read back as it was. What is read from any text fits the wire, so it
is read back too, and a tag outside the vocabulary comes back as it is. -/
theorem stream_roundTrip :
    (∀ ts : List Token, (∀ t ∈ ts, t.FitsWire) → decode (encode ts) = .ok ts) ∧
      (∀ text ts, decode text = .ok ts → decode (encode ts) = .ok ts) ∧
      ∀ tag, (TokenKind.ofTag tag).tag = tag :=
  ⟨fun _ => decode_encode, fun _ _ h => decode_encode (fitsWire_of_decode h), TokenKind.tag_ofTag⟩

/-- A stream with an unknown tag, text that has to be escaped and the greatest coordinates, and a text
with a cut-off list and a foreign member. -/
theorem stream_roundTrip_greatest :
    let ts : List Token := [⟨.other "X\"", "\x00\\😀", 2 ^ 64 - 1, 2 ^ 64 - 1⟩, ⟨.text, "", 0, 0⟩]
    let text := "[[\"TEXT\",\"a\"], \x7b\"new\":1.5,\"start\":7\x7d]"
    let read : List Token := [⟨.text, "a", 0, 0⟩, ⟨.other "", "", 0, 7⟩]
    decode (encode ts) = .ok ts ∧ decode text = .ok read ∧ decode (encode read) = .ok read := by
  intro ts text read
  have hts : ∀ t ∈ ts, t.FitsWire := by
    simp only [ts, List.forall_mem_cons]
    exact ⟨⟨by decide, by decide, by decide⟩, ⟨by decide, by decide, by decide⟩, by simp⟩
  have htext : decode text = .ok read := by
    simp only [text, read]
    cbv
  exact ⟨stream_roundTrip.1 ts hts, htext, stream_roundTrip.2.1 text read htext⟩

end Token
end LiveMarkup
