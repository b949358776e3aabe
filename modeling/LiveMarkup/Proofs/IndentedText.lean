import LiveMarkup.Proofs.TokenStream

/-! # Reading back indented text

A value that fits a text is read back from its indented text, and so is a stream of tokens that fit the
wire.
-/
namespace LiveMarkup
open JsonInput

namespace Json

/-- Values that a text can carry unchanged: at most `depth` lists and objects inside one another, whole
numbers of 64 bits, and members in the order of their keys. -/
inductive FitsText : Nat → Json → Prop
  | null {depth : Nat} : FitsText depth .null
  | bool {depth : Nat} (b : Bool) : FitsText depth (.bool b)
  | int {depth : Nat} {v : Int} (hlow : -2 ^ 63 ≤ v) (hhigh : v < 2 ^ 64) :
      FitsText depth (.num (.int v))
  | str {depth : Nat} (s : String) : FitsText depth (.str s)
  | arr {depth : Nat} {items : List Json} (h : ∀ item ∈ items, FitsText depth item) :
      FitsText (depth + 1) (.arr items)
  | obj {depth : Nat} {members : List (String × Json)} (hsorted : SortedByKey members)
      (h : ∀ m ∈ members, FitsText depth m.2) : FitsText (depth + 1) (.obj members)

/-- Nothing stands between the brackets of an empty list, and a new line before the last bracket of any
other. -/
def lastGap {α : Type} (level : Nat) (xs : List α) : List Char :=
  if xs.isEmpty then [] else newline level

theorem blank_lastGap {α : Type} (level : Nat) (xs : List α) : Blank (lastGap level xs) := by
  unfold lastGap
  split_ifs
  · exact blank_nil
  · exact blank_newline level

theorem pretty_arr (level : Nat) (vs : List Json) :
    pretty level (.arr vs) =
      '[' :: (listed (newline (level + 1)) (vs.map (pretty (level + 1))) ++
        lastGap level vs ++ [']']) := by
  cases vs with
  | nil => rfl
  | cons v vs => rw [pretty, prettyItems_eq]; rfl

theorem pretty_obj (level : Nat) (ms : List (String × Json)) :
    pretty level (.obj ms) =
      '\x7b' :: (listed (newline (level + 1))
        (ms.map fun m => memberText [' '] m.1 (pretty (level + 1) m.2)) ++
          lastGap level ms ++ ['\x7d']) := by
  cases ms with
  | nil => rfl
  | cons m ms => rw [pretty, prettyMembers_eq]; rfl

theorem FitsText.spells_pretty {depth : Nat} {v : Json} (h : FitsText depth v) (level : Nat) :
    Spells depth (pretty level v) v := by
  induction h generalizing level with
  | null => exact spells_null
  | bool b =>
    cases b with
    | true => exact spells_true
    | false => exact spells_false
  | int hlow hhigh => exact spells_intText hlow hhigh
  | str s => exact spells_stringText s
  | @arr depth items _ ih =>
    have hitems : List.Forall₂ (Spells depth) (items.map (pretty (level + 1))) items :=
      List.forall₂_map_left_iff.2 (List.forall₂_same.2 fun v hv => ih v hv (level + 1))
    rw [pretty_arr]
    exact spells_list (listing_listed (blank_newline _) (blank_lastGap level items) hitems)
  | @obj depth members hsorted _ ih =>
    have hmembers : List.Forall₂ (SpellsMember depth)
        (members.map fun m => memberText [' '] m.1 (pretty (level + 1) m.2)) members :=
      List.forall₂_map_left_iff.2 (List.forall₂_same.2 fun m hm =>
        pair_memberText blank_space m.1 (ih m hm (level + 1)))
    -- inserting members in the order of their keys gives them back
    have hall : members.foldl (fun found m => insertMember m.1 m.2 found) [] = members :=
      @foldl_insertMember _ [] members hsorted
    have hobject := spells_object
      (listing_listed (blank_newline (level + 1)) (blank_lastGap level members) hmembers)
    rw [hall] at hobject
    rw [pretty_obj]
    exact hobject

theorem FitsText.ofText?_prettyText {v : Json} (h : FitsText 127 v) :
    ofText? v.prettyText = .ok v := by
  have htext : JsonInput.ofText v.prettyText = ⟨pretty 0 v, {}⟩ :=
    congrArg (JsonInput.mk · {}) String.toList_ofList
  have hfuel : (pretty 0 v).length ≤ 2 * (pretty 0 v).length + 2 := by omega
  obtain ⟨behind, hread⟩ := (h.spells_pretty 0).reads hfuel endsNumber_nil {}
  rw [List.append_nil] at hread
  have htop : topValue ⟨pretty 0 v, {}⟩ = .ok (v, ⟨[], behind⟩) := hread
  have hend : atEnd ⟨[], behind⟩ = .ok () := rfl
  simp only [ofText?, htext, htop, bind, Except.bind, hend]

end Json

namespace Token

theorem pretty_toJson (t : Token) (level : Nat) :
    Json.pretty level t.toJson = '\x7b' :: (listed (Json.newline (level + 1))
      (Field.all.map fun f => memberText [' '] f.name (f.valueText t)) ++
        Json.newline level ++ ['\x7d']) := by
  have hnat : ∀ n : Nat, Json.pretty (level + 1) (.ofNat n) = Decimal.natText n :=
    Json.intText_natCast
  rw [toJson, Json.pretty_obj]
  simp [Json.pretty, hnat, Field.all, Field.valueText, Field.name, Json.lastGap]

theorem FitsWire.spells_pretty {t : Token} (ht : t.FitsWire) (level : Nat) :
    Spells (Json.pretty level t.toJson) t := by
  rw [pretty_toJson]
  exact ht.spells_members (Json.blank_newline _) Json.blank_space (Json.blank_newline _)

theorem decode_prettyText {ts : List Token} (hts : ∀ t ∈ ts, t.FitsWire) :
    decode (streamToJson ts).prettyText = .ok ts := by
  have htexts : List.Forall₂ Spells ((ts.map toJson).map (Json.pretty 1)) ts := by
    rw [List.map_map, List.forall₂_map_left_iff, List.forall₂_same]
    exact fun t ht => (hts t ht).spells_pretty 1
  have hstream := decode_listing blank_nil
    (listing_listed (Json.blank_newline 1) (Json.blank_lastGap 0 (ts.map toJson)) htexts) blank_nil
  rw [List.nil_append] at hstream
  rw [Json.prettyText, streamToJson, Json.pretty_arr]
  exact hstream

end Token
end LiveMarkup
