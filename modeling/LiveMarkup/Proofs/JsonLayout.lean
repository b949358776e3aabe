import LiveMarkup.Proofs.JsonNumbers
import LiveMarkup.Proofs.JsonStrings

/-! # Reading back lists and objects

Between the marks of a list or an object any blanks may stand. The laws about reading are stated for
every layout of the items and members, so they serve the compact text and the indented text alike.
-/
namespace LiveMarkup
namespace JsonInput

/-! ### Blanks -/

def Blank (gap : List Char) : Prop := ∀ c ∈ gap, isBlank c = true

theorem blank_nil : Blank [] := fun _ h => nomatch h

/-- What stands at the beginning of an item. -/
def StartsItem (text : List Char) : Prop := ∃ c cs, text = c :: cs ∧ isBlank c = false ∧ c ≠ ']'

theorem StartsItem.length_pos {text : List Char} (h : StartsItem text) : 0 < text.length := by
  obtain ⟨c, cs, rfl, -, -⟩ := h
  exact Nat.succ_pos _

theorem StartsItem.append {text : List Char} (h : StartsItem text) (rest : List Char) :
    StartsItem (text ++ rest) := by
  obtain ⟨c, cs, rfl, hc, hclose⟩ := h
  exact ⟨c, cs ++ rest, rfl, hc, hclose⟩

/-- What stands at the beginning of a member. -/
def StartsKey (text : List Char) : Prop := ∃ body, text = '"' :: body

theorem StartsKey.length_pos {text : List Char} (h : StartsKey text) : 0 < text.length := by
  obtain ⟨body, rfl⟩ := h
  exact Nat.succ_pos _

theorem StartsKey.append {text : List Char} (h : StartsKey text) (rest : List Char) :
    StartsKey (text ++ rest) := by
  obtain ⟨body, rfl⟩ := h
  exact ⟨body ++ rest, rfl⟩

theorem skipBlanks_cons {c : Char} (h : isBlank c = false) (rest : List Char) (place : Place) :
    skipBlanks ⟨c :: rest, place⟩ = ⟨c :: rest, place⟩ := by
  rw [skipBlanks, skipBlanksFrom, h]
  rfl

theorem not_isBlank_of_isDigit {c : Char} (h : c.isDigit) : isBlank c = false := by
  unfold isBlank
  simp only [Bool.or_eq_false_iff, decide_eq_false_iff_not]
  refine ⟨⟨⟨?_, ?_⟩, ?_⟩, ?_⟩ <;> (rintro rfl; exact absurd h (by decide))

theorem startsItem_natText (n : Nat) : StartsItem (Decimal.natText n) := by
  obtain ⟨c, cs, htext⟩ := List.exists_cons_of_ne_nil (natText_ne_nil n)
  have hc : c.isDigit := isDigit_of_mem_natText (htext ▸ List.mem_cons_self)
  refine ⟨c, cs, htext, not_isBlank_of_isDigit hc, ?_⟩
  rintro rfl
  exact absurd hc (by decide)

theorem endsNumber_nil : EndsNumber [] := fun _ h => nomatch h

section
variable {gap text : List Char} {c : Char}

theorem skipBlanks_append (hgap : Blank gap) (hc : isBlank c = false) (rest : List Char)
    (place : Place) : ∃ behind, skipBlanks ⟨gap ++ c :: rest, place⟩ = ⟨c :: rest, behind⟩ := by
  induction gap generalizing place with
  | nil => exact ⟨place, skipBlanks_cons hc rest place⟩
  | cons b gap ih =>
    obtain ⟨hb, hgap⟩ := List.forall_mem_cons.1 hgap
    obtain ⟨behind, h⟩ := ih hgap (place.after b)
    refine ⟨behind, ?_⟩
    rw [List.cons_append, skipBlanks, skipBlanksFrom, if_pos hb]
    exact h

theorem endsNumber_gap (hgap : Blank gap) (hc : ¬c.isDigit ∧ c ≠ '.' ∧ c ≠ 'e' ∧ c ≠ 'E')
    (rest : List Char) : EndsNumber (gap ++ c :: rest) := by
  cases gap with
  | nil => exact endsNumber_cons hc rest
  | cons b gap =>
    have hb : isBlank b = true := hgap b List.mem_cons_self
    simp only [isBlank, Bool.or_eq_true, decide_eq_true_eq] at hb
    rcases hb with ((rfl | rfl) | rfl) | rfl <;> exact endsNumber_cons (by decide) _

theorem nextItem_first (hgap : Blank gap) (h : StartsItem text) (rest : List Char) (place : Place) :
    ∃ behind, nextItem ⟨gap ++ (text ++ rest), place⟩ true = .ok (true, ⟨text ++ rest, behind⟩) := by
  obtain ⟨c, cs, rfl, hc, hclose⟩ := h
  obtain ⟨behind, hskip⟩ := skipBlanks_append hgap hc (cs ++ rest) place
  refine ⟨behind, ?_⟩
  simp only [nextItem, List.cons_append, hskip, if_neg hclose, if_true]

theorem nextItem_comma {behind : List Char} (hbehind : Blank behind) (hgap : Blank gap)
    (h : StartsItem text) (rest : List Char) (place : Place) :
    ∃ next, nextItem ⟨behind ++ ',' :: (gap ++ (text ++ rest)), place⟩ false =
      .ok (true, ⟨text ++ rest, next⟩) := by
  obtain ⟨c, cs, rfl, hc, hclose⟩ := h
  obtain ⟨comma, hcomma⟩ :=
    skipBlanks_append hbehind (c := ',') rfl (gap ++ (c :: cs ++ rest)) place
  obtain ⟨next, hskip⟩ := skipBlanks_append hgap hc (cs ++ rest) (comma.after ',')
  refine ⟨next, ?_⟩
  rw [List.cons_append] at hcomma ⊢
  simp only [nextItem, hcomma, skip, hskip, if_neg hclose, if_true, if_neg (show ',' ≠ ']' by decide),
    Bool.false_eq_true, if_false]

theorem nextItem_close (hgap : Blank gap) (first : Bool) (rest : List Char) (place : Place) :
    ∃ behind, nextItem ⟨gap ++ ']' :: rest, place⟩ first = .ok (false, ⟨']' :: rest, behind⟩) := by
  obtain ⟨behind, h⟩ := skipBlanks_append hgap (c := ']') rfl rest place
  refine ⟨behind, ?_⟩
  simp only [nextItem, h, if_true]

theorem nextKey_first (hgap : Blank gap) (h : StartsKey text) (rest : List Char) (place : Place) :
    ∃ behind, nextKey ⟨gap ++ (text ++ rest), place⟩ true = .ok (true, ⟨text ++ rest, behind⟩) := by
  obtain ⟨body, rfl⟩ := h
  obtain ⟨behind, hskip⟩ := skipBlanks_append hgap (c := '"') rfl (body ++ rest) place
  refine ⟨behind, ?_⟩
  simp only [nextKey, List.cons_append, hskip, if_true, if_neg (show '"' ≠ '\x7d' by decide)]

theorem nextKey_comma {behind : List Char} (hbehind : Blank behind) (hgap : Blank gap)
    (h : StartsKey text) (rest : List Char) (place : Place) :
    ∃ next, nextKey ⟨behind ++ ',' :: (gap ++ (text ++ rest)), place⟩ false =
      .ok (true, ⟨text ++ rest, next⟩) := by
  obtain ⟨body, rfl⟩ := h
  obtain ⟨comma, hcomma⟩ :=
    skipBlanks_append hbehind (c := ',') rfl (gap ++ ('"' :: body ++ rest)) place
  obtain ⟨next, hskip⟩ := skipBlanks_append hgap (c := '"') rfl (body ++ rest) (comma.after ',')
  refine ⟨next, ?_⟩
  rw [List.cons_append] at hcomma ⊢
  simp only [nextKey, hcomma, skip, hskip, if_true, Bool.false_eq_true, if_false,
    if_neg (show ',' ≠ '\x7d' by decide)]

theorem nextKey_close (hgap : Blank gap) (first : Bool) (rest : List Char) (place : Place) :
    ∃ behind, nextKey ⟨gap ++ '\x7d' :: rest, place⟩ first =
      .ok (false, ⟨'\x7d' :: rest, behind⟩) := by
  obtain ⟨behind, h⟩ := skipBlanks_append hgap (c := '\x7d') rfl rest place
  refine ⟨behind, ?_⟩
  simp only [nextKey, h, if_true]

end

theorem colon_gap {gap : List Char} (hgap : Blank gap) (rest : List Char) (place : Place) :
    ∃ next, colon ⟨gap ++ ':' :: rest, place⟩ = .ok ⟨rest, next⟩ := by
  obtain ⟨next, hskip⟩ := skipBlanks_append hgap (c := ':') rfl rest place
  exact ⟨next.after ':', by simp only [colon, hskip, if_true, skip]⟩

theorem skipBlanks_blank {gap : List Char} (hgap : Blank gap) (place : Place) :
    ∃ behind, skipBlanks ⟨gap, place⟩ = ⟨[], behind⟩ := by
  induction gap generalizing place with
  | nil => exact ⟨place, rfl⟩
  | cons b gap ih =>
    obtain ⟨hb, hgap⟩ := List.forall_mem_cons.1 hgap
    obtain ⟨behind, h⟩ := ih hgap (place.after b)
    refine ⟨behind, ?_⟩
    rw [skipBlanks, skipBlanksFrom, if_pos hb]
    exact h

theorem atEnd_blank {gap : List Char} (hgap : Blank gap) (place : Place) :
    atEnd ⟨gap, place⟩ = .ok () := by
  obtain ⟨behind, h⟩ := skipBlanks_blank hgap place
  simp only [atEnd, h, if_true]

/-! ### Layouts -/

section Layouts
variable {α : Type} {R : List Char → α → Prop} {first : Bool} {text : List Char} {x : α} {xs : List α}

/-- What stands between brackets, or what is left of it behind an item: a text for each of the items,
with commas between them and blanks around them. -/
inductive Listing {α : Type} (R : List Char → α → Prop) : Bool → List Char → List α → Prop
  | close {first : Bool} {gap : List Char} (hgap : Blank gap) : Listing R first gap []
  | first {before text later : List Char} {x : α} {xs : List α} (hbefore : Blank before)
      (h : R text x) (hlater : Listing R false later xs) :
      Listing R true (before ++ (text ++ later)) (x :: xs)
  | further {behind before text later : List Char} {x : α} {xs : List α} (hbehind : Blank behind)
      (hbefore : Blank before) (h : R text x) (hlater : Listing R false later xs) :
      Listing R false (behind ++ ',' :: (before ++ (text ++ later))) (x :: xs)

theorem Listing.endsNumber (h : Listing R false text xs) {c : Char}
    (hc : ¬c.isDigit ∧ c ≠ '.' ∧ c ≠ 'e' ∧ c ≠ 'E') (rest : List Char) :
    EndsNumber (text ++ c :: rest) := by
  cases h with
  | close hgap => exact endsNumber_gap hgap hc rest
  | further hbehind _ _ _ =>
    rw [List.append_assoc]
    exact endsNumber_gap hbehind (by decide) _

theorem Listing.length_le (h : Listing R first text xs)
    (hpos : ∀ {text : List Char} {x : α}, R text x → 0 < text.length) : xs.length ≤ text.length := by
  induction h with
  | close _ => exact Nat.zero_le _
  | first _ h _ ih =>
    have hx := hpos h
    simp only [List.length_append, List.length_cons]
    omega
  | further _ _ h _ ih =>
    simp only [List.length_append, List.length_cons]
    omega

theorem Listing.map {β : Type} {S : List Char → β → Prop} (f : α → β)
    (hf : ∀ {text : List Char} {x : α}, R text x → S text (f x)) (h : Listing R first text xs) :
    Listing S first text (xs.map f) := by
  induction h with
  | close hgap => exact .close hgap
  | first hbefore h _ ih => exact .first hbefore (hf h) ih
  | further hbehind hbefore h _ ih => exact .further hbehind hbefore (hf h) ih

theorem Listing.nextItem (h : Listing R first text (x :: xs))
    (hstarts : ∀ {text : List Char}, R text x → StartsItem text) :
    ∃ inner later, R inner x ∧ Listing R false later xs ∧ inner.length + later.length ≤ text.length ∧
      ∀ rest place, ∃ start,
        nextItem ⟨text ++ rest, place⟩ first = .ok (true, ⟨inner ++ (later ++ rest), start⟩) := by
  cases h with
  | @first before inner later _ _ hbefore h hlater =>
    refine ⟨inner, later, h, hlater, by simp, fun rest place => ?_⟩
    rw [List.append_assoc, List.append_assoc]
    exact nextItem_first hbefore (hstarts h) (later ++ rest) place
  | @further behind before inner later _ _ hbehind hbefore h hlater =>
    refine ⟨inner, later, h, hlater, by simp only [List.length_append, List.length_cons]; omega,
      fun rest place => ?_⟩
    rw [List.append_assoc, List.cons_append, List.append_assoc, List.append_assoc]
    exact nextItem_comma hbehind hbefore (hstarts h) (later ++ rest) place

theorem Listing.nextItem_nil (h : Listing R first text []) (rest : List Char) (place : Place) :
    ∃ start, JsonInput.nextItem ⟨text ++ ']' :: rest, place⟩ first =
      .ok (false, ⟨']' :: rest, start⟩) := by
  cases h with
  | close hgap => exact nextItem_close hgap first rest place

theorem Listing.closeList (h : Listing R first text []) (rest : List Char) (place : Place) :
    ∃ behind, JsonInput.closeList ⟨text ++ ']' :: rest, place⟩ = .ok ⟨rest, behind⟩ := by
  cases h with
  | close hgap =>
    obtain ⟨start, hskip⟩ := skipBlanks_append hgap (c := ']') rfl rest place
    exact ⟨start.after ']', by simp only [JsonInput.closeList, hskip, if_true, skip]⟩

theorem Listing.nextKey (h : Listing R first text (x :: xs))
    (hstarts : ∀ {text : List Char}, R text x → StartsKey text) :
    ∃ inner later, R inner x ∧ Listing R false later xs ∧ inner.length + later.length ≤ text.length ∧
      ∀ rest place, ∃ start,
        nextKey ⟨text ++ rest, place⟩ first = .ok (true, ⟨inner ++ (later ++ rest), start⟩) := by
  cases h with
  | @first before inner later _ _ hbefore h hlater =>
    refine ⟨inner, later, h, hlater, by simp, fun rest place => ?_⟩
    rw [List.append_assoc, List.append_assoc]
    exact nextKey_first hbefore (hstarts h) (later ++ rest) place
  | @further behind before inner later _ _ hbehind hbefore h hlater =>
    refine ⟨inner, later, h, hlater, by simp only [List.length_append, List.length_cons]; omega,
      fun rest place => ?_⟩
    rw [List.append_assoc, List.cons_append, List.append_assoc, List.append_assoc]
    exact nextKey_comma hbehind hbefore (hstarts h) (later ++ rest) place

theorem Listing.nextKey_nil (h : Listing R first text []) (rest : List Char) (place : Place) :
    ∃ start, JsonInput.nextKey ⟨text ++ '\x7d' :: rest, place⟩ first =
      .ok (false, ⟨'\x7d' :: rest, start⟩) := by
  cases h with
  | close hgap => exact nextKey_close hgap first rest place

/-- A key and a value around a colon, with blanks around it. -/
inductive Pair (key value : List Char → Prop) : List Char → Prop
  | mk {name colon gap text : List Char} (hkey : key name) (hcolon : Blank colon) (hgap : Blank gap)
      (hvalue : value text) : Pair key value (name ++ (colon ++ ':' :: (gap ++ text)))

theorem SpellsString.starts {text : List Char} {s : String} (h : SpellsString text s) :
    StartsKey text := by
  obtain ⟨pieces, -, rfl⟩ := h
  exact ⟨_, rfl⟩

theorem SpellsString.string_colon {key colon : List Char} {s : String} (h : SpellsString key s)
    (hcolon : Blank colon) (rest : List Char) (place : Place) :
    ∃ i next, (skip ⟨key ++ (colon ++ ':' :: rest), place⟩).string = .ok (s, i) ∧
      i.colon = .ok ⟨rest, next⟩ := by
  obtain ⟨named, hname⟩ := h.string (colon ++ ':' :: rest) place
  obtain ⟨next, hnext⟩ := colon_gap hcolon rest named
  exact ⟨_, next, hname, hnext⟩

theorem Pair.starts {value : List Char → Prop} {s : String}
    (h : Pair (SpellsString · s) value text) : StartsKey text := by
  obtain ⟨hkey, -, -, -⟩ := h
  exact hkey.starts.append _

/-- Texts behind a first one, each behind a comma and a gap. -/
def further (gap : List Char) (texts : List (List Char)) : List Char :=
  texts.flatMap fun text => ',' :: (gap ++ text)

/-- Texts as they stand between brackets, each behind a gap. -/
def listed (gap : List Char) : List (List Char) → List Char
  | [] => []
  | text :: texts => gap ++ (text ++ further gap texts)

/-- A key and the text of a value, with a gap behind the colon. -/
def memberText (gap : List Char) (key : String) (text : List Char) : List Char :=
  Json.stringText key.toList ++ ':' :: (gap ++ text)

section
variable {gap last : List Char} {texts : List (List Char)}

theorem listing_further (hgap : Blank gap) (hlast : Blank last) (h : List.Forall₂ R texts xs) :
    Listing R false (further gap texts ++ last) xs := by
  induction h with
  | nil => exact .close hlast
  | @cons text x texts xs h _ ih =>
    have htext : further gap (text :: texts) ++ last =
        [] ++ ',' :: (gap ++ (text ++ (further gap texts ++ last))) := by simp [further]
    rw [htext]
    exact .further blank_nil hgap h ih

theorem listing_listed (hgap : Blank gap) (hlast : Blank last) (h : List.Forall₂ R texts xs) :
    Listing R true (listed gap texts ++ last) xs := by
  cases h with
  | nil => exact .close hlast
  | cons h hlater =>
    rw [listed, List.append_assoc, List.append_assoc]
    exact .first hgap h (listing_further hgap hlast hlater)

theorem pair_memberText {value : List Char → Prop} (hgap : Blank gap) (key : String)
    (h : value text) : Pair (SpellsString · key) value (memberText gap key text) :=
  @Pair.mk _ _ _ [] gap text (spellsString_stringText key) blank_nil hgap h

end

end Layouts

/-! ### Scalars -/

/-- A text that is read as a value where `depth` lists and objects may be opened, with fuel for each of
its characters. -/
structure Spells (depth : Nat) (text : List Char) (v : Json) : Prop where
  starts : StartsItem text
  reads : ∀ {fuel : Nat}, text.length ≤ fuel → ∀ {rest : List Char}, EndsNumber rest →
    ∀ place, ∃ behind, value fuel (depth + 1) ⟨text ++ rest, place⟩ = .ok (v, ⟨rest, behind⟩)

section
variable {depth : Nat}

theorem Spells.reads_gap {text gap : List Char} {v : Json} (h : Spells depth text v)
    (hgap : Blank gap) {fuel : Nat} (hfuel : text.length ≤ fuel) {rest : List Char}
    (hrest : EndsNumber rest) (place : Place) :
    ∃ behind, value fuel (depth + 1) ⟨gap ++ (text ++ rest), place⟩ = .ok (v, ⟨rest, behind⟩) := by
  have hpos := h.starts.length_pos
  obtain ⟨c, cs, rfl, hc, -⟩ := h.starts
  obtain ⟨fuel, rfl⟩ := Nat.exists_eq_succ_of_ne_zero (Nat.ne_zero_of_lt (hpos.trans_le hfuel))
  obtain ⟨start, hskip⟩ := skipBlanks_append hgap hc (cs ++ rest) place
  obtain ⟨behind, hread⟩ := h.reads hfuel hrest start
  refine ⟨behind, ?_⟩
  -- the reader starts by skipping blanks, so it goes on as from the value itself
  rw [← hread]
  simp only [value, List.cons_append, hskip, skipBlanks_cons hc]

theorem spells_null : Spells depth ['n', 'u', 'l', 'l'] .null where
  starts := ⟨'n', _, rfl, by decide, by decide⟩
  reads {fuel} hfuel _ _ _ := by
    cases fuel with
    | zero => exact absurd hfuel (by decide)
    | succ fuel => exact ⟨_, rfl⟩

theorem spells_true : Spells depth ['t', 'r', 'u', 'e'] (.bool true) where
  starts := ⟨'t', _, rfl, by decide, by decide⟩
  reads {fuel} hfuel _ _ _ := by
    cases fuel with
    | zero => exact absurd hfuel (by decide)
    | succ fuel => exact ⟨_, rfl⟩

theorem spells_false : Spells depth ['f', 'a', 'l', 's', 'e'] (.bool false) where
  starts := ⟨'f', _, rfl, by decide, by decide⟩
  reads {fuel} hfuel _ _ _ := by
    cases fuel with
    | zero => exact absurd hfuel (by decide)
    | succ fuel => exact ⟨_, rfl⟩

theorem spells_stringText (s : String) : Spells depth (Json.stringText s.toList) (.str s) where
  starts := ⟨'"', _, rfl, by decide, by decide⟩
  reads {fuel} hfuel rest _ place := by
    cases fuel with
    | zero => exact absurd hfuel (by simp [Json.stringText])
    | succ fuel =>
      obtain ⟨behind, hs⟩ := (spellsString_stringText s).string rest place
      have hvalue : value (fuel + 1) (depth + 1) ⟨Json.stringText s.toList ++ rest, place⟩ =
          (skip ⟨Json.stringText s.toList ++ rest, place⟩).string.bind fun read =>
            .ok (.str read.1, read.2) := by
        rw [value]
        rfl
      exact ⟨behind, by rw [hvalue, hs]; rfl⟩

theorem value_natText {n : Nat} (hn : n ≤ greatestInt) (fuel depth : Nat) {rest : List Char}
    (h : EndsNumber rest) (place : Place) :
    ∃ behind, value (fuel + 1) depth ⟨Decimal.natText n ++ rest, place⟩ =
      .ok (.num (.int n), ⟨rest, behind⟩) := by
  obtain ⟨behind, hnumber⟩ := number_natText hn false h place
  obtain ⟨c, cs, htext, hc, -, -⟩ := digits_natText n h
  have hother : ∀ d : Char, d.isDigit = false → c ≠ d := by
    rintro d hd rfl
    exact absurd hc (by simp [hd])
  refine ⟨behind, ?_⟩
  rw [htext] at hnumber ⊢
  simp only [value, skipBlanks_cons (not_isBlank_of_isDigit hc), if_neg (hother 'n' rfl),
    if_neg (hother 't' rfl), if_neg (hother 'f' rfl), if_neg (hother '-' rfl), hc, if_true, hnumber,
    bind, Except.bind]
  rfl

theorem value_minus {n : Nat} (hn : n ≤ greatestInt) (fuel depth : Nat) {rest : List Char}
    (h : EndsNumber rest) (place : Place) :
    ∃ behind, value (fuel + 1) depth ⟨'-' :: (Decimal.natText n ++ rest), place⟩ =
      .ok (.num (integer true n), ⟨rest, behind⟩) := by
  obtain ⟨behind, hnumber⟩ := number_natText hn true h (place.after '-')
  refine ⟨behind, ?_⟩
  simp only [value, skipBlanks_cons (c := '-') rfl, skip, hnumber, bind, Except.bind, if_true,
    if_neg (show '-' ≠ 'n' by decide), if_neg (show '-' ≠ 't' by decide),
    if_neg (show '-' ≠ 'f' by decide)]

theorem integer_neg {v : Int} (hneg : v < 0) (hlow : -2 ^ 63 ≤ v) :
    integer true v.natAbs = .int v := by
  have hzero : ¬(v.natAbs = 0 || 0x8000000000000000 < v.natAbs) = true := by
    simp only [Bool.or_eq_true, decide_eq_true_eq]
    omega
  have hv : -(v.natAbs : Int) = v := by omega
  rw [integer, if_pos rfl, if_neg hzero, hv]

theorem spells_intText {v : Int} (hlow : -2 ^ 63 ≤ v) (hhigh : v < 2 ^ 64) :
    Spells depth (Json.intText v) (.num (.int v)) where
  starts := by
    rw [Json.intText]
    split_ifs
    · exact ⟨'-', _, rfl, by decide, by decide⟩
    · exact startsItem_natText v.natAbs
  reads {fuel} hfuel rest hrest place := by
    have hn : v.natAbs ≤ greatestInt := by
      have hmax : greatestInt = 2 ^ 64 - 1 := by decide
      omega
    cases fuel with
    | zero =>
      have htext := List.eq_nil_of_length_eq_zero (Nat.le_zero.1 hfuel)
      rw [Json.intText] at htext
      split_ifs at htext
      exact absurd htext (natText_ne_nil _)
    | succ fuel =>
      rw [Json.intText]
      split_ifs with hneg
      · rw [← integer_neg hneg hlow]
        exact value_minus hn fuel (depth + 1) hrest place
      · have hv : (v.natAbs : Int) = v := by omega
        obtain ⟨behind, hread⟩ := value_natText hn fuel (depth + 1) hrest place
        rw [hv] at hread
        exact ⟨behind, hread⟩

end

/-! ### Lists -/

section Lists
variable {depth : Nat} {text : List Char} {vs : List Json}

/-- The items are read up to the closing bracket, by induction on them. -/
theorem items_listing {first : Bool} (h : Listing (Spells depth) first text vs) {fuel : Nat}
    (hfuel : text.length < fuel) (before : List Json) (rest : List Char) (place : Place) :
    ∃ behind, items fuel (depth + 1) first before ⟨text ++ ']' :: rest, place⟩ =
      .ok (before.reverse ++ vs, ⟨rest, behind⟩) := by
  obtain ⟨fuel, rfl⟩ := Nat.exists_eq_succ_of_ne_zero (Nat.ne_zero_of_lt hfuel)
  induction vs generalizing first text fuel before place with
  | nil =>
    obtain ⟨start, hclose⟩ := h.nextItem_nil rest place
    refine ⟨start.after ']', ?_⟩
    rw [items, hclose, List.append_nil]
    rfl
  | cons v vs ih =>
    obtain ⟨inner, later, hv, hlater, hlength, hitem⟩ := h.nextItem Spells.starts
    have hpos := hv.starts.length_pos
    obtain ⟨fuel, rfl⟩ := Nat.exists_eq_add_of_le' (show 1 ≤ fuel by omega)
    obtain ⟨start, hitem⟩ := hitem (']' :: rest) place
    have hinner : inner.length ≤ fuel + 1 := by omega
    obtain ⟨next, hread⟩ := hv.reads hinner
      (hlater.endsNumber (c := ']') (by decide) rest) start
    obtain ⟨behind, hmore⟩ := ih hlater (v :: before) next fuel (by omega)
    refine ⟨behind, ?_⟩
    rw [items]
    simp only [hitem, bind, Except.bind, if_true, hread, hmore, List.reverse_cons, List.append_assoc,
      List.singleton_append]

theorem value_openList (fuel depth : Nat) (rest : List Char) (place : Place) :
    value (fuel + 1) (depth + 2) ⟨'[' :: rest, place⟩ =
      (items fuel (depth + 1) true [] ⟨rest, place.after '['⟩).bind fun read =>
        .ok (.arr read.1, read.2) := by
  have hopen : openBracket ⟨'[' :: rest, place⟩ (depth + 2) = .ok ⟨rest, place.after '['⟩ :=
    if_neg (by omega)
  simp only [value, skipBlanks_cons (c := '[') rfl, hopen, bind, Except.bind]
  rfl

theorem spells_list (h : Listing (Spells depth) true text vs) :
    Spells (depth + 1) ('[' :: (text ++ [']'])) (.arr vs) where
  starts := ⟨'[', _, rfl, by decide, by decide⟩
  reads {fuel} hfuel rest _ place := by
    simp only [List.length_cons, List.length_append, List.length_nil] at hfuel
    obtain ⟨fuel, rfl⟩ := Nat.exists_eq_succ_of_ne_zero (Nat.ne_zero_of_lt hfuel)
    have hfuel' : text.length < fuel := by omega
    obtain ⟨behind, hitems⟩ := items_listing h hfuel' [] rest (place.after '[')
    have htext : '[' :: (text ++ [']']) ++ rest = '[' :: (text ++ ']' :: rest) := by simp
    refine ⟨behind, ?_⟩
    rw [htext, value_openList, hitems]
    rfl

end Lists

/-! ### Objects -/

section Objects
variable {depth : Nat} {text : List Char} {ms : List (String × Json)}

/-- The text of a key and one that is read as its value. -/
def SpellsMember (depth : Nat) (text : List Char) (m : String × Json) : Prop :=
  Pair (SpellsString · m.1) (Spells depth · m.2) text

/-- The members are read up to the closing brace, by induction on them. -/
theorem members_listing {first : Bool} (h : Listing (SpellsMember depth) first text ms) {fuel : Nat}
    (hfuel : text.length < fuel) (before : List (String × Json)) (rest : List Char) (place : Place) :
    ∃ behind, members fuel (depth + 1) first before ⟨text ++ '\x7d' :: rest, place⟩ =
      .ok (ms.foldl (fun found m => insertMember m.1 m.2 found) before, ⟨rest, behind⟩) := by
  obtain ⟨fuel, rfl⟩ := Nat.exists_eq_succ_of_ne_zero (Nat.ne_zero_of_lt hfuel)
  induction ms generalizing first text fuel before place with
  | nil =>
    obtain ⟨start, hclose⟩ := h.nextKey_nil rest place
    refine ⟨start.after '\x7d', ?_⟩
    rw [members, hclose]
    rfl
  | cons m ms ih =>
    obtain ⟨inner, later, hm, hlater, hlength, hkey⟩ := h.nextKey Pair.starts
    obtain @⟨name, colon, gap, value, hname, hcolon, hgap, hvalue⟩ := hm
    simp only [List.length_append, List.length_cons] at hlength
    obtain ⟨fuel, rfl⟩ := Nat.exists_eq_add_of_le' (show 1 ≤ fuel by omega)
    obtain ⟨start, hkey⟩ := hkey ('\x7d' :: rest) place
    obtain ⟨i, next, hstring, hsep⟩ :=
      hname.string_colon hcolon (gap ++ (value ++ (later ++ '\x7d' :: rest))) start
    have hinner : value.length ≤ fuel + 1 := by omega
    obtain ⟨last, hread⟩ := hvalue.reads_gap hgap hinner
      (hlater.endsNumber (c := '\x7d') (by decide) rest) next
    obtain ⟨behind, hmore⟩ := ih hlater (insertMember m.1 m.2 before) last fuel (by omega)
    refine ⟨behind, ?_⟩
    simp only [List.append_assoc, List.cons_append] at hkey
    rw [members]
    simp only [hkey, bind, Except.bind, if_true, hstring, hsep, hread, hmore, List.foldl_cons]

theorem value_openObject (fuel depth : Nat) (rest : List Char) (place : Place) :
    value (fuel + 1) (depth + 2) ⟨'\x7b' :: rest, place⟩ =
      (members fuel (depth + 1) true [] ⟨rest, place.after '\x7b'⟩).bind fun read =>
        .ok (.obj read.1, read.2) := by
  have hopen : openBracket ⟨'\x7b' :: rest, place⟩ (depth + 2) =
      .ok ⟨rest, place.after '\x7b'⟩ := if_neg (by omega)
  simp only [value, skipBlanks_cons (c := '\x7b') rfl, hopen, bind, Except.bind]
  rfl

theorem spells_object (h : Listing (SpellsMember depth) true text ms) :
    Spells (depth + 1) ('\x7b' :: (text ++ ['\x7d']))
      (.obj (ms.foldl (fun found m => insertMember m.1 m.2 found) [])) where
  starts := ⟨'\x7b', _, rfl, by decide, by decide⟩
  reads {fuel} hfuel rest _ place := by
    simp only [List.length_cons, List.length_append, List.length_nil] at hfuel
    obtain ⟨fuel, rfl⟩ := Nat.exists_eq_succ_of_ne_zero (Nat.ne_zero_of_lt hfuel)
    have hfuel' : text.length < fuel := by omega
    obtain ⟨behind, hmembers⟩ := members_listing h hfuel' [] rest (place.after '\x7b')
    have htext : '\x7b' :: (text ++ ['\x7d']) ++ rest = '\x7b' :: (text ++ '\x7d' :: rest) := by simp
    refine ⟨behind, ?_⟩
    rw [htext, value_openObject, hmembers]
    rfl

end Objects

end JsonInput

/-! ### The two printed layouts -/

namespace Json
open JsonInput

theorem compactItems_eq (vs : List Json) : compactItems vs = listed [] (vs.map compact) := by
  cases vs with
  | nil => rfl
  | cons v vs =>
    induction vs generalizing v with
    | nil => simp [compactItems, listed, further]
    | cons w vs ih => simp [compactItems, ih w, listed, further]

theorem compactMembers_eq (ms : List (String × Json)) :
    compactMembers ms = listed [] (ms.map fun m => memberText [] m.1 (compact m.2)) := by
  cases ms with
  | nil => rfl
  | cons m ms =>
    induction ms generalizing m with
    | nil => simp [compactMembers, listed, further, memberText]
    | cons n ms ih => simp [compactMembers, ih n, listed, further, memberText]

theorem prettyItems_eq (level : Nat) (vs : List Json) :
    prettyItems level vs = listed (newline level) (vs.map (pretty level)) := by
  cases vs with
  | nil => rfl
  | cons v vs =>
    induction vs generalizing v with
    | nil => simp [prettyItems, listed, further]
    | cons w vs ih => simp [prettyItems, ih w, listed, further]

theorem prettyMembers_eq (level : Nat) (ms : List (String × Json)) :
    prettyMembers level ms =
      listed (newline level) (ms.map fun m => memberText [' '] m.1 (pretty level m.2)) := by
  cases ms with
  | nil => rfl
  | cons m ms =>
    induction ms generalizing m with
    | nil => simp [prettyMembers, listed, further, memberText]
    | cons n ms ih => simp [prettyMembers, ih n, listed, further, memberText]

theorem blank_newline (level : Nat) : Blank (newline level) := by
  intro c hc
  rcases List.mem_cons.1 hc with rfl | hc
  · decide
  · rw [List.eq_of_mem_replicate hc]
    decide

theorem blank_space : Blank [' '] := by
  intro c hc
  rw [List.mem_singleton.1 hc]
  decide

end Json
end LiveMarkup
