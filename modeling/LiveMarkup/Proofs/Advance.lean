import LiveMarkup.Position.Advance
import LiveMarkup.Proofs.Place
import LiveMarkup.Token

/-! # Moving a position over a text

A position can be moved over a text at once, from its last line feed on, or character by character: both
lead to the same position as long as it fits into two words. So a position is moved over two texts one
after the other as over both together, and every character moves it forward.
-/
namespace LiveMarkup

theorem lastLineFeed?_of_notMem {s : List Char} (h : '\n' ∉ s) : lastLineFeed? s = none := by
  induction s with
  | nil => rfl
  | cons c s ih =>
    have hc : c ≠ '\n' := (List.ne_of_not_mem_cons h).symm
    simp only [lastLineFeed?, ih (List.not_mem_of_not_mem_cons h), hc, if_false]

theorem lastLineFeed?_append (s : List Char) {tail : List Char} (h : '\n' ∉ tail) :
    lastLineFeed? (s ++ '\n' :: tail) = some (byteLength s) := by
  induction s with
  | nil => simp [lastLineFeed?, lastLineFeed?_of_notMem h]
  | cons c s ih => simp only [List.cons_append, lastLineFeed?, ih, byteLength_cons]

/-- A text with a line feed, cut at the last one. -/
theorem exists_last_line {s : List Char} (h : '\n' ∈ s) :
    ∃ front tail, s = front ++ '\n' :: tail ∧ '\n' ∉ tail := by
  obtain ⟨tail, front, hs, htail⟩ := List.eq_append_cons_of_mem (List.mem_reverse.2 h)
  refine ⟨front.reverse, tail.reverse, ?_, by simpa using htail⟩
  simpa using congrArg List.reverse hs

theorem unitsOf_le_utf8Size (c : Char) : unitsOf c ≤ c.utf8Size := by
  have h := c.utf8Size_pos
  unfold unitsOf
  split
  case isTrue => exact h
  case isFalse hwide =>
    have hval : ¬c.val ≤ 0x7f := by
      rw [UInt32.le_iff_toNat_le]
      exact fun hle => hwide (lt_of_le_of_lt hle (by decide))
    simp only [Char.utf8Size]
    split_ifs with hone
    · exact absurd hone hval
    all_goals decide

theorem utf16Length_le_byteLength (s : List Char) : utf16Length s ≤ byteLength s := by
  induction s with
  | nil => exact le_rfl
  | cons c s ih => exact Nat.add_le_add (unitsOf_le_utf8Size c) ih

theorem newlineCount_le_byteLength (s : List Char) : newlineCount s ≤ byteLength s := by
  refine List.count_le_length.trans ?_
  induction s with
  | nil => exact le_rfl
  | cons c s ih =>
    rw [List.length_cons, byteLength_cons, Nat.add_comm]
    exact Nat.add_le_add c.utf8Size_pos ih

namespace Position

/-- A position that two words can hold. -/
def Fits (p : Position) : Prop := p.line < wordSize ∧ p.column < wordSize

theorem after_line_feed (p : Position) (front : List Char) {tail : List Char} (h : '\n' ∉ tail) :
    p.after (front ++ '\n' :: tail) =
      ⟨p.line + newlineCount (front ++ '\n' :: tail), utf16Length tail + 1⟩ := by
  have hline := line_after p (front ++ '\n' :: tail)
  rw [after_append, after_cons, afterChar_newline, after_of_notMem h] at hline ⊢
  rw [← hline, Nat.add_comm 1]

theorem advance?_of_notMem (p : Position) {s : List Char} (h : '\n' ∉ s) :
    p.advance? s = (addWord? p.column (utf16Length s)).map fun column => ⟨p.line, column⟩ := by
  rw [advance?, lastLineFeed?_of_notMem h]

theorem advance?_line_feed (p : Position) (front : List Char) {tail : List Char} (h : '\n' ∉ tail) :
    p.advance? (front ++ '\n' :: tail) =
      (addWord? p.line (newlineCount (front ++ '\n' :: tail))).bind fun line =>
        (addWord? (utf16Length tail) 1).bind fun column => some ⟨line, column⟩ := by
  have hfront : byteLength front + 1 = byteLength (front ++ ['\n']) := by
    rw [byteLength_append]
    rfl
  have htail : dropBytes? (front ++ '\n' :: tail) (byteLength front + 1) = some tail := by
    rw [hfront, List.append_cons]
    exact dropBytes?_append _ tail
  rw [advance?, lastLineFeed?_append front h]
  simp only [htail]
  rfl

/-- At once or character by character, a text leads to the same position. Moving over it at once has no
result exactly when that position is too large. -/
theorem advance?_eq_some_iff {p q : Position} (hp : p.Fits) (s : List Char) :
    p.advance? s = some q ↔ p.after s = q ∧ q.Fits := by
  by_cases h : '\n' ∈ s
  · obtain ⟨front, tail, rfl, htail⟩ := exists_last_line h
    rw [advance?_line_feed p front htail, after_line_feed p front htail]
    simp only [Option.bind_eq_some_iff, Option.some.injEq,
      addWord?_eq_some_iff]
    constructor
    · rintro ⟨_, ⟨hline, rfl⟩, _, ⟨hcolumn, rfl⟩, rfl⟩
      exact ⟨rfl, hline, hcolumn⟩
    · rintro ⟨rfl, hline, hcolumn⟩
      exact ⟨_, ⟨hline, rfl⟩, _, ⟨hcolumn, rfl⟩, rfl⟩
  · rw [advance?_of_notMem p h, after_of_notMem h]
    simp only [Option.map_eq_some_iff, addWord?_eq_some_iff]
    constructor
    · rintro ⟨_, ⟨hcolumn, rfl⟩, rfl⟩
      exact ⟨rfl, hp.1, hcolumn⟩
    · rintro ⟨rfl, -, hcolumn⟩
      exact ⟨_, ⟨hcolumn, rfl⟩, rfl⟩

/-- Behind a text the column is at most what it was and the units of the text together. -/
theorem column_after_le (p : Position) (s : List Char) :
    (p.after s).column ≤ p.column + utf16Length s := by
  induction s generalizing p with
  | nil => exact le_rfl
  | cons c s ih =>
    refine (ih (p.afterChar c)).trans ?_
    have hc := unitsOf_pos c
    rw [utf16Length_cons, afterChar]
    split
    · dsimp only
      omega
    · exact (Nat.add_assoc ..).le

theorem fits_after {p : Position} {s : List Char} (hline : p.line + newlineCount s < wordSize)
    (hcolumn : p.column + utf16Length s < wordSize) : (p.after s).Fits :=
  ⟨(line_after p s).symm ▸ hline, (column_after_le p s).trans_lt hcolumn⟩

/-- From the start of a text a position can be moved over each of its beginnings, if the text fits into
memory. -/
theorem advance?_origin {s text : List Char} (h : s <+: text) (hsize : byteLength text + 1 < wordSize) :
    origin.advance? s = some (origin.after s) := by
  obtain ⟨rest, rfl⟩ := h
  rw [byteLength_append] at hsize
  have hlines := newlineCount_le_byteLength s
  have hunits := utf16Length_le_byteLength s
  have hone : 1 < wordSize := by decide
  have hfits : (origin.after s).Fits := fits_after
    (show 1 + newlineCount s < wordSize by omega) (show 1 + utf16Length s < wordSize by omega)
  exact (advance?_eq_some_iff ⟨hone, hone⟩ s).2 ⟨rfl, hfits⟩

/-- A position is moved over two texts one after the other as over both together, and as far as its two
words reach it can be. Every text that is not empty moves it forward, and over the text of a token it
ends on the token's last line. -/
theorem advance?_action {c : Position} (hc : c.Fits) :
    (∀ a b, c.line + newlineCount (a ++ b) < wordSize → c.column + utf16Length (a ++ b) < wordSize →
      ∃ p q, c.advance? a = some p ∧ p.advance? b = some q ∧ c.advance? (a ++ b) = some q) ∧
    (∀ a b p q, c.advance? a = some p → (p.advance? b = some q ↔ c.advance? (a ++ b) = some q)) ∧
    (∀ a p, a ≠ [] → c.advance? a = some p → c < p) ∧ c.advance? [] = some c ∧
    ∀ kind text p, c.advance? text.toList = some p →
      p.line = (Token.startingAt kind text c.line c.column).endLine := by
  have hafter := fun {p : Position} s => advance?_eq_some_iff (q := p) hc s
  have happend : ∀ a b p q, c.advance? a = some p →
      (p.advance? b = some q ↔ c.advance? (a ++ b) = some q) := by
    intro a b p q ha
    obtain ⟨rfl, hp⟩ := (hafter a).1 ha
    rw [hafter, advance?_eq_some_iff hp, after_append]
  refine ⟨fun a b hline hcolumn => ?_, happend, ?_, (hafter []).2 ⟨rfl, hc⟩, ?_⟩
  · have hboth : c.advance? (a ++ b) = some (c.after (a ++ b)) :=
      (hafter _).2 ⟨rfl, fits_after hline hcolumn⟩
    have hfirst : c.advance? a = some (c.after a) := by
      refine (hafter a).2 ⟨rfl, fits_after ?_ ?_⟩
      · rw [newlineCount, List.count_append] at hline
        exact (Nat.add_le_add_left (Nat.le_add_right _ _) _).trans_lt hline
      · rw [utf16Length_append] at hcolumn
        exact (Nat.add_le_add_left (Nat.le_add_right _ _) _).trans_lt hcolumn
    exact ⟨_, _, hfirst, (happend a b _ _ hfirst).2 hboth, hboth⟩
  · intro a p hne ha
    obtain ⟨rfl, -⟩ := (hafter a).1 ha
    exact lt_after hne c
  · intro kind text p htext
    obtain ⟨rfl, -⟩ := (hafter _).1 htext
    exact line_after c text.toList

/-- A comment over two lines that ends in an emoji, and the rest of its line with another line. -/
theorem advance?_action_emoji :
    let c : Position := ⟨2, 5⟩
    let a := "@_\nb😀"
    let b := "c\ntail"
    c.Fits ∧ c.advance? a.toList = some ⟨3, 4⟩ ∧ Position.advance? ⟨3, 4⟩ b.toList = some ⟨4, 5⟩ ∧
      c.advance? (a.toList ++ b.toList) = some ⟨4, 5⟩ ∧ c < ⟨3, 4⟩ ∧ c.advance? [] = some c ∧
      (Token.startingAt .comment a 2 5).endLine = 3 := by
  intro c a b
  have hc : c.Fits := by unfold Fits; decide
  obtain ⟨hroom, -, hforward, hempty, htoken⟩ := advance?_action hc
  obtain ⟨p, q, hp, hq, hpq⟩ := hroom a.toList b.toList (by decide) (by decide)
  obtain rfl : p = ⟨3, 4⟩ := Option.some.inj (hp.symm.trans (by decide))
  obtain rfl : q = ⟨4, 5⟩ := Option.some.inj (hpq.symm.trans (by decide))
  exact ⟨hc, hp, hq, hpq, hforward _ _ (by decide) hp, hempty, (htoken .comment a _ hp).symm⟩

end Position
end LiveMarkup
