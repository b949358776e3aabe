import LiveMarkup.Position.Offset
import LiveMarkup.Proofs.Advance
import LiveMarkup.Proofs.Place

/-! # Byte places and positions

The byte place that the line table gives for a position is the length of the text in front of the place
that the position names. So a position that was moved over the beginning of a text leads back to where
that ends, and any position whatever leads to a boundary of the text, further on for a later position.
-/
namespace LiveMarkup

/-- The bytes of the characters in front of a point, seen from the start of a line. -/
theorem scanUnits_eq (units seen place : Nat) (s : List Char) :
    scanUnits units seen place s = place + byteLength (s.take (charsBefore s (units - seen))) := by
  induction s generalizing seen place with
  | nil => simp [scanUnits]
  | cons c s ih =>
    rw [scanUnits]
    split
    case isTrue h => simp [Nat.sub_eq_zero_of_le h]
    case isFalse h =>
      obtain ⟨k, hk⟩ : ∃ k, units - seen = k + 1 := Nat.exists_eq_succ_of_ne_zero (by omega)
      have hrest : k + 1 - unitsOf c = units - (seen + unitsOf c) := by omega
      rw [ih, hk, charsBefore, hrest, List.take_succ_cons, byteLength_cons, Nat.add_assoc]

theorem byteColumn_eq (line : List Char) (column : Nat) :
    byteColumn line column = byteLength (line.take (charsBefore line (column - 1))) := by
  rw [byteColumn, scanUnits_eq, Nat.zero_add, Nat.sub_zero]

/-- Lines with a line feed behind each of them. -/
def endedLines (lines : List (List Char)) : List Char := lines.flatMap (· ++ ['\n'])

theorem length_endedLines (lines : List (List Char)) :
    (endedLines lines).length = totalLength lines := by
  induction lines with
  | nil => rfl
  | cons line lines ih =>
    rw [totalLength, ← ih]
    simp [endedLines]
    omega

theorem getElem?_startsFrom (place : Nat) {lines : List (List Char)} {i : Nat} (h : i < lines.length) :
    (startsFrom place lines)[i]? = some (place + byteLength (endedLines (lines.take i))) := by
  induction lines generalizing place i with
  | nil => exact absurd h (Nat.not_lt_zero i)
  | cons line lines ih =>
    cases i with
    | zero => rfl
    | succ i =>
      have hi : i < lines.length := Nat.lt_of_succ_lt_succ h
      rw [startsFrom, List.getElem?_cons_succ, ih _ hi]
      simp [endedLines, byteLength_append, Nat.add_assoc, show '\n'.utf8Size = 1 from rfl]

/-- A text is the lines in front of one of its lines, that line, and what follows it. -/
theorem exists_line_split {text line : List Char} {i : Nat} (h : (splitLines text)[i]? = some line) :
    ∃ behind, text = endedLines ((splitLines text).take i) ++ (line ++ behind) := by
  induction i generalizing text with
  | zero =>
    obtain ⟨first, later, hfirst⟩ := exists_splitLines text
    rw [hfirst] at h
    obtain rfl : first = line := by simpa using h
    obtain ⟨tail, htail⟩ := (splitLines_first hfirst).2
    exact ⟨tail, htail⟩
  | succ i ih =>
    obtain ⟨first, later, hfirst⟩ := exists_splitLines text
    rw [hfirst, List.getElem?_cons_succ] at h
    cases later with
    | nil => simp at h
    | cons next later =>
      obtain ⟨rest, rfl, hrest⟩ := splitLines_eq_cons_cons hfirst
      rw [← hrest] at h
      obtain ⟨behind, hbehind⟩ := ih h
      refine ⟨behind, ?_⟩
      rw [hfirst, ← hrest, List.take_succ_cons]
      simpa [endedLines] using hbehind

theorem charsBefore_le (s : List Char) (units : Nat) : charsBefore s units ≤ s.length := by
  induction s generalizing units with
  | nil => simp [charsBefore]
  | cons c s ih =>
    cases units with
    | zero => simp
    | succ units => exact Nat.succ_le_succ (ih _)

namespace Source

variable {text line : List Char} {p q : Position}

theorem line?_eq_some_iff {src : Source} {n : Nat} :
    src.line? n = some line ↔ n ≠ 0 ∧ src.lines[n - 1]? = some line := by
  rw [line?]
  split <;> simp_all

theorem index_of_line (h : (ofText text).line? p.line = some line) : (ofText text).index p =
    (ofText text).lineStart p.line + charsBefore line (p.column - 1) := by
  rw [index, h]

theorem index_of_no_line (h : (ofText text).line? p.line = none) :
    (ofText text).index p = if p.line = 0 then 0 else text.length := by
  rw [index, h]
  rfl

/-- The text in front of a line and the line itself, for a line that a text has. -/
theorem exists_in_front (h : (ofText text).line? p.line = some line) :
    ∃ front behind, text = front ++ (line ++ behind) ∧
      (ofText text).starts[p.line - 1]? = some (byteLength front) ∧
      (ofText text).index p = front.length + charsBefore line (p.column - 1) := by
  obtain ⟨-, hline⟩ := line?_eq_some_iff.1 h
  obtain ⟨hn, -⟩ := List.getElem?_eq_some_iff.1 hline
  obtain ⟨behind, hbehind⟩ := exists_line_split hline
  refine ⟨_, behind, hbehind, ?_, ?_⟩
  · rw [starts, getElem?_startsFrom 0 hn, Nat.zero_add]
    rfl
  · rw [index_of_line h, length_endedLines]
    rfl

theorem index_le (text : List Char) (p : Position) : (ofText text).index p ≤ text.length := by
  cases hline : (ofText text).line? p.line with
  | none =>
    rw [index_of_no_line hline]
    split
    · exact Nat.zero_le _
    · exact le_rfl
  | some line =>
    obtain ⟨front, behind, htext, -, hindex⟩ := exists_in_front hline
    have hcolumn := charsBefore_le line (p.column - 1)
    rw [hindex, htext, List.length_append, List.length_append]
    omega

/-- The place of a position in bytes is the length of the text in front of the place it names. -/
theorem offset?_eq (text : List Char) (p : Position) :
    (ofText text).offset? p = some (byteLength (text.take ((ofText text).index p))) := by
  cases hline : (ofText text).line? p.line with
  | none =>
    rw [offset?, hline, index_of_no_line hline]
    by_cases hzero : p.line = 0
    · simp only [hzero, if_true, List.take_zero, byteLength_nil]
    · simp only [hzero, if_false, List.take_length, ofText]
  | some line =>
    obtain ⟨front, behind, htext, hplace, hindex⟩ := exists_in_front hline
    have htake : text.take (front.length + charsBefore line (p.column - 1)) =
        front ++ line.take (charsBefore line (p.column - 1)) := by
      rw [htext, List.take_length_add_append, List.take_append_of_le_length (charsBefore_le ..)]
    rw [offset?, hline, hindex, htake, byteLength_append, ← byteColumn_eq]
    simp only [hplace, Option.map_some]

/-- The text can be cut at the place of a position, and what lies behind is what it names. -/
theorem dropBytes?_offset (text : List Char) (p : Position) :
    ((ofText text).offset? p).bind (dropBytes? text) =
      some (text.drop ((ofText text).index p)) := by
  have h := dropBytes?_append (text.take ((ofText text).index p))
    (text.drop ((ofText text).index p))
  rwa [List.take_append_drop, ← Option.bind_some (f := dropBytes? text), ← offset?_eq] at h

theorem lineStart_add_length_le {src : Source} {m n : Nat} (h : src.line? m = some line)
    (hmn : m < n) : src.lineStart m + line.length ≤ src.lineStart n := by
  obtain ⟨hm, hline⟩ := line?_eq_some_iff.1 h
  have htake : src.lines.take m = src.lines.take (m - 1) ++ [line] := by
    conv_lhs => rw [← Nat.succ_pred_eq_of_ne_zero hm]
    rw [List.take_add_one, Nat.pred_eq_sub_one, hline]
    rfl
  obtain ⟨more, hmore⟩ := List.take_prefix_take_left (l := src.lines) (show m ≤ n - 1 by omega)
  rw [lineStart, lineStart, ← hmore, htake]
  simp only [← length_endedLines, endedLines, List.flatMap_append, List.length_append,
    List.flatMap_cons, List.flatMap_nil, List.append_nil, List.length_cons, List.length_nil]
  omega

/-- A later position names a later place, or the same one. -/
theorem index_mono (h : p < q) : (ofText text).index p ≤ (ofText text).index q := by
  rcases h with hlines | ⟨hsame, hcolumns⟩
  · cases hq : (ofText text).line? q.line with
    | none =>
      rw [index_of_no_line hq, if_neg (Nat.ne_zero_of_lt hlines)]
      exact index_le text p
    | some line =>
      cases hp : (ofText text).line? p.line with
      | none =>
        have hzero : p.line = 0 := by
          by_contra hne
          obtain ⟨-, hline⟩ := line?_eq_some_iff.1 hq
          obtain ⟨hlength, -⟩ := List.getElem?_eq_some_iff.1 hline
          rw [line?, if_neg hne, List.getElem?_eq_none_iff] at hp
          omega
        rw [index_of_no_line hp, if_pos hzero]
        exact Nat.zero_le _
      | some first =>
        rw [index_of_line hp, index_of_line hq]
        have hcolumn := charsBefore_le first (p.column - 1)
        have hstart := lineStart_add_length_le hp hlines
        omega
  · cases hq : (ofText text).line? q.line with
    | none => rw [index_of_no_line hq, index_of_no_line (hsame ▸ hq), hsame]
    | some line =>
      rw [index_of_line hq, index_of_line (hsame ▸ hq), hsame]
      exact Nat.add_le_add_left (charsBefore_mono (by omega)) _

theorem byteLength_take_le (text : List Char) (n : Nat) :
    byteLength (text.take n) ≤ byteLength text := by
  conv_rhs => rw [← List.take_append_drop n text, byteLength_append]
  exact Nat.le_add_right _ _

theorem byteLength_take_mono (text : List Char) {m n : Nat} (h : m ≤ n) :
    byteLength (text.take m) ≤ byteLength (text.take n) := by
  obtain ⟨k, rfl⟩ := Nat.exists_eq_add_of_le h
  rw [List.take_add, byteLength_append]
  exact Nat.le_add_right _ _

/-- A position that was moved over a beginning of a text leads back to the length of that beginning. Any
position leads to a boundary of the text, and a later one to no earlier boundary. -/
theorem offset?_inverse (text : List Char) :
    (∀ front, front <+: text →
      (ofText text).offset? (Position.origin.after front) = some (byteLength front) ∧
      (byteLength text + 1 < wordSize →
        Position.origin.advance? front = some (Position.origin.after front))) ∧
    (∀ p, ∃ n, (ofText text).offset? p = some n ∧ n ≤ byteLength text ∧ IsBoundary text n) ∧
    ∀ p q, p < q → ∃ m n, (ofText text).offset? p = some m ∧ (ofText text).offset? q = some n ∧
      m ≤ n := by
  refine ⟨?_, fun p => ⟨_, offset?_eq text p, byteLength_take_le .., _, List.take_prefix .., rfl⟩,
    fun p q h => ⟨_, _, offset?_eq text p, offset?_eq text q,
      byteLength_take_mono text (index_mono h)⟩⟩
  intro front hfront
  refine ⟨?_, Position.advance?_origin hfront⟩
  obtain ⟨behind, rfl⟩ := hfront
  rw [offset?_eq, index_eq (.behind front), List.take_left]

/-- The start of an empty line behind an emoji, and a column inside the emoji, which leads behind it. -/
theorem offset?_inverse_emoji :
    let text := "é😀\n\nb".toList
    let front := "é😀\n".toList
    let inside : Position := ⟨1, 3⟩
    let below : Position := ⟨9, 0⟩
    front <+: text ∧ byteLength text + 1 < wordSize ∧
      (∃ p, Position.origin.advance? front = some p ∧ (ofText text).offset? p = some 7) ∧
      (∃ n, (ofText text).offset? inside = some n ∧ n ≤ 9 ∧ IsBoundary text n) ∧
      inside < below ∧ ∃ m n, (ofText text).offset? inside = some m ∧
        (ofText text).offset? below = some n ∧ m ≤ n := by
  intro text front inside below
  obtain ⟨hinverse, hbounded, hmono⟩ := offset?_inverse text
  have hfront : front <+: text := by decide
  have hlt : inside < below := by decide
  have hsize : byteLength text + 1 < wordSize := by decide
  obtain ⟨hoffset, hadvance⟩ := hinverse front hfront
  exact ⟨hfront, hsize, ⟨_, hadvance hsize, hoffset⟩, hbounded inside, hlt, hmono inside below hlt⟩

end Source
end LiveMarkup
