import Mathlib
import LiveMarkup.Position

/-! # The places that positions name

A position names the place behind a piece of text that starts the source, or it lies inside the last
character of that piece. Such a position is resolved to that place by the line table, whichever lines the
text has.
-/
namespace LiveMarkup

theorem splitLines_of_notMem {s : List Char} (h : '\n' ∉ s) : splitLines s = [s] := by
  induction s with
  | nil => rfl
  | cons c s ih =>
    have hc : c ≠ '\n' := (List.ne_of_not_mem_cons h).symm
    have hs : '\n' ∉ s := List.not_mem_of_not_mem_cons h
    simp [splitLines, hc, ih hs]

theorem splitLines_append_of_notMem {s t line : List Char} {later : List (List Char)}
    (h : '\n' ∉ s) (ht : splitLines t = line :: later) :
    splitLines (s ++ t) = (s ++ line) :: later := by
  induction s with
  | nil => exact ht
  | cons c s ih =>
    have hc : c ≠ '\n' := (List.ne_of_not_mem_cons h).symm
    have hs : '\n' ∉ s := List.not_mem_of_not_mem_cons h
    simp [splitLines, hc, ih hs]

theorem splitLines_append_newline {s : List Char} (h : '\n' ∉ s) (t : List Char) :
    splitLines (s ++ '\n' :: t) = s :: splitLines t := by
  have ht : splitLines ('\n' :: t) = [] :: splitLines t := by simp [splitLines]
  simpa using splitLines_append_of_notMem h ht

theorem exists_splitLines (s : List Char) : ∃ line later, splitLines s = line :: later :=
  List.exists_cons_of_ne_nil (splitLines_ne_nil s)

theorem joinLines_splitLines (s : List Char) : joinLines (splitLines s) = s := by
  induction s with
  | nil => rfl
  | cons c s ih =>
    obtain ⟨line, later, h⟩ := exists_splitLines s
    rw [h] at ih
    by_cases hc : c = '\n'
    · simp only [splitLines, hc, if_true, h, joinLines, List.nil_append, ih]
    · cases later with
      | nil => simpa [splitLines, hc, h, joinLines] using ih
      | cons next later => simpa [splitLines, hc, h, joinLines] using ih

theorem newlineCount_append_newline {s : List Char} (h : '\n' ∉ s) (t : List Char) :
    newlineCount (s ++ '\n' :: t) = newlineCount t + 1 := by
  simp [newlineCount, List.count_eq_zero_of_not_mem h]

/-- Induction on the lines of a text. -/
theorem line_induction {motive : List Char → Prop}
    (flat : ∀ s, '\n' ∉ s → motive s)
    (line : ∀ s rest, '\n' ∉ s → motive rest → motive (s ++ '\n' :: rest)) (s : List Char) :
    motive s := by
  by_cases h : '\n' ∈ s
  · obtain ⟨first, rest, hs, hf⟩ := List.eq_append_cons_of_mem h
    exact hs ▸ line first rest hf (line_induction flat line rest)
  · exact flat s h
termination_by s.length
decreasing_by
  simp only [hs, List.length_append, List.length_cons]
  omega

theorem splitLines_first {s line : List Char} {later : List (List Char)}
    (h : splitLines s = line :: later) : '\n' ∉ line ∧ ∃ tail, s = line ++ tail := by
  by_cases hs : '\n' ∈ s
  · obtain ⟨first, rest, rfl, hf⟩ := List.eq_append_cons_of_mem hs
    rw [splitLines_append_newline hf] at h
    obtain ⟨rfl, -⟩ := List.cons.inj h
    exact ⟨hf, _, rfl⟩
  · rw [splitLines_of_notMem hs] at h
    obtain ⟨rfl, -⟩ := List.cons.inj h
    exact ⟨hs, [], by simp⟩

theorem splitLines_eq_singleton {s line : List Char} (h : splitLines s = [line]) : s = line := by
  rw [← joinLines_splitLines s, h, joinLines]

theorem splitLines_eq_cons_cons {s line next : List Char} {later : List (List Char)}
    (h : splitLines s = line :: next :: later) :
    ∃ t, s = line ++ '\n' :: t ∧ splitLines t = next :: later := by
  by_cases hs : '\n' ∈ s
  · obtain ⟨first, rest, rfl, hf⟩ := List.eq_append_cons_of_mem hs
    rw [splitLines_append_newline hf] at h
    obtain ⟨rfl, hrest⟩ := List.cons.inj h
    exact ⟨rest, rfl, hrest⟩
  · rw [splitLines_of_notMem hs] at h
    simp at h

/-- Text that is empty or ends with a line feed. -/
inductive WholeLines : List Char → Prop
  | nil : WholeLines []
  | cons {line rest : List Char} (flat : '\n' ∉ line) (whole : WholeLines rest) :
      WholeLines (line ++ '\n' :: rest)

theorem exists_wholeLines (s : List Char) :
    ∃ start current, s = start ++ current ∧ WholeLines start ∧ '\n' ∉ current := by
  induction s using line_induction with
  | flat s h => exact ⟨[], s, rfl, .nil, h⟩
  | line s rest hs ih =>
    obtain ⟨start, current, rfl, hw, hc⟩ := ih
    exact ⟨s ++ '\n' :: start, current, by simp, .cons hs hw, hc⟩

namespace WholeLines

theorem getLast?_eq {s : List Char} {c : Char} (h : WholeLines s) (he : s.getLast? = some c) :
    c = '\n' := by
  induction h with
  | nil => simp at he
  | @cons line rest _ _ ih =>
    cases hr : rest.getLast? with
    | none => simpa [List.getLast?_cons, hr, eq_comm] using he
    | some d => exact ih (by simpa [List.getLast?_cons, hr] using he)

theorem drop_splitLines {s : List Char} (h : WholeLines s) (t : List Char) :
    (splitLines (s ++ t)).drop (newlineCount s) = splitLines t := by
  induction h with
  | nil => rfl
  | @cons line rest flat _ ih =>
    rw [List.append_assoc, List.cons_append, splitLines_append_newline flat,
      newlineCount_append_newline flat,
      List.drop_succ_cons, ih]

/-- The lines in front of a place take up the text in front of it, line feeds included. -/
theorem totalLength_take {s : List Char} (h : WholeLines s) (t : List Char) :
    totalLength ((splitLines (s ++ t)).take (newlineCount s)) = s.length := by
  induction h with
  | nil => rfl
  | @cons line rest flat _ ih =>
    rw [List.append_assoc, List.cons_append, splitLines_append_newline flat,
      newlineCount_append_newline flat,
      List.take_succ_cons, totalLength, ih]
    simp only [List.length_append, List.length_cons]
    omega

end WholeLines

theorem unitsOf_eq (c : Char) : unitsOf c = 1 ∨ unitsOf c = 2 := by
  unfold unitsOf
  split
  · exact Or.inl rfl
  · exact Or.inr rfl

theorem unitsOf_newline : unitsOf '\n' = 1 := by decide

theorem ne_newline_of_unitsOf {c : Char} (h : unitsOf c = 2) : c ≠ '\n' := by
  rintro rfl
  rw [unitsOf_newline] at h
  omega

@[simp] theorem charsBefore_zero (s : List Char) : charsBefore s 0 = 0 := by
  cases s <;> rfl

theorem charsBefore_append (s t : List Char) (u : Nat) :
    charsBefore (s ++ t) (utf16Length s + u) = s.length + charsBefore t u := by
  induction s with
  | nil => simp
  | cons c s ih =>
    obtain ⟨k, hk⟩ : ∃ k, utf16Length (c :: s) + u = k + 1 :=
      Nat.exists_eq_succ_of_ne_zero (by have := unitsOf_pos c; simp only [utf16Length_cons]; omega)
    have hrest : k + 1 - unitsOf c = utf16Length s + u := by
      simp only [utf16Length_cons] at hk
      omega
    rw [hk, List.cons_append, charsBefore, hrest, ih, List.length_cons]
    omega

theorem charsBefore_utf16Length (s t : List Char) :
    charsBefore (s ++ t) (utf16Length s) = s.length := by
  simpa using charsBefore_append s t 0

theorem charsBefore_inside (s t : List Char) {c : Char} (h : unitsOf c = 2) :
    charsBefore (s ++ c :: t) (utf16Length s + 1) = s.length + 1 := by
  rw [charsBefore_append, charsBefore, h]
  simp

theorem charsBefore_mono {s : List Char} {u v : Nat} (h : u ≤ v) :
    charsBefore s u ≤ charsBefore s v := by
  induction s generalizing u v with
  | nil => simp [charsBefore]
  | cons c s ih =>
    cases u with
    | zero => simp
    | succ u =>
      obtain ⟨v, rfl⟩ := Nat.exists_eq_add_of_lt (Nat.lt_of_succ_le h)
      simp only [charsBefore]
      exact Nat.succ_le_succ (ih (by omega))

/-- What lies before a point of a line is as long as the point says, or the point is inside its last
character. -/
theorem take_charsBefore {s : List Char} {u : Nat} (h : u ≤ utf16Length s) :
    utf16Length (s.take (charsBefore s u)) = u ∨
      ∃ t c, s.take (charsBefore s u) = t ++ [c] ∧ unitsOf c = 2 ∧ u = utf16Length t + 1 := by
  induction s generalizing u with
  | nil =>
    simp only [utf16Length_nil, Nat.le_zero] at h
    simp [h]
  | cons c s ih =>
    cases u with
    | zero => simp
    | succ u =>
      simp only [charsBefore, List.take_succ_cons, utf16Length_cons] at h ⊢
      by_cases hu : u + 1 < unitsOf c
      · -- the point is inside the first character
        have hc := (unitsOf_eq c).resolve_left (by omega)
        have hz : u + 1 - unitsOf c = 0 := by omega
        refine Or.inr ⟨[], c, by simp [hz], hc, ?_⟩
        simp only [utf16Length_nil]
        omega
      · rcases ih (u := u + 1 - unitsOf c) (by omega) with hl | ⟨t, d, ht, hd, hl⟩
        · exact Or.inl (by omega)
        · refine Or.inr ⟨c :: t, d, by rw [ht, List.cons_append], hd, ?_⟩
          simp only [utf16Length_cons]
          omega

namespace Position

theorem after_of_notMem {s : List Char} (h : '\n' ∉ s) (p : Position) :
    p.after s = ⟨p.line, p.column + utf16Length s⟩ := by
  induction s generalizing p with
  | nil => rfl
  | cons c s ih =>
    have hc : c ≠ '\n' := (List.ne_of_not_mem_cons h).symm
    have hs : '\n' ∉ s := List.not_mem_of_not_mem_cons h
    rw [after_cons, ih hs]
    simp only [afterChar, hc, if_false, utf16Length_cons, Nat.add_assoc]

@[simp] theorem afterChar_newline (p : Position) : p.afterChar '\n' = ⟨p.line + 1, 1⟩ := rfl

theorem line_after (p : Position) (s : List Char) :
    (p.after s).line = p.line + newlineCount s := by
  induction s generalizing p with
  | nil => rfl
  | cons c s ih =>
    rw [after_cons, ih]
    by_cases hc : c = '\n'
    · simp [hc, newlineCount]
      omega
    · simp [afterChar, hc, newlineCount]

theorem after_eq_of_mem {s : List Char} (h : '\n' ∈ s) {p q : Position} (hl : p.line = q.line) :
    p.after s = q.after s := by
  obtain ⟨line, rest, rfl, hf⟩ := List.eq_append_cons_of_mem h
  simp only [after_append, after_cons, after_of_notMem hf, afterChar_newline, hl]

theorem lt_irrefl (p : Position) : ¬p < p := by
  rintro (h | h)
  · exact Nat.lt_irrefl _ h
  · exact Nat.lt_irrefl _ h.2

theorem lt_after {s : List Char} (h : s ≠ []) (p : Position) : p < p.after s := by
  by_cases hn : '\n' ∈ s
  · refine Or.inl ?_
    rw [line_after]
    exact Nat.lt_add_of_pos_right (List.count_pos_iff.2 hn)
  · refine Or.inr ?_
    rw [after_of_notMem hn]
    obtain ⟨c, rest, rfl⟩ := List.exists_cons_of_ne_nil h
    have := unitsOf_pos c
    exact ⟨rfl, by simp only [utf16Length_cons]; omega⟩

theorem column_after_pos {p : Position} (h : 1 ≤ p.column) (s : List Char) :
    1 ≤ (p.after s).column := by
  induction s generalizing p with
  | nil => exact h
  | cons c s ih =>
    apply ih
    unfold afterChar
    split
    · exact le_rfl
    · exact h.trans (Nat.le_add_right _ _)

end Position

theorem WholeLines.after {s : List Char} (h : WholeLines s) (line : Nat) :
    Position.after ⟨line, 1⟩ s = ⟨line + newlineCount s, 1⟩ := by
  induction h generalizing line with
  | nil => rfl
  | @cons first rest flat _ ih =>
    rw [Position.after_append, Position.after_cons, Position.after_of_notMem flat,
      Position.afterChar_newline, ih, newlineCount_append_newline flat]
    congr 1
    dsimp only
    omega

/-- A position names the place behind a text that starts at `b`: it is the position behind the text, or
it lies inside the text's last character. -/
inductive Names (b : Position) : List Char → Position → Prop
  | behind (s : List Char) : Names b s (b.after s)
  | inside (s : List Char) {c : Char} (wide : unitsOf c = 2) :
      Names b (s ++ [c]) ⟨(b.after s).line, (b.after s).column + 1⟩

namespace Names

theorem line_eq {b p : Position} {s : List Char} (h : Names b s p) :
    p.line = b.line + newlineCount s := by
  cases h with
  | behind => exact Position.line_after b s
  | inside s wide =>
    simp [Position.line_after, newlineCount, List.count_eq_zero_of_not_mem,
      ne_newline_of_unitsOf wide]

theorem column_pos {b p : Position} {s : List Char} (h : Names b s p) (hb : 1 ≤ b.column) :
    1 ≤ p.column := by
  cases h with
  | behind => exact Position.column_after_pos hb s
  | inside => exact Nat.succ_le_succ (Nat.zero_le _)

theorem column_le {line : Nat} {p : Position} {s : List Char} (h : Names ⟨line, 1⟩ s p)
    (hs : '\n' ∉ s) : p.column ≤ utf16Length s + 1 := by
  cases h with
  | behind =>
    rw [Position.after_of_notMem hs]
    exact (Nat.add_comm _ _).le
  | @inside s c wide =>
    have hf : '\n' ∉ s := fun m => hs (List.mem_append_left _ m)
    simp only [Position.after_of_notMem hf, utf16Length_append, utf16Length_cons,
      utf16Length_nil, wide]
    omega

/-- A name of a place behind whole lines and part of another is a name in that line alone. -/
theorem of_append {b p : Position} {start current : List Char} (h : Names b (start ++ current) p)
    (hw : WholeLines start) : Names (b.after start) current p := by
  generalize hs : start ++ current = s at h
  cases h with
  | behind => rw [← hs, Position.after_append]; exact .behind current
  | @inside s c wide =>
    rcases List.eq_nil_or_concat current with rfl | ⟨front, d, rfl⟩
    · have hlast : start.getLast? = some c := by simpa using congrArg List.getLast? hs
      exact absurd (hw.getLast?_eq hlast) (ne_newline_of_unitsOf wide)
    · rw [List.concat_eq_append, ← List.append_assoc] at hs
      obtain ⟨rfl, hd⟩ := List.append_inj' hs rfl
      obtain rfl : d = c := by simpa using hd
      rw [List.concat_eq_append, Position.after_append]
      exact .inside front wide

theorem append {b p : Position} {start s : List Char} (h : Names (b.after start) s p) :
    Names b (start ++ s) p := by
  cases h with
  | behind => rw [← Position.after_append]; exact .behind _
  | inside s wide =>
    rw [← Position.after_append, ← List.append_assoc]
    exact .inside _ wide

theorem charsBefore_eq {line : Nat} {p : Position} {s : List Char} (h : Names ⟨line, 1⟩ s p)
    (hs : '\n' ∉ s) (t : List Char) : charsBefore (s ++ t) (p.column - 1) = s.length := by
  cases h with
  | behind =>
    rw [Position.after_of_notMem hs, Nat.add_sub_cancel_left]
    exact charsBefore_utf16Length s t
  | @inside s c wide =>
    have hf : '\n' ∉ s := fun m => hs (List.mem_append_left _ m)
    rw [Position.after_of_notMem hf]
    have hu : 1 + utf16Length s + 1 - 1 = utf16Length s + 1 := by omega
    simpa [hu] using charsBefore_inside s t wide

theorem take_charsBefore {s : List Char} {line column : Nat} (hs : '\n' ∉ s) (hc : 1 ≤ column)
    (hle : column ≤ utf16Length s + 1) :
    Names ⟨line, 1⟩ (s.take (charsBefore s (column - 1))) ⟨line, column⟩ := by
  have hflat : ∀ n, '\n' ∉ s.take n := fun n m => hs (List.mem_of_mem_take m)
  rcases LiveMarkup.take_charsBefore (s := s) (u := column - 1) (by omega) with
    hl | ⟨t, c, ht, wide, hl⟩
  · have hp : Position.after ⟨line, 1⟩ (s.take (charsBefore s (column - 1))) = ⟨line, column⟩ := by
      rw [Position.after_of_notMem (hflat _), hl]
      congr 1
      dsimp only
      omega
    rw [← hp]
    exact .behind _
  · have hf : '\n' ∉ t := fun m => hflat (charsBefore s (column - 1)) (by simp [ht, m])
    have hp : (⟨line, column⟩ : Position) =
        ⟨(Position.after ⟨line, 1⟩ t).line, (Position.after ⟨line, 1⟩ t).column + 1⟩ := by
      rw [Position.after_of_notMem hf]
      congr 1
      dsimp only
      omega
    rw [ht, hp]
    exact .inside t wide

/-- Behind a wide character the column is one more than at a point inside it. -/
theorem after_append_wide (b : Position) (s : List Char) {c : Char} (wide : unitsOf c = 2) :
    b.after (s ++ [c]) = ⟨(b.after s).line, (b.after s).column + 1 + 1⟩ := by
  simp [Position.after_append, Position.afterChar, ne_newline_of_unitsOf wide, wide]

theorem eq_or_inside {b p : Position} {s : List Char} (h : Names b s p) :
    p = b.after s ∨ ∃ t c, s = t ++ [c] ∧ unitsOf c = 2 ∧
      p = ⟨(b.after t).line, (b.after t).column + 1⟩ := by
  cases h with
  | behind => exact Or.inl rfl
  | inside t wide => exact Or.inr ⟨t, _, rfl, wide, rfl⟩

theorem behind_after {b : Position} {s : List Char} (t : List Char) :
    Names b (s ++ t) ((b.after s).after t) := by
  rw [← Position.after_append]
  exact .behind _

/-- From inside a character, a text with a line feed leads behind itself all the same. -/
theorem inside_after_of_mem {b : Position} {s t : List Char} {c : Char} (wide : unitsOf c = 2)
    (h : '\n' ∈ t) :
    Names b (s ++ [c] ++ t) (Position.after ⟨(b.after s).line, (b.after s).column + 1⟩ t) := by
  have hl : (b.after (s ++ [c])).line = (b.after s).line := by
    rw [after_append_wide b s wide]
  have hp := Position.after_eq_of_mem h
    (p := ⟨(b.after s).line, (b.after s).column + 1⟩) (q := b.after (s ++ [c])) hl.symm
  rw [hp]
  exact behind_after t

/-- From inside a character, a text on one line that ends in a wide character leads inside that one. -/
theorem inside_after_wide {b : Position} {s t : List Char} {c d : Char} (wide : unitsOf c = 2)
    (h : '\n' ∉ t) (hd : unitsOf d = 2) :
    Names b (s ++ [c] ++ (t ++ [d]))
      (Position.after ⟨(b.after s).line, (b.after s).column + 1⟩ (t ++ [d])) := by
  have htd : '\n' ∉ t ++ [d] := by simpa [h] using (ne_newline_of_unitsOf hd).symm
  have hq : Position.after ⟨(b.after s).line, (b.after s).column + 1⟩ (t ++ [d]) =
      ⟨(b.after (s ++ [c] ++ t)).line, (b.after (s ++ [c] ++ t)).column + 1⟩ := by
    rw [Position.after_of_notMem htd, Position.after_append, Position.after_of_notMem h,
      Position.after_append]
    simp only [Position.after_cons, Position.after_nil, Position.afterChar,
      ne_newline_of_unitsOf wide, if_false, wide, utf16Length_append, utf16Length_cons,
      utf16Length_nil, hd, Position.mk.injEq, true_and]
    omega
  rw [hq, ← List.append_assoc]
  exact .inside _ hd

/-- From inside a character, a text on one line that ends in a narrow character leads in front of that
one. -/
theorem inside_after_narrow {b : Position} {s t : List Char} {c d : Char} (wide : unitsOf c = 2)
    (h : '\n' ∉ t ++ [d]) (hd : unitsOf d = 1) :
    Position.after ⟨(b.after s).line, (b.after s).column + 1⟩ (t ++ [d]) =
      b.after (s ++ [c] ++ t) := by
  have ht : '\n' ∉ t := fun m => h (List.mem_append_left _ m)
  rw [Position.after_of_notMem h, Position.after_append, Position.after_of_notMem ht,
    Position.after_append]
  simp only [Position.after_cons, Position.after_nil, Position.afterChar,
    ne_newline_of_unitsOf wide, if_false, wide, utf16Length_append, utf16Length_cons,
    utf16Length_nil, hd, Position.mk.injEq, true_and]
  omega

/-- The position behind a text names the place behind it, unless it started inside a character and the
text stays on the line and ends in a narrow one. -/
theorem after_text {b p : Position} {s t : List Char} (h : Names b s p)
    (ht : ¬(b.after s = ⟨p.line, p.column + 1⟩ ∧ '\n' ∉ t ∧ t.getLast?.any fun c => unitsOf c = 1)) :
    Names b (s ++ t) (p.after t) := by
  cases h with
  | behind => exact behind_after t
  | @inside s c wide =>
    have hsplit := after_append_wide b s wide
    by_cases hn : '\n' ∈ t
    · exact inside_after_of_mem wide hn
    · rcases List.eq_nil_or_concat t with rfl | ⟨front, d, rfl⟩
      · simpa using Names.inside (b := b) s wide
      · rw [List.concat_eq_append] at ht hn ⊢
        have hd : unitsOf d = 2 := by
          refine (unitsOf_eq d).resolve_left fun h1 => ht ⟨hsplit, hn, ?_⟩
          simp [h1]
        exact inside_after_wide wide (fun m => hn (List.mem_append_left _ m)) hd

/-- In the excepted case the position names the place in front of the last character. -/
theorem after_text_narrow {b p : Position} {s t : List Char} (h : Names b s p)
    (hsplit : b.after s = ⟨p.line, p.column + 1⟩) (hn : '\n' ∉ t)
    (ht : t.getLast?.any fun c => unitsOf c = 1) :
    ∃ front d, t = front ++ [d] ∧ Names b (s ++ front) (p.after t) := by
  rcases List.eq_nil_or_concat t with rfl | ⟨front, d, rfl⟩
  · simp at ht
  rw [List.concat_eq_append] at hn ht ⊢
  refine ⟨front, d, rfl, ?_⟩
  cases h with
  | behind =>
    have hcol := congrArg Position.column hsplit
    exact absurd hcol (Nat.ne_of_lt (Nat.lt_succ_self _))
  | inside s wide =>
    rw [inside_after_narrow wide hn (by simpa using ht)]
    exact .behind _

end Names

namespace Source

/-- The current line of a place: what of it lies before the place, and the lines from it on. -/
theorem exists_current {done : List Char} {p : Position} (h : Names .origin done p)
    (behind : List Char) :
    ∃ start current, done = start ++ current ∧ '\n' ∉ current ∧ WholeLines start ∧
      p.line = newlineCount start + 1 ∧ Position.origin.after start = ⟨p.line, 1⟩ ∧
      Names ⟨p.line, 1⟩ current p ∧
      (ofText (done ++ behind)).linesFrom p.line = splitLines (current ++ behind) := by
  obtain ⟨start, current, rfl, hw, hc⟩ := exists_wholeLines done
  have hline : p.line = newlineCount start + 1 := by
    have hn : newlineCount current = 0 := List.count_eq_zero_of_not_mem hc
    have hl := h.line_eq
    simp only [newlineCount, List.count_append, Position.origin] at hl hn ⊢
    omega
  have hstart : Position.origin.after start = ⟨p.line, 1⟩ := by
    rw [Position.origin, hw.after, hline, Nat.add_comm]
  refine ⟨start, current, rfl, hc, hw, hline, hstart, hstart ▸ h.of_append hw, ?_⟩
  simp only [linesFrom, ofText, hline, Nat.add_sub_cancel, List.append_assoc]
  exact hw.drop_splitLines (current ++ behind)

theorem index_eq {done : List Char} {p : Position} (h : Names .origin done p)
    (behind : List Char) : (ofText (done ++ behind)).index p = done.length := by
  obtain ⟨start, current, rfl, hc, hw, hline, -, hp, hfrom⟩ := exists_current h behind
  obtain ⟨first, later, hb⟩ := exists_splitLines behind
  have hsplit := splitLines_append_of_notMem hc hb
  have hget : (ofText (start ++ current ++ behind)).line? p.line = some (current ++ first) := by
    simp only [linesFrom, hsplit, hline] at hfrom
    rw [line?, hline, if_neg (Nat.succ_ne_zero _), ← List.head?_drop]
    simpa using congrArg List.head? hfrom
  have hstart : (ofText (start ++ current ++ behind)).lineStart p.line = start.length := by
    simp only [lineStart, ofText, hline, Nat.add_sub_cancel, List.append_assoc]
    exact hw.totalLength_take (current ++ behind)
  rw [index, hget]
  simp only [hstart, hp.charsBefore_eq hc first, List.length_append]

end Source
end LiveMarkup
