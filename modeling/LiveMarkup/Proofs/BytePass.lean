import LiveMarkup.Proofs.Advance
import LiveMarkup.Proofs.ExactStream
import LiveMarkup.Proofs.Offsets
import LiveMarkup.Proofs.PassStates
import LiveMarkup.Reconcile.Bytes

/-! # The pass over stored text always has a result

The pass that cuts stored text at byte places never cuts it inside a character or in the wrong order, never
looks for a line that is not in the table, and never has a sum that does not fit into a word. It stays on
the lines of the source, and writes the same markup as the pass over characters.
-/
namespace LiveMarkup

theorem byteLength_toList (s : String) : byteLength s.toList = s.utf8ByteSize := by
  have hlist : ∀ cs : List Char, byteLength cs = (String.ofList cs).utf8ByteSize := by
    intro cs
    induction cs with
    | nil => simp
    | cons c cs ih =>
      rw [byteLength_cons, ih, String.ofList_cons, String.utf8ByteSize_append,
        String.utf8ByteSize_singleton]
  rw [hlist, String.ofList_toList]

/-! Cutting out -/

/-- The stretches between reserved characters are those between reserved bytes. -/
theorem escapeBytes?_eq_escapeCuts? (text buffer : List Char) (last place : Nat) (cs : List Char) :
    escapeBytes? text buffer last place (encodeUtf8 cs) =
      (escapeCuts? text last place cs).map (buffer ++ ·) := by
  induction cs generalizing buffer last place with
  | nil => rfl
  | cons c cs ih =>
    rw [escapeCuts?]
    cases hc : entityOf c with
    | none => rw [escapeBytes?_plain _ _ _ _ hc, ih]
    | some entity =>
      rw [escapeBytes?_reserved _ _ _ _ hc, utf8Size_of_entityOf hc]
      cases cutBytes? text last place with
      | none => rfl
      | some stretch =>
        rw [Option.bind_some, ih]
        cases escapeCuts? text (place + 1) (place + 1) cs with
        | none => rfl
        | some rest => simp

theorem escapeCuts?_all (text : List Char) : escapeCuts? text 0 0 text = some (escape text) := by
  have h := escapeBytes?_eq_escapeCuts? text [] 0 0 text
  rw [escapeBytes?_encodeUtf8] at h
  simpa using h.symm

theorem dropBytes?_byteColumn (line : List Char) (column : Nat) :
    dropBytes? line (byteColumn line column) = some (line.drop (charsBefore line (column - 1))) := by
  have h := dropBytes?_append (line.take (charsBefore line (column - 1)))
    (line.drop (charsBefore line (column - 1)))
  rwa [List.take_append_drop, ← byteColumn_eq] at h

/-- Two columns of a line, the second not in front of the first, cut out the characters between them. -/
theorem cutBytes?_byteColumn (line : List Char) {first last : Nat} (h : first ≤ last) :
    cutBytes? line (byteColumn line first) (byteColumn line last) =
      some ((line.take (charsBefore line (last - 1))).drop (charsBefore line (first - 1))) := by
  have hle : charsBefore line (first - 1) ≤ charsBefore line (last - 1) :=
    charsBefore_mono (by omega)
  have hfront : line.take (charsBefore line (first - 1)) ++
      (line.take (charsBefore line (last - 1))).drop (charsBefore line (first - 1)) =
        line.take (charsBefore line (last - 1)) := by
    conv_rhs => rw [← List.take_append_drop (charsBefore line (first - 1)) (line.take _),
      List.take_take, Nat.min_eq_left hle]
  rw [cutBytes?_eq_some_iff]
  refine ⟨line.take (charsBefore line (first - 1)), line.drop (charsBefore line (last - 1)), ?_,
    (byteColumn_eq ..).symm, ?_⟩
  · rw [hfront, List.take_append_drop]
  · rw [hfront, byteColumn_eq]

/-! Sums -/

/-- One more than the greatest number of bytes of a text in memory. -/
def textLimit : Nat := 2 ^ 63

theorem length_splitLines (s : List Char) : (splitLines s).length = newlineCount s + 1 := by
  induction s using line_induction with
  | flat s h => simp [splitLines_of_notMem h, newlineCount, List.count_eq_zero_of_not_mem h]
  | line s rest h ih => rw [splitLines_append_newline h, newlineCount_append_newline h,
      List.length_cons, ih]

namespace Source

variable {text : List Char}

/-- A position on a line of the source, at most one column behind the end of the line. -/
structure InRange (src : Source) (p : Position) : Prop where
  line_pos : 1 ≤ p.line
  line_le : p.line ≤ src.lines.length
  column_pos : 1 ≤ p.column
  column_le : ∀ line ∈ src.line? p.line, p.column ≤ utf16Length line + 1

theorem length_lines_lt (h : byteLength text < textLimit) :
    (ofText text).lines.length + 1 < wordSize := by
  have hcount := newlineCount_le_byteLength text
  have hlength : (ofText text).lines.length = newlineCount text + 1 := length_splitLines text
  have hlimit : textLimit + 2 < wordSize := by decide
  omega

theorem utf16Length_line_lt (h : byteLength text < textLimit) {n : Nat} {line : List Char}
    (hline : (ofText text).line? n = some line) : utf16Length line + 1 < wordSize := by
  obtain ⟨-, hget⟩ := line?_eq_some_iff.1 hline
  obtain ⟨behind, htext⟩ := exists_line_split hget
  have hbytes := congrArg byteLength htext
  have hunits := utf16Length_le_byteLength line
  have hlimit : textLimit + 2 < wordSize := by decide
  rw [byteLength_append, byteLength_append] at hbytes
  omega

/-- A position in range is on a line of the source and fits into two words. -/
theorem InRange.exists_line {p : Position} (hp : (ofText text).InRange p) :
    ∃ line, (ofText text).line? p.line = some line ∧ p.column ≤ utf16Length line + 1 := by
  have hlt : p.line - 1 < (ofText text).lines.length := by
    have := hp.line_pos
    have := hp.line_le
    omega
  have hline : (ofText text).line? p.line = some (ofText text).lines[p.line - 1] := by
    rw [line?, if_neg (Nat.ne_of_gt hp.line_pos), List.getElem?_eq_getElem hlt]
  exact ⟨_, hline, hp.column_le _ hline⟩

theorem InRange.fits (h : byteLength text < textLimit) {p : Position}
    (hp : (ofText text).InRange p) : p.Fits := by
  obtain ⟨line, hline, hcolumn⟩ := hp.exists_line
  have hlines := length_lines_lt h
  exact ⟨by have := hp.line_le; omega, hcolumn.trans_lt (utf16Length_line_lt h hline)⟩

/-- The name of a place in the source is in range. -/
theorem inRange_of_names {done : List Char} {p : Position} (h : Names .origin done p)
    (behind : List Char) : (ofText (done ++ behind)).InRange p := by
  obtain ⟨start, current, rfl, hc, -, hline, -, hp, hfrom⟩ := exists_current h behind
  obtain ⟨first, later, hb⟩ := exists_splitLines behind
  have hget : (ofText (start ++ current ++ behind)).line? p.line = some (current ++ first) := by
    rw [line?_eq_head?, hfrom, splitLines_append_of_notMem hc hb]
    rfl
  refine ⟨hline ▸ Nat.le_add_left _ _, le_length_of_line? hget, hp.column_pos le_rfl, ?_⟩
  rintro line hmem
  obtain rfl := Option.some.inj (hget.symm.trans hmem)
  have hcolumn := hp.column_le hc
  rw [utf16Length_append]
  omega

theorem inRange_nextLine {p : Position} (h : p.line < (ofText text).lines.length) :
    (ofText text).InRange ⟨p.line + 1, 1⟩ :=
  ⟨Nat.le_add_left _ _, h, le_rfl, fun _ _ => Nat.le_add_left _ _⟩

theorem line?_of_linesFrom {src : Source} {n : Nat} {line : List Char} {later : List (List Char)}
    (h : src.linesFrom n = line :: later) : src.line? n = some line := by
  rw [line?_eq_head?, h]
  rfl

theorem linesFrom_succ {src : Source} {n : Nat} {line : List Char} {later : List (List Char)}
    (h : src.linesFrom n = line :: later) :
    src.linesFrom (n + 1) = later ∧ src.lines.length = n + later.length := by
  have hn : n ≠ 0 := by
    rintro rfl
    simp [linesFrom] at h
  rw [linesFrom, if_neg hn] at h
  have hlength := congrArg List.length h
  rw [List.length_drop, List.length_cons] at hlength
  refine ⟨?_, by omega⟩
  have htail := congrArg List.tail h
  rwa [List.tail_drop, Nat.sub_add_cancel (Nat.pos_of_ne_zero hn)] at htail

end Source

namespace BytePass

variable {text : List Char} {bytes : BytePass}

/-- A pass has gone on to a position, writing a text on the way, and has not left the source. -/
structure Copies (src : Source) (before : BytePass) (text : List Char) (p : Position)
    (after : BytePass) : Prop where
  position : after.position = p
  markup : after.markup = before.markup ++ escape text
  rejected : after.rejected = before.rejected
  trail : ∀ q ∈ after.trail, q ∈ before.trail ∨ src.InRange q

theorem copy?_eq (bytes : BytePass) (text : List Char) :
    bytes.copy? text = some (bytes.write (escape text)) := by
  rw [copy?, escapeCuts?_all]
  rfl

theorem nextLine?_eq {p : Position} (h : p.line + 1 < wordSize) :
    p.nextLine? = some ⟨p.line + 1, 1⟩ := by
  rw [Position.nextLine?, addWord?_of_lt h]
  rfl

theorem Copies.trans {src : Source} {first second third : BytePass} {s t : List Char}
    {p q : Position} (h : Copies src first s p second) (h' : Copies src second t q third) :
    Copies src first (s ++ t) q third := by
  refine ⟨h'.position, ?_, h'.rejected.trans h.rejected, fun r hr => ?_⟩
  · rw [h'.markup, h.markup, escape_append, List.append_assoc]
  · exact (h'.trail r hr).elim (h.trail r) Or.inr

theorem write_line_feed (bytes : BytePass) (s : List Char) :
    (bytes.write (escape s)).write ['\n'] = bytes.write (escape (s ++ ['\n'])) := by
  have hfeed : escape ['\n'] = ['\n'] := by decide
  simp only [write, escape_append, hfeed, List.append_assoc]

theorem copies_move {src : Source} (h : src.InRange bytes.position) (text : List Char) (p : Position) :
    Copies src bytes text p ((bytes.write (escape text)).moveTo p) := by
  refine ⟨rfl, rfl, rfl, fun q hq => ?_⟩
  rcases List.mem_cons.1 hq with rfl | hq
  · exact Or.inr h
  · exact Or.inl hq

section
variable {target : Position} {line : List Char} {later : List (List Char)}

theorem fillGap?_here (hsize : byteLength text < textLimit)
    (hp : (Source.ofText text).InRange bytes.position)
    (hfrom : (Source.ofText text).linesFrom bytes.position.line = line :: later)
    (hbelow : ¬bytes.position.line < target.line) :
    let reached := textUpTo target (line :: later) bytes.position
    ∃ filled, bytes.fillGap? (.ofText text) target = some filled ∧
      Copies (.ofText text) bytes reached.1 reached.2 filled := by
  have hget := Source.line?_of_linesFrom hfrom
  by_cases hlt : bytes.position < target
  · have hcolumn : bytes.position.column < target.column := by
      rcases hlt with h | h
      · exact absurd h hbelow
      · exact h.2
    have hend := Source.utf16Length_line_lt hsize hget
    have hstop : bytes.position.column ≤ min target.column (utf16Length line + 1) :=
      le_min hcolumn.le (hp.column_le line hget)
    rw [fillGap?, textUpTo, if_pos hlt, if_pos hlt]
    simp only [hget, if_neg hbelow, addWord?_of_lt hend, Option.bind_eq_bind, Option.bind_some,
      cutBytes?_byteColumn line hstop, copy?_eq]
    exact ⟨_, rfl, copies_move hp _ _⟩
  · rw [fillGap?, textUpTo, if_neg hlt, if_neg hlt]
    exact ⟨bytes, rfl, rfl, by simp, rfl, fun q hq => Or.inl hq⟩

theorem fillGap?_spec (hsize : byteLength text < textLimit) (target : Position)
    (hp : (Source.ofText text).InRange bytes.position)
    (hfrom : (Source.ofText text).linesFrom bytes.position.line = line :: later) :
    let reached := textUpTo target (line :: later) bytes.position
    ∃ filled, bytes.fillGap? (.ofText text) target = some filled ∧
      Copies (.ofText text) bytes reached.1 reached.2 filled := by
  -- over the lines below: a further line is entered at its start
  induction later generalizing bytes line with
  | nil =>
    by_cases hbelow : bytes.position.line < target.line
    · have hget := Source.line?_of_linesFrom hfrom
      have hend := Source.utf16Length_line_lt hsize hget
      have hlast : ¬bytes.position.line < (Source.ofText text).lines.length := by
        rw [(Source.linesFrom_succ hfrom).2]
        exact Nat.lt_irrefl _
      have hlt : bytes.position < target := Or.inl hbelow
      rw [fillGap?, textUpTo, if_pos hlt, if_pos hlt]
      simp only [hget, if_pos hbelow, if_neg hlast, addWord?_of_lt hend, Option.bind_eq_bind,
        Option.bind_some, dropBytes?_byteColumn, copy?_eq]
      exact ⟨_, rfl, copies_move hp _ _⟩
    · exact fillGap?_here hsize hp hfrom hbelow
  | cons next later ih =>
    by_cases hbelow : bytes.position.line < target.line
    · have hget := Source.line?_of_linesFrom hfrom
      have hend := Source.utf16Length_line_lt hsize hget
      obtain ⟨hnext, hlength⟩ := Source.linesFrom_succ hfrom
      have hmore : bytes.position.line < (Source.ofText text).lines.length := by
        rw [hlength, List.length_cons]
        omega
      have hlt : bytes.position < target := Or.inl hbelow
      have hword := nextLine?_eq (p := bytes.position)
        ((Nat.succ_le_of_lt hmore).trans_lt (Nat.lt_of_succ_lt (Source.length_lines_lt hsize)))
      rw [fillGap?, textUpTo, if_pos hlt, if_pos hlt]
      simp only [hget, if_pos hbelow, if_pos hmore, addWord?_of_lt hend, Option.bind_eq_bind,
        Option.bind_some, dropBytes?_byteColumn, copy?_eq, write_line_feed]
      split
      next hnone => simp [hword] at hnone
      next entered hentered =>
        obtain rfl := Option.some.inj (hword.symm.trans hentered)
        have hmove := copies_move hp
          (line.drop (charsBefore line (bytes.position.column - 1)) ++ ['\n'])
          ⟨bytes.position.line + 1, 1⟩
        obtain ⟨filled, hfill, hcopies⟩ :=
          @ih _ next (hmove.position ▸ Source.inRange_nextLine hmore) (hmove.position ▸ hnext)
        refine ⟨filled, hfill, ?_⟩
        have hboth := hmove.trans hcopies
        rwa [List.append_assoc] at hboth
    · exact fillGap?_here hsize hp hfrom hbelow

end

theorem writeToken?_eq (styles : StyleMap) (bytes : BytePass) (token : Token) :
    bytes.writeToken? styles token =
      some (bytes.write (Pass.fragmentOf styles token).markup) := by
  rw [Pass.markup_fragmentOf, wrapped, writeToken?]
  cases styles.nameFor token.kind with
  | none => exact copy?_eq bytes token.text.toList
  | some name =>
    simp only [copy?_eq, Option.map_some, write, List.append_assoc]

/-- The pass over stored text has come as far as a pass over characters. -/
structure Mirrors (src : Source) (pass : Pass) (bytes : BytePass) : Prop where
  position : bytes.position = pass.position
  markup : bytes.markup = pass.markup
  rejected : bytes.rejected = pass.rejected
  trail : ∀ p ∈ bytes.trail, src.InRange p

theorem mirrors_start (src : Source) : Mirrors src {} {} := ⟨rfl, rfl, rfl, by simp⟩

end BytePass

theorem Pass.markup_push (pass : Pass) (p : Position) (f : Fragment) :
    markup { pass with position := p, fragments := f :: pass.fragments } =
      pass.markup ++ f.markup := by
  simp [markup]

theorem Pass.flatMap_markup_finish (src : Source) (pass : Pass) :
    (pass.finish src).flatMap Fragment.markup =
      pass.markup ++ escape (remainder src pass.position) := by
  simp [finish, markup, Fragment.markup]

theorem Pass.Follows.inRange {text : List Char} {pass : Pass} {extra : Nat}
    (h : Follows text pass extra) : (Source.ofText text).InRange pass.position := by
  obtain ⟨done, behind, rfl, hnames, -⟩ := h
  exact Source.inRange_of_names hnames behind

namespace BytePass

section
variable {text : List Char} {pass : Pass} {bytes : BytePass} {extra : Nat}

theorem Mirrors.fillGap (hsize : byteLength text < textLimit) (h : Mirrors (.ofText text) pass bytes)
    (hpass : Pass.Follows text pass extra) (target : Position) :
    ∃ filled, bytes.fillGap? (.ofText text) target = some filled ∧
      Mirrors (.ofText text) (pass.fillGap (.ofText text) target) filled := by
  by_cases hlt : pass.position < target
  · have hp := h.position ▸ hpass.inRange
    obtain ⟨line, hline, -⟩ := hp.exists_line
    obtain ⟨later, hfrom⟩ : ∃ later,
        (Source.ofText text).linesFrom bytes.position.line = line :: later := by
      rw [Source.line?_eq_head?, List.head?_eq_some_iff] at hline
      exact hline
    obtain ⟨filled, hfill, hcopies⟩ := fillGap?_spec hsize target hp hfrom
    rw [← hfrom, h.position] at hcopies
    refine ⟨filled, hfill, ?_⟩
    rw [Pass.fillGap, if_pos hlt]
    refine ⟨hcopies.position, ?_, hcopies.rejected.trans h.rejected, fun p hmem => ?_⟩
    · rw [hcopies.markup, h.markup, Pass.markup_push]
      rfl
    · exact (hcopies.trail p hmem).elim (h.trail p) id
  · rw [Pass.fillGap, if_neg hlt, fillGap?, if_neg (h.position ▸ hlt)]
    exact ⟨bytes, rfl, h⟩

/-- What a token does to the pass over stored text, said with the pass over characters. -/
theorem emit?_eq (hp : bytes.position = pass.position) (styles : StyleMap) {token : Token}
    (ht : token.text ≠ "") : bytes.emit? (.ofText text) styles token =
      if pass.accepts (.ofText text) token then
        (pass.position.advance? token.text.toList).map
          (bytes.write (Pass.fragmentOf styles token).markup).moveTo
      else some { bytes with rejected := bytes.rejected + 1 } := by
  have hrest := Source.dropBytes?_offset text pass.position
  obtain ⟨place, hplace, hdrop⟩ := Option.bind_eq_some_iff.1 hrest
  have htext : dropBytes? (Source.ofText text).text place = some _ := hdrop
  rw [emit?, if_neg ht, hp]
  simp only [hplace, htext, writeToken?_eq, Option.bind_eq_bind, Option.bind_some]
  by_cases haccepts : pass.accepts (.ofText text) token
  · have hstarts : token.text.toList.isPrefixOf
        (text.drop ((Source.ofText text).index pass.position)) = true := haccepts
    rw [if_pos hstarts, if_pos haccepts]
    cases pass.position.advance? token.text.toList <;> rfl
  · have hstarts : ¬token.text.toList.isPrefixOf
        (text.drop ((Source.ofText text).index pass.position)) = true := haccepts
    rw [if_neg hstarts, if_neg haccepts]

theorem Mirrors.emit (hsize : byteLength text < textLimit) (h : Mirrors (.ofText text) pass bytes)
    (hpass : Pass.Follows text pass extra) (styles : StyleMap) (token : Token) :
    ∃ emitted, bytes.emit? (.ofText text) styles token = some emitted ∧
      Mirrors (.ofText text) (pass.emit (.ofText text) styles token) emitted := by
  by_cases hempty : token.text = ""
  · rw [emit?, Pass.emit, if_pos hempty, if_pos hempty]
    exact ⟨bytes, rfl, h⟩
  rw [emit?_eq h.position styles hempty]
  by_cases haccepts : pass.accepts (.ofText text) token
  · have hbehind := (hpass.emit styles token).inRange
    rw [Pass.emit_of_accepts styles hempty haccepts] at hbehind ⊢
    have hnext : pass.position.advance? token.text.toList =
        some (pass.position.after token.text.toList) :=
      (Position.advance?_eq_some_iff (hpass.inRange.fits hsize) _).2 ⟨rfl, hbehind.fits hsize⟩
    rw [if_pos haccepts, hnext]
    refine ⟨_, rfl, rfl, ?_, h.rejected, ?_⟩
    · rw [Pass.markup_push, ← h.markup]
      rfl
    · intro p hmem
      rcases List.mem_cons.1 hmem with rfl | hmem
      · exact h.position ▸ hpass.inRange
      · exact h.trail p hmem
  · rw [if_neg haccepts, Pass.emit, if_neg hempty, if_neg haccepts]
    exact ⟨_, rfl, h.position, h.markup, congrArg (· + 1) h.rejected, h.trail⟩

theorem Mirrors.step (hsize : byteLength text < textLimit) (h : Mirrors (.ofText text) pass bytes)
    (hpass : Pass.Follows text pass extra) (styles : StyleMap) (token : Token) :
    ∃ next, bytes.step? (.ofText text) styles token = some next ∧
      Mirrors (.ofText text) (pass.step (.ofText text) styles token) next := by
  obtain ⟨filled, hfill, hfilled⟩ := h.fillGap hsize hpass token.start
  obtain ⟨emitted, hemit, hemitted⟩ := hfilled.emit hsize (hpass.fillGap token.start) styles token
  exact ⟨emitted, by simp only [step?, hfill, Option.bind_eq_bind, Option.bind_some, hemit], hemitted⟩

/-- A whole run, by induction on the tokens. -/
theorem Mirrors.foldlM (hsize : byteLength text < textLimit) (h : Mirrors (.ofText text) pass bytes)
    (hpass : Pass.Follows text pass extra) (styles : StyleMap) (tokens : List Token) :
    ∃ last, tokens.foldlM (step? (.ofText text) styles) bytes = some last ∧
      Mirrors (.ofText text) (tokens.foldl (Pass.step (.ofText text) styles) pass) last := by
  induction tokens generalizing pass bytes extra with
  | nil => exact ⟨bytes, rfl, h⟩
  | cons token tokens ih =>
    obtain ⟨next, hstep, hnext⟩ := h.step hsize hpass styles token
    obtain ⟨last, hrun, hlast⟩ := ih hnext (hpass.step styles token)
    refine ⟨last, ?_, hlast⟩
    rw [List.foldlM_cons, hstep]
    exact hrun

end

section
variable {text line : List Char} {later : List (List Char)} {bytes : BytePass}

theorem flush?_below {src : Source} (h : src.line? bytes.position.line = none) :
    bytes.flush? src = some bytes := by
  rw [flush?]
  split
  next => rfl
  next hline => simp [h] at hline

/-- One turn: the rest of the line is copied, with a line feed if there is another line. -/
theorem flush?_line (hsize : byteLength text < textLimit)
    (hfrom : (Source.ofText text).linesFrom bytes.position.line = line :: later) :
    let rest := line.drop (charsBefore line (bytes.position.column - 1))
    bytes.flush? (.ofText text) =
      ((bytes.write (escape (if later = [] then rest else rest ++ ['\n']))).moveTo
        ⟨bytes.position.line + 1, 1⟩).flush? (.ofText text) := by
  intro rest
  have hget := Source.line?_of_linesFrom hfrom
  have hlength := (Source.linesFrom_succ hfrom).2
  have hword := nextLine?_eq (p := bytes.position) (by
    have := Source.length_lines_lt hsize
    omega)
  conv_lhs => rw [flush?]
  split
  next hnone => simp [hget] at hnone
  next found hfound =>
    obtain rfl := Option.some.inj (hget.symm.trans hfound)
    simp only [dropBytes?_byteColumn, copy?_eq, Option.bind_eq_bind, Option.bind_some,
      write_line_feed]
    split
    next hnone => simp [hword] at hnone
    next entered hentered =>
      obtain rfl := Option.some.inj (hword.symm.trans hentered)
      cases later with
      | nil =>
        rw [List.length_nil, Nat.add_zero] at hlength
        rw [if_pos rfl, if_neg (hlength ▸ Nat.lt_irrefl _)]
      | cons next later =>
        rw [List.length_cons] at hlength
        rw [if_neg (List.cons_ne_nil _ _), if_pos (by omega)]

/-- The rest of the source is copied behind what has been written before. -/
theorem flush?_spec (hsize : byteLength text < textLimit)
    (hfrom : (Source.ofText text).linesFrom bytes.position.line = line :: later) :
    ∃ done, bytes.flush? (.ofText text) = some done ∧ done.rejected = bytes.rejected ∧
      done.markup = bytes.markup ++
        escape (joinLines (line.drop (charsBefore line (bytes.position.column - 1)) :: later)) := by
  -- over the lines below, each of which is entered at its start
  induction later generalizing bytes line with
  | nil =>
    have hbelow : (Source.ofText text).line? (bytes.position.line + 1) = none := by
      rw [Source.line?_eq_head?, (Source.linesFrom_succ hfrom).1]
      rfl
    rw [flush?_line hsize hfrom, if_pos rfl, flush?_below hbelow]
    exact ⟨_, rfl, rfl, rfl⟩
  | cons next later ih =>
    obtain ⟨hnext, -⟩ := Source.linesFrom_succ hfrom
    rw [flush?_line hsize hfrom, if_neg (List.cons_ne_nil _ _)]
    obtain ⟨done, hflush, hrejected, hmarkup⟩ := @ih next
      ((bytes.write (escape (line.drop (charsBefore line (bytes.position.column - 1)) ++
        ['\n']))).moveTo ⟨bytes.position.line + 1, 1⟩) hnext
    refine ⟨done, hflush, hrejected, ?_⟩
    rw [hmarkup]
    simp [write, moveTo, joinLines, escape_append]

end

end BytePass

/-- The pass over stored text has a result for every text that fits into memory and every list of
tokens: no cut is outside the boundaries of the text that is cut, no line is missing in the table, and no
sum exceeds a word. Every position that it goes through before the rest of the source is copied is on a
line of the source, and its markup and its number of dropped tokens are those of the pass over
characters. -/
theorem bytePass_total (source : String) (tokens : List Token) (styles : StyleMap)
    (hsize : source.utf8ByteSize < textLimit) :
    let src := Source.ofText source.toList
    ∃ last done, BytePass.run? src styles tokens = some last ∧
      (∀ p ∈ last.position :: last.trail, src.InRange p) ∧
      last.flush? src = some done ∧ String.ofList done.markup = reconcile source tokens styles ∧
      done.rejected = rejectedCount source tokens styles := by
  intro src
  rw [← byteLength_toList] at hsize
  have hstart := Pass.follows_start source.toList
  obtain ⟨last, hrun, hlast⟩ := (BytePass.mirrors_start src).foldlM hsize hstart styles tokens
  have hinRange := (hstart.foldl styles tokens).inRange
  obtain ⟨line, hline, -⟩ := hinRange.exists_line
  obtain ⟨later, hfrom⟩ : ∃ later, src.linesFrom last.position.line = line :: later := by
    rw [Source.line?_eq_head?, List.head?_eq_some_iff] at hline
    exact hlast.position ▸ hline
  obtain ⟨done, hflush, hrejected, hmarkup⟩ := BytePass.flush?_spec hsize hfrom
  refine ⟨last, done, hrun, ?_, hflush, ?_, hrejected.trans hlast.rejected⟩
  · intro p hmem
    rcases List.mem_cons.1 hmem with rfl | hmem
    · exact hlast.position ▸ hinRange
    · exact hlast.trail p hmem
  · have hrest : Pass.remainder src (Pass.run src styles tokens).position =
        joinLines (line.drop (charsBefore line (last.position.column - 1)) :: later) := by
      rw [Pass.run, ← hlast.position, Pass.remainder, hfrom]
    rw [hmarkup, ← hrest, hlast.markup, reconcile, fragments, Pass.flatMap_markup_finish]
    rfl

/-- Tokens in column zero, inside the emoji, behind the end of a line, below the last line and on line
zero, one of them taken inside the emoji, and coordinates at the end of a word. -/
theorem bytePass_total_drifting :
    let source := "é😀<b\n\nc"
    let tokens : List Token := [⟨.text, "é", 1, 0⟩, ⟨.value, "<", 1, 3⟩, ⟨.comment, "b\n\n", 3, 5⟩,
      ⟨.text, "zz", 0, 7⟩, ⟨.identifier, "c", 2, 18446744073709551615⟩,
      ⟨.colon, ":", 18446744073709551615, 4⟩]
    let src := Source.ofText source.toList
    source.utf8ByteSize < textLimit ∧
    ∃ last done, BytePass.run? src .default tokens = some last ∧
      (∀ p ∈ last.position :: last.trail, src.InRange p) ∧
      last.flush? src = some done ∧ String.ofList done.markup = reconcile source tokens .default ∧
      done.rejected = rejectedCount source tokens .default := by
  intro source tokens src
  have hsize : source.utf8ByteSize < textLimit := by decide
  exact ⟨hsize, bytePass_total source tokens .default hsize⟩

end LiveMarkup
