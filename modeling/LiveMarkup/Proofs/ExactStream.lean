import LiveMarkup.Proofs.RoundTrip

/-! # Streams with exact positions

A source is cut into gaps and tokens, and every token carries the coordinates of its place. A pass over
such a stream takes every token where it stands, so the markup is the gaps and the wrapped tokens in
order.
-/
namespace LiveMarkup

/-- A gap and the token behind it. -/
structure Piece where
  gap : String
  kind : TokenKind
  text : String
  nonempty : text ≠ ""

namespace Piece

def chars (piece : Piece) : List Char := piece.gap.toList ++ piece.text.toList

/-- The token of a piece that starts at a position. -/
def tokenAt (p : Position) (piece : Piece) : Token :=
  let start := p.after piece.gap.toList
  .startingAt piece.kind piece.text start.line start.column

@[simp] theorem start_tokenAt (p : Position) (piece : Piece) :
    (piece.tokenAt p).start = p.after piece.gap.toList := by
  simp [tokenAt, Token.start, Token.startLine, Token.startingAt, Token.newlines]

@[simp] theorem text_tokenAt (p : Position) (piece : Piece) :
    (piece.tokenAt p).text = piece.text := rfl

@[simp] theorem kind_tokenAt (p : Position) (piece : Piece) :
    (piece.tokenAt p).kind = piece.kind := rfl

/-- The tokens of pieces that follow one another from a position on. -/
def tokens : Position → List Piece → List Token
  | _, [] => []
  | p, piece :: rest => piece.tokenAt p :: tokens (p.after piece.chars) rest

/-- The source made of pieces and what follows the last token. -/
def source (pieces : List Piece) (last : String) : String :=
  String.ofList (pieces.flatMap chars ++ last.toList)

end Piece

/-- The text of a token as it is shown: in the span of its class, or bare if it has none. -/
def wrapped (styles : StyleMap) (kind : TokenKind) (text : List Char) : List Char :=
  match styles.nameFor kind with
  | some name => Fragment.openTag name ++ escape text ++ Fragment.closeTag
  | none => escape text

def Piece.markup (styles : StyleMap) (piece : Piece) : List Char :=
  escape piece.gap.toList ++ wrapped styles piece.kind piece.text.toList

/-- The kinds without a class are those outside the vocabulary. -/
theorem StyleMap.nameFor_eq_none_iff (styles : StyleMap) (kind : TokenKind) :
    styles.nameFor kind = none ↔ ∃ tag, kind = .other tag := by
  cases kind <;> simp [nameFor, StyleClass.ofKind?]

/-- A gap between two places of the source is filled with the text between them. -/
theorem textUpTo_exact {gap current rest first : List Char} {later : List (List Char)} (line : Nat)
    (hc : '\n' ∉ current) (hb : splitLines (gap ++ rest) = first :: later) :
    textUpTo (Position.after ⟨line, 1⟩ (current ++ gap)) ((current ++ first) :: later)
      (Position.after ⟨line, 1⟩ current) = (gap, Position.after ⟨line, 1⟩ (current ++ gap)) := by
  -- over the lines of the gap: behind a line feed nothing of the line has been shown yet
  induction gap using line_induction generalizing current first later line with
  | flat gap hgap =>
    obtain ⟨end_, more, hrest⟩ := exists_splitLines rest
    rw [splitLines_append_of_notMem hgap hrest] at hb
    obtain ⟨rfl, rfl⟩ := List.cons.inj hb
    have hflat : '\n' ∉ current ++ gap := by simp [hc, hgap]
    by_cases hg : gap = []
    · subst hg
      rw [List.append_nil, textUpTo, if_neg (Position.lt_irrefl _)]
    · have hlt : Position.after ⟨line, 1⟩ current < Position.after ⟨line, 1⟩ (current ++ gap) := by
        rw [Position.after_append]
        exact Position.lt_after hg _
      have hstop : min (1 + utf16Length (current ++ gap))
          (utf16Length (current ++ (gap ++ end_)) + 1) = 1 + utf16Length (current ++ gap) := by
        simp only [utf16Length_append]
        omega
      have hfrom := charsBefore_utf16Length current (gap ++ end_)
      have hto := charsBefore_utf16Length (current ++ gap) end_
      rw [List.append_assoc] at hto
      rw [textUpTo, if_pos hlt]
      simp only [Position.after_of_notMem hc, Position.after_of_notMem hflat, Nat.lt_irrefl,
        if_false, hstop, Nat.add_sub_cancel_left, hfrom, hto]
      rw [← List.append_assoc, List.take_left, List.drop_left]
  | line gap more hgap ih =>
    rw [List.append_assoc, List.cons_append, splitLines_append_newline hgap] at hb
    obtain ⟨rfl, rfl⟩ := List.cons.inj hb
    obtain ⟨next, later, hnext⟩ := exists_splitLines (more ++ rest)
    have hflat : '\n' ∉ current ++ gap := by simp [hc, hgap]
    have hend : Position.after ⟨line, 1⟩ (current ++ (gap ++ '\n' :: more)) =
        Position.after ⟨line + 1, 1⟩ more := by
      rw [← List.append_assoc, Position.after_append, Position.after_cons,
        Position.after_of_notMem hflat, Position.afterChar_newline]
    have hline : line < (Position.after ⟨line + 1, 1⟩ more).line := by
      rw [Position.line_after]
      exact Nat.lt_of_lt_of_le (Nat.lt_succ_self line) (Nat.le_add_right _ _)
    have hmore : textUpTo (Position.after ⟨line + 1, 1⟩ more) (next :: later) ⟨line + 1, 1⟩ =
        (more, Position.after ⟨line + 1, 1⟩ more) :=
      ih (line + 1) List.not_mem_nil hnext
    have hlt : Position.after ⟨line, 1⟩ current < Position.after ⟨line + 1, 1⟩ more := by
      rw [Position.after_of_notMem hc]
      exact Or.inl hline
    rw [hend, hnext, textUpTo, if_pos hlt]
    simp only [Position.after_of_notMem hc, if_pos hline, Nat.add_sub_cancel_left,
      charsBefore_utf16Length current gap, List.drop_left, hmore]

namespace Pass

theorem markup_fragmentOf (styles : StyleMap) (token : Token) :
    (fragmentOf styles token).markup = wrapped styles token.kind token.text.toList := by
  unfold fragmentOf wrapped
  cases styles.nameFor token.kind with
  | none => rfl
  | some name => rfl

/-- A pass is exactly behind `done`, has produced `markup`, and has dropped no token. -/
structure Exact (done markup : List Char) (pass : Pass) : Prop where
  position : pass.position = Position.origin.after done
  produced : pass.fragments.reverse.flatMap Fragment.markup = markup
  rejected : pass.rejected = 0

theorem exact_start : Exact [] [] {} := ⟨rfl, rfl, rfl⟩

/-- The text between the place reached and a later one is copied, and the later place is reached. -/
theorem Exact.fillGap {done markup : List Char} {pass : Pass} (h : Exact done markup pass)
    (gap rest : List Char) :
    Exact (done ++ gap) (markup ++ escape gap)
      (pass.fillGap (.ofText (done ++ (gap ++ rest))) (Position.origin.after (done ++ gap))) := by
  unfold Pass.fillGap
  by_cases hlt : pass.position < Position.origin.after (done ++ gap)
  · obtain ⟨start, current, rfl, hc, -, -, hstart, -, hfrom⟩ :=
      Source.exists_current (Names.behind done) (gap ++ rest)
    obtain ⟨first, later, hb⟩ := exists_splitLines (gap ++ rest)
    rw [← h.position] at hstart hfrom
    have hexact := textUpTo_exact pass.position.line hc hb
    rw [← hstart, ← Position.after_append, ← Position.after_append, ← List.append_assoc,
      ← h.position, ← splitLines_append_of_notMem hc hb, ← hfrom] at hexact
    rw [if_pos hlt, hexact]
    exact ⟨rfl, by simp [Fragment.markup, ← h.produced], h.rejected⟩
  · have hgap : gap = [] := by
      by_contra hg
      rw [h.position, Position.after_append] at hlt
      exact hlt (Position.lt_after hg _)
    rw [if_neg hlt, hgap]
    simpa using h

theorem Exact.emit {done markup : List Char} {pass : Pass} (h : Exact done markup pass)
    (token : Token) (ht : token.text ≠ "") (styles : StyleMap) (rest : List Char) :
    Exact (done ++ token.text.toList)
      (markup ++ wrapped styles token.kind token.text.toList)
      (pass.emit (.ofText (done ++ (token.text.toList ++ rest))) styles token) := by
  have ha : pass.accepts (.ofText (done ++ (token.text.toList ++ rest))) token :=
    (accepts_iff (h.position ▸ .behind done)).2 (List.prefix_append _ _)
  rw [emit_of_accepts styles ht ha]
  refine ⟨?_, ?_, h.rejected⟩
  · rw [h.position, Position.after_append]
  · simp [markup_fragmentOf, ← h.produced]

theorem Exact.step {done markup : List Char} {pass : Pass} (h : Exact done markup pass)
    (styles : StyleMap) (piece : Piece) (rest : List Char) :
    Exact (done ++ piece.chars) (markup ++ piece.markup styles)
      (pass.step (.ofText (done ++ (piece.chars ++ rest))) styles
        (piece.tokenAt (Position.origin.after done))) := by
  have hgap := h.fillGap piece.gap.toList (piece.text.toList ++ rest)
  have htoken := hgap.emit (piece.tokenAt (Position.origin.after done)) piece.nonempty styles rest
  simp only [Pass.step, Piece.start_tokenAt, ← Position.after_append, Piece.chars, Piece.markup,
    ← List.append_assoc]
  simpa only [Piece.text_tokenAt, Piece.kind_tokenAt, List.append_assoc] using htoken

/-- A run over pieces, by induction on them. -/
theorem Exact.foldl {done markup : List Char} {pass : Pass} (h : Exact done markup pass)
    (styles : StyleMap) (pieces : List Piece) (rest : List Char) :
    Exact (done ++ pieces.flatMap Piece.chars) (markup ++ pieces.flatMap (Piece.markup styles))
      ((Piece.tokens (Position.origin.after done) pieces).foldl
        (Pass.step (.ofText (done ++ (pieces.flatMap Piece.chars ++ rest))) styles) pass) := by
  induction pieces generalizing done markup pass with
  | nil => simpa [Piece.tokens] using h
  | cons piece pieces ih =>
    have hstep := h.step styles piece (pieces.flatMap Piece.chars ++ rest)
    have hrest := ih hstep
    simp only [List.flatMap_cons, Piece.tokens, List.foldl_cons, ← Position.after_append]
    simpa only [List.append_assoc] using hrest

theorem Exact.finish {done markup : List Char} {pass : Pass} (h : Exact done markup pass)
    (rest : List Char) :
    (pass.finish (.ofText (done ++ rest))).flatMap Fragment.markup = markup ++ escape rest := by
  have hrest : remainder (.ofText (done ++ rest)) pass.position = rest :=
    remainder_eq (h.position ▸ .behind done) rest
  simp [Pass.finish, hrest, Fragment.markup, ← h.produced]

end Pass

/-- Over a source cut into gaps and tokens no token is dropped, and the markup is the escaped gaps and
the tokens in the spans of their classes. Only a kind outside the vocabulary has no class. -/
theorem reconcile_pieces (pieces : List Piece) (last : String) (styles : StyleMap) :
    reconcile (Piece.source pieces last) (Piece.tokens .origin pieces) styles =
        String.ofList (pieces.flatMap (Piece.markup styles) ++ escape last.toList) ∧
      rejectedCount (Piece.source pieces last) (Piece.tokens .origin pieces) styles = 0 ∧
      ∀ kind, styles.nameFor kind = none ↔ ∃ tag, kind = .other tag := by
  have h := Pass.exact_start.foldl styles pieces last.toList
  simp only [List.nil_append, Position.after_nil] at h
  have hsource : (Piece.source pieces last).toList = pieces.flatMap Piece.chars ++ last.toList :=
    String.toList_ofList
  refine ⟨?_, ?_, styles.nameFor_eq_none_iff⟩
  · rw [reconcile, fragments, hsource]
    exact congrArg String.ofList (h.finish last.toList)
  · rw [rejectedCount, hsource]
    exact h.rejected

example : reconcile "a\nb😀c" [.startingAt .text "b😀" 2 1, .startingAt (.other "x") "c" 2 4] .default =
    "a\n<span class=\"token-text\">b😀</span>c" := by
  decide +kernel

end LiveMarkup
