import LiveMarkup.Proofs.Place
import LiveMarkup.Proofs.VisibleText

/-! # What a pass does to the source text

A pass shows every character of the source in order, whatever the tokens are. It shows a character twice
when a token is taken at a position inside another character, has no line feed, and ends in a character
of one unit: the position behind such a token is in front of its last character. Nothing else is shown
twice, so the visible text is the source exactly when there is no such token.
-/
namespace LiveMarkup

/-- Whether a position lies inside a character: the place it is resolved to is one column further. -/
def Source.Splits (src : Source) (p : Position) : Prop :=
  Position.origin.after (src.text.take (src.index p)) = ⟨p.line, p.column + 1⟩

instance (src : Source) (p : Position) : Decidable (src.Splits p) :=
  inferInstanceAs (Decidable (_ = _))

theorem Source.splits_iff {done : List Char} {p : Position} (h : Names .origin done p)
    (behind : List Char) :
    (ofText (done ++ behind)).Splits p ↔ Position.origin.after done = ⟨p.line, p.column + 1⟩ := by
  unfold Splits
  rw [index_eq h]
  simp [ofText]

/-- The rest of a line up to a column behind the current one, clamped to the end of the line. -/
theorem gap_on_line {p : Position} {current first : List Char} {column : Nat}
    (hline : '\n' ∉ current ++ first) (hp : Names ⟨p.line, 1⟩ current p) (hlt : p.column < column) :
    ∃ gap, gap <+: first ∧
      ((current ++ first).take (charsBefore (current ++ first)
        (min column (utf16Length (current ++ first) + 1) - 1))).drop current.length = gap ∧
      Names ⟨p.line, 1⟩ (current ++ gap)
        ⟨p.line, min column (utf16Length (current ++ first) + 1)⟩ := by
  have hc : '\n' ∉ current := fun m => hline (List.mem_append_left _ m)
  have hpos := hp.column_pos le_rfl
  have hle : p.column ≤ utf16Length (current ++ first) + 1 := by
    have := hp.column_le hc
    rw [utf16Length_append]
    omega
  set stop := min column (utf16Length (current ++ first) + 1) with hstop
  have hk : current.length ≤ charsBefore (current ++ first) (stop - 1) := by
    rw [← hp.charsBefore_eq hc first]
    exact charsBefore_mono (by omega)
  have htake : (current ++ first).take (charsBefore (current ++ first) (stop - 1)) =
      current ++ first.take (charsBefore (current ++ first) (stop - 1) - current.length) := by
    rw [List.take_append, List.take_of_length_le hk]
  refine ⟨first.take (charsBefore (current ++ first) (stop - 1) - current.length),
    List.take_prefix _ _, ?_, ?_⟩
  · rw [htake, List.drop_left]
  · rw [← htake]
    exact Names.take_charsBefore hline (by omega) (by omega)

/-- A step from one place to a later one: the text between them and the position reached, which is where
the pass stood, the target, or the position behind the text. -/
def Bridges (current behind : List Char) (p target : Position) (reached : List Char × Position) :
    Prop :=
  reached.1 <+: behind ∧ Names ⟨p.line, 1⟩ (current ++ reached.1) reached.2 ∧
    (reached = ([], p) ∨ reached.2 = target ∨
      reached.2 = Position.after ⟨p.line, 1⟩ (current ++ reached.1))

section
variable {target p : Position} {current behind first : List Char} {later : List (List Char)}

theorem textUpTo_here (hc : '\n' ∉ current) (hb : splitLines behind = first :: later)
    (hp : Names ⟨p.line, 1⟩ current p) (hline : ¬p.line < target.line) :
    Bridges current behind p target (textUpTo target ((current ++ first) :: later) p) := by
  by_cases hlt : p < target
  · obtain ⟨hfirst, tail, rfl⟩ := splitLines_first hb
    have hcol : p.column < target.column := by
      rcases hlt with h | h
      · exact absurd h hline
      · exact h.2
    have hflat : '\n' ∉ current ++ first := by simp [hc, hfirst]
    obtain ⟨gap, hgap, hdrop, hnames⟩ := gap_on_line hflat hp hcol
    rw [textUpTo]
    simp only [if_pos hlt, if_neg hline, hp.charsBefore_eq hc first, hdrop]
    refine ⟨hgap.trans (List.prefix_append first tail), hnames, Or.inr ?_⟩
    by_cases hend : target.column ≤ utf16Length (current ++ first) + 1
    · have hl : p.line = target.line := by
        rcases hlt with h | h
        · exact absurd h hline
        · exact h.1
      simp only [Nat.min_eq_left hend, hl, true_or]
    · -- the target lies behind the end of the line, so the gap is all of its rest
      have hall : gap = first := by
        have hk := charsBefore_utf16Length (current ++ first) []
        rw [List.append_nil] at hk
        rw [← hdrop, Nat.min_eq_right (Nat.le_of_not_le hend), Nat.add_sub_cancel, hk,
          List.take_length, List.drop_left]
      refine Or.inr ?_
      rw [hall, Position.after_of_notMem hflat, Nat.min_eq_right (Nat.le_of_not_le hend),
        Nat.add_comm]
  · rw [textUpTo, if_neg hlt]
    exact ⟨List.nil_prefix, by simpa using hp, Or.inl rfl⟩

theorem textUpTo_spec (target : Position) (hc : '\n' ∉ current) (hb : splitLines behind = first :: later)
    (hp : Names ⟨p.line, 1⟩ current p) :
    Bridges current behind p target (textUpTo target ((current ++ first) :: later) p) := by
  -- a further line starts at column one, so nothing of it lies before the position there
  induction later generalizing current behind first p with
  | nil =>
    by_cases hline : p.line < target.line
    · obtain rfl := splitLines_eq_singleton hb
      have hflat : '\n' ∉ current ++ behind := by simp [hc, (splitLines_first hb).1]
      have hend : Position.after ⟨p.line, 1⟩ (current ++ behind) =
          ⟨p.line, utf16Length (current ++ behind) + 1⟩ := by
        rw [Position.after_of_notMem hflat, Nat.add_comm]
      have hlt : p < target := Or.inl hline
      rw [textUpTo]
      simp only [if_pos hlt, if_pos hline, hp.charsBefore_eq hc behind, List.drop_left, ← hend]
      exact ⟨List.prefix_rfl, .behind _, Or.inr (Or.inr rfl)⟩
    · exact textUpTo_here hc hb hp hline
  | cons next later ih =>
    by_cases hline : p.line < target.line
    · obtain ⟨tail, rfl, htail⟩ := splitLines_eq_cons_cons hb
      have hflat : '\n' ∉ current ++ first := by simp [hc, (splitLines_first hb).1]
      have hnext : Position.after ⟨p.line, 1⟩ (current ++ first ++ ['\n']) = ⟨p.line + 1, 1⟩ := by
        rw [Position.after_append, Position.after_of_notMem hflat]
        rfl
      have hlt : p < target := Or.inl hline
      have hnextLine : Bridges [] tail ⟨p.line + 1, 1⟩ target
          (textUpTo target ([] ++ next :: later) ⟨p.line + 1, 1⟩) :=
        ih List.not_mem_nil htail (.behind [])
      obtain ⟨hpre, hnames, hreached⟩ := hnextLine
      rw [textUpTo]
      simp only [if_pos hlt, if_pos hline, hp.charsBefore_eq hc first, List.drop_left]
      simp only [List.nil_append] at hpre hnames hreached
      generalize textUpTo target (next :: later) ⟨p.line + 1, 1⟩ = more at hpre hnames hreached
      have hsplit : current ++ (first ++ '\n' :: more.1) =
          current ++ first ++ ['\n'] ++ more.1 := by simp
      refine ⟨?_, ?_, Or.inr ?_⟩
      · simpa using hpre
      · rw [hsplit]
        exact Names.append (hnext ▸ hnames)
      · dsimp only
        rw [hsplit, Position.after_append _ _ more.1, hnext]
        rcases hreached with h | h | h
        · exact Or.inr (by simp [show more = ([], _) from h])
        · exact Or.inl h
        · exact Or.inr h
    · exact textUpTo_here hc hb hp hline

end

namespace Pass

/-- What a pass has shown so far. -/
def visible (pass : Pass) : List Char := pass.fragments.reverse.flatMap Fragment.text

/-- Whether the last character of a token is shown a second time: the token is taken at a position inside
a character, has no line feed, and ends in a character of one unit. -/
def Doubles (src : Source) (pass : Pass) (token : Token) : Prop :=
  pass.accepts src token ∧ src.Splits pass.position ∧ '\n' ∉ token.text.toList ∧
    token.text.toList.getLast?.any fun c => unitsOf c = 1

instance (src : Source) (pass : Pass) (token : Token) : Decidable (pass.Doubles src token) :=
  inferInstanceAs (Decidable (_ ∧ _ ∧ _ ∧ _))

theorem Doubles.text_ne_empty {src : Source} {pass : Pass} {token : Token}
    (h : pass.Doubles src token) : token.text ≠ "" := by
  intro he
  obtain ⟨-, -, -, hlast⟩ := h
  simp [he] at hlast

/-- How many tokens of a stream have their last character shown a second time. -/
def doublings (src : Source) (styles : StyleMap) : Pass → List Token → Nat
  | _, [] => 0
  | pass, token :: tokens =>
    (if (pass.fillGap src token.start).Doubles src token then 1 else 0) +
      doublings src styles (pass.step src styles token) tokens

theorem remainder_eq {done : List Char} {p : Position} (h : Names .origin done p)
    (behind : List Char) : remainder (.ofText (done ++ behind)) p = behind := by
  obtain ⟨start, current, rfl, hc, -, -, -, hp, hfrom⟩ := Source.exists_current h behind
  obtain ⟨first, later, hb⟩ := exists_splitLines behind
  rw [remainder, hfrom, splitLines_append_of_notMem hc hb]
  simp only [hp.charsBefore_eq hc first, List.drop_left, ← hb, joinLines_splitLines]

theorem accepts_iff {done behind : List Char} {pass : Pass} {token : Token}
    (h : Names .origin done pass.position) :
    pass.accepts (.ofText (done ++ behind)) token ↔ token.text.toList <+: behind := by
  rw [accepts, Source.index_eq h]
  simp [Source.ofText]

theorem fillGap_spec {done : List Char} {pass : Pass} (h : Names .origin done pass.position)
    (behind : List Char) (target : Position) :
    let filled := pass.fillGap (.ofText (done ++ behind)) target
    ∃ gap, gap <+: behind ∧ Names .origin (done ++ gap) filled.position ∧
      filled.visible = pass.visible ++ gap ∧ filled.rejected = pass.rejected ∧
      (filled.position = pass.position ∨ filled.position = target ∨
        filled.position = Position.origin.after (done ++ gap)) := by
  intro filled
  by_cases hlt : pass.position < target
  · obtain ⟨start, current, rfl, hc, -, -, hstart, hp, hfrom⟩ := Source.exists_current h behind
    obtain ⟨first, later, hb⟩ := exists_splitLines behind
    have hspec := textUpTo_spec target hc hb hp
    rw [← splitLines_append_of_notMem hc hb, ← hfrom] at hspec
    have hf : filled = { pass with
        position := (textUpTo target _ pass.position).2
        fragments := .plain (textUpTo target _ pass.position).1 :: pass.fragments } := if_pos hlt
    generalize textUpTo target _ pass.position = reached at hspec hf
    obtain ⟨hgap, hnames, hreached⟩ := hspec
    rw [hf]
    refine ⟨reached.1, hgap, ?_, by simp [visible, Fragment.text], rfl, ?_⟩
    · rw [List.append_assoc]
      exact Names.append (hstart ▸ hnames)
    · rw [List.append_assoc, Position.after_append, hstart]
      exact hreached.imp_left fun e => by rw [e]
  · have hf : filled = pass := if_neg hlt
    rw [hf]
    exact ⟨[], List.nil_prefix, by simpa using h, by simp, rfl, Or.inl rfl⟩

/-- What is shown of a token that is taken. -/
def fragmentOf (styles : StyleMap) (token : Token) : Fragment :=
  match styles.nameFor token.kind with
  | some name => .span name token.text.toList
  | none => .plain token.text.toList

@[simp] theorem text_fragmentOf (styles : StyleMap) (token : Token) :
    (fragmentOf styles token).text = token.text.toList := by
  unfold fragmentOf
  split <;> rfl

theorem emit_of_accepts {src : Source} {pass : Pass} {token : Token} (styles : StyleMap)
    (ht : token.text ≠ "") (ha : pass.accepts src token) :
    pass.emit src styles token = { pass with
      position := pass.position.after token.text.toList
      fragments := fragmentOf styles token :: pass.fragments } := by
  unfold emit
  rw [if_neg ht, if_pos ha]
  rfl

/-- A token without text, or with other text than the source has, shows nothing. -/
theorem emit_of_not_accepts {src : Source} {pass : Pass} {token : Token} (styles : StyleMap)
    (h : ¬(token.text ≠ "" ∧ pass.accepts src token)) :
    (pass.emit src styles token).position = pass.position ∧
      (pass.emit src styles token).visible = pass.visible := by
  unfold emit
  split_ifs with ht ha
  · exact ⟨rfl, rfl⟩
  · exact absurd ⟨ht, ha⟩ h
  · exact ⟨rfl, rfl⟩

/-- The source up to the place reached has been shown in order, and `extra` characters besides. -/
structure Follows (source : List Char) (pass : Pass) (extra : Nat) : Prop where
  place : ∃ done behind, source = done ++ behind ∧ Names .origin done pass.position ∧
    done.Sublist pass.visible ∧ pass.visible.length = done.length + extra

theorem follows_start (source : List Char) : Follows source {} 0 :=
  ⟨[], source, rfl, .behind [], List.nil_sublist _, rfl⟩

theorem Follows.fillGap {source : List Char} {pass : Pass} {extra : Nat}
    (h : Follows source pass extra) (target : Position) :
    Follows source (pass.fillGap (.ofText source) target) extra := by
  obtain ⟨done, behind, rfl, hp, hsub, hlen⟩ := h
  obtain ⟨gap, ⟨rest, rfl⟩, hnames, hvis, -, -⟩ := fillGap_spec hp behind target
  refine ⟨done ++ gap, rest, by simp, hnames, hvis ▸ hsub.append_right gap, ?_⟩
  rw [hvis, List.length_append, List.length_append, hlen]
  omega

theorem Follows.emit {source : List Char} {pass : Pass} {extra : Nat} (h : Follows source pass extra)
    (styles : StyleMap) (token : Token) :
    Follows source (pass.emit (.ofText source) styles token)
      (extra + if pass.Doubles (.ofText source) token then 1 else 0) := by
  obtain ⟨done, behind, rfl, hp, hsub, hlen⟩ := h
  by_cases htaken : token.text ≠ "" ∧ pass.accepts (.ofText (done ++ behind)) token
  · rw [emit_of_accepts styles htaken.1 htaken.2]
    obtain ⟨rest, rfl⟩ := (accepts_iff hp).1 htaken.2
    have hvis : ∀ q, visible { pass with
        position := q, fragments := fragmentOf styles token :: pass.fragments } =
          pass.visible ++ token.text.toList := fun q => by simp [visible]
    by_cases hd : pass.Doubles (.ofText (done ++ (token.text.toList ++ rest))) token
    · -- the position reached is in front of the last character, which is still to be shown
      have ⟨_, hsplit, hn, hlast⟩ := hd
      obtain ⟨front, d, ht, hnames⟩ :=
        hp.after_text_narrow ((Source.splits_iff hp _).1 hsplit) hn hlast
      refine ⟨done ++ front, d :: rest, by simp [ht], hnames, ?_, ?_⟩
      · rw [hvis, ht, ← List.append_assoc]
        exact (hsub.append_right front).trans (List.sublist_append_left _ [d])
      · rw [if_pos hd, hvis, ht]
        simp only [List.length_append, List.length_singleton, hlen]
        omega
    · have hnames : Names .origin (done ++ token.text.toList)
          (pass.position.after token.text.toList) :=
        hp.after_text fun ⟨hsplit, hn, hlast⟩ =>
          hd ⟨htaken.2, (Source.splits_iff hp _).2 hsplit, hn, hlast⟩
      refine ⟨_, rest, (List.append_assoc ..).symm, hnames, ?_, ?_⟩
      · rw [hvis]
        exact hsub.append_right _
      · rw [hvis, List.length_append, List.length_append, hlen, if_neg hd]
        omega
  · obtain ⟨hpos, hvis⟩ := emit_of_not_accepts styles htaken
    have hd : ¬pass.Doubles (.ofText (done ++ behind)) token := fun hd =>
      htaken ⟨hd.text_ne_empty, hd.1⟩
    rw [if_neg hd, Nat.add_zero]
    exact ⟨done, behind, rfl, hpos ▸ hp, hvis ▸ hsub, hvis ▸ hlen⟩

theorem Follows.step {source : List Char} {pass : Pass} {extra : Nat}
    (h : Follows source pass extra) (styles : StyleMap) (token : Token) :
    Follows source (pass.step (.ofText source) styles token)
      (extra + if (pass.fillGap (.ofText source) token.start).Doubles (.ofText source) token
        then 1 else 0) :=
  (h.fillGap token.start).emit styles token

/-- What a whole run shows, by induction on the tokens. -/
theorem Follows.foldl {source : List Char} {pass : Pass} {extra : Nat}
    (h : Follows source pass extra) (styles : StyleMap) (tokens : List Token) :
    Follows source (tokens.foldl (Pass.step (.ofText source) styles) pass)
      (extra + doublings (.ofText source) styles pass tokens) := by
  induction tokens generalizing pass extra with
  | nil => exact h
  | cons token tokens ih =>
    rw [List.foldl_cons, doublings, ← Nat.add_assoc]
    exact ih (h.step styles token)

theorem visible_finish {source : List Char} {pass : Pass} {extra : Nat}
    (h : Follows source pass extra) :
    source.Sublist ((pass.finish (.ofText source)).flatMap Fragment.text) ∧
      ((pass.finish (.ofText source)).flatMap Fragment.text).length = source.length + extra := by
  obtain ⟨done, behind, rfl, hp, hsub, hlen⟩ := h
  have hvis : (pass.finish (.ofText (done ++ behind))).flatMap Fragment.text =
      pass.visible ++ behind := by
    simp [finish, visible, Fragment.text, remainder_eq hp]
  rw [hvis]
  refine ⟨hsub.append_right behind, ?_⟩
  rw [List.length_append, List.length_append, hlen]
  omega

end Pass

/-- How many characters of a source are shown twice under a token list. -/
def doublings (source : String) (tokens : List Token) (styles : StyleMap) : Nat :=
  Pass.doublings (.ofText source.toList) styles {} tokens

theorem visible_fragments (source : String) (tokens : List Token) (styles : StyleMap) :
    let shown := (fragments source tokens styles).flatMap Fragment.text
    source.toList.Sublist shown ∧
      shown.length = source.toList.length + doublings source tokens styles := by
  have h := (Pass.follows_start source.toList).foldl styles tokens
  rw [Nat.zero_add] at h
  exact Pass.visible_finish h

/-- Without its tags, the markup of a source is its escaped text exactly when no character is shown
twice. In every case the decoded text holds the source in order, and one character more for each one
shown twice. -/
theorem dropTags_reconcile (source : String) (tokens : List Token) (styles : StyleMap) :
    let shown := dropTags false (reconcile source tokens styles).toList
    (shown = escape source.toList ↔ doublings source tokens styles = 0) ∧
      (unescape shown = source.toList ↔ doublings source tokens styles = 0) ∧
      source.toList.Sublist (unescape shown) ∧
      (unescape shown).length = source.toList.length + doublings source tokens styles := by
  intro shown
  obtain ⟨hsub, hlen⟩ := visible_fragments source tokens styles
  have hshown : shown = escape ((fragments source tokens styles).flatMap Fragment.text) := by
    simp only [shown, reconcile, String.toList_ofList, Fragment.dropTags_flatMap_markup]
  have hdecoded : unescape shown = source.toList ↔ doublings source tokens styles = 0 := by
    rw [hshown, unescape_escape]
    constructor
    · intro h
      rw [h] at hlen
      omega
    · intro h
      exact (hsub.eq_of_length (by rw [hlen, h, Nat.add_zero])).symm
  refine ⟨?_, hdecoded, ?_, ?_⟩
  · rw [← hdecoded, hshown, unescape_escape, escape_injective.eq_iff]
  · rwa [hshown, unescape_escape]
  · rwa [hshown, unescape_escape]

/-- A token that starts inside an emoji and ends in a letter shows the letter twice. -/
theorem dropTags_reconcile_emoji :
    dropTags false (reconcile "😀ab" [⟨.text, "a", 1, 2⟩] .default).toList ≠ escape "😀ab".toList := by
  decide

end LiveMarkup
