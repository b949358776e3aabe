import LiveMarkup.Proofs.RoundTrip

/-! # The states of a pass

A pass is looked at before its first token and, for every token, behind the gap in front of it and
behind the token itself, whether it is taken or dropped. If no token starts between the two units of a
character, then in each of these states exactly the text in front of the position has been shown, and the
position never goes back.
-/
namespace LiveMarkup

namespace Source

/-- Whether a position lies between the two units of a character of the line that it names. -/
def Cuts (src : Source) (p : Position) : Prop :=
  ∃ line ∈ src.line? p.line, ∃ k < line.length,
    utf16Length (line.take k) + 1 < p.column ∧ p.column < utf16Length (line.take (k + 1)) + 1

instance (src : Source) (p : Position) : Decidable (src.Cuts p) :=
  inferInstanceAs (Decidable (∃ line ∈ src.line? p.line, ∃ k < line.length, _))

theorem line?_eq_head? (src : Source) (n : Nat) : src.line? n = (src.linesFrom n).head? := by
  unfold line? linesFrom
  split
  · rfl
  · rw [List.head?_drop]

/-- The name of a place is the position behind the text in front of it, unless it cuts a character. -/
theorem eq_after_of_not_cuts {done behind : List Char} {p : Position} (h : Names .origin done p)
    (hp : ¬(ofText (done ++ behind)).Cuts p) : p = Position.origin.after done := by
  obtain ⟨start, current, rfl, hc, -, -, hstart, hcurrent, hfrom⟩ := exists_current h behind
  rw [Position.after_append, hstart]
  rcases hcurrent.eq_or_inside with hbehind | ⟨front, c, rfl, wide, hinside⟩
  · exact hbehind
  · refine absurd ?_ hp
    obtain ⟨first, later, hb⟩ := exists_splitLines behind
    have hline : (ofText (start ++ (front ++ [c]) ++ behind)).line? p.line =
        some (front ++ c :: first) := by
      rw [line?_eq_head?, hfrom, splitLines_append_of_notMem hc hb]
      simp
    have hflat : '\n' ∉ front := fun m => hc (List.mem_append_left _ m)
    have hcolumn : p.column = utf16Length front + 2 := by
      have hp := congrArg Position.column hinside
      rw [Position.after_of_notMem hflat] at hp
      dsimp only at hp
      omega
    have htake : (front ++ c :: first).take (front.length + 1) = front ++ [c] := by
      rw [List.append_cons]
      exact List.take_left' List.length_append
    refine ⟨_, hline, front.length, by simp, ?_, ?_⟩
    · rw [List.take_left, hcolumn]
      omega
    · rw [htake, hcolumn, utf16Length_append, utf16Length_cons, utf16Length_nil, wide]
      omega

end Source

namespace Pass

/-- The markup of what a pass has shown so far. -/
def markup (pass : Pass) : List Char := pass.fragments.reverse.flatMap Fragment.markup

@[simp] theorem unescape_dropTags_markup (pass : Pass) :
    unescape (dropTags false pass.markup) = pass.visible := by
  rw [markup, Fragment.dropTags_flatMap_markup, unescape_escape, visible]

/-- The states of a pass: the one it starts in, and for every token the one behind the gap and the one
behind the token. -/
def states (src : Source) (styles : StyleMap) (pass : Pass) : List Token → List Pass
  | [] => [pass]
  | token :: tokens =>
    let filled := pass.fillGap src token.start
    pass :: filled :: states src styles (filled.emit src styles token) tokens

theorem getLast?_states (src : Source) (styles : StyleMap) (pass : Pass) (tokens : List Token) :
    (states src styles pass tokens).getLast? = some (tokens.foldl (step src styles) pass) := by
  induction tokens generalizing pass with
  | nil => rfl
  | cons token tokens ih =>
    rw [states, List.getLast?_cons, List.getLast?_cons, ih]
    rfl

/-- A pass has shown a beginning of the source, and its position is the one behind that. -/
structure Faithful (source : List Char) (pass : Pass) : Prop where
  shown : pass.visible <+: source
  place : pass.position = Position.origin.after pass.visible

section
variable {source : List Char} {pass later : Pass}

theorem faithful_start (source : List Char) : Faithful source {} := ⟨List.nil_prefix, rfl⟩

theorem Faithful.names (h : Faithful source pass) : Names .origin pass.visible pass.position :=
  h.place ▸ .behind _

theorem Faithful.index_eq (h : Faithful source pass) :
    (Source.ofText source).index pass.position = pass.visible.length := by
  obtain ⟨behind, hsource⟩ := h.shown
  rw [← hsource]
  exact Source.index_eq h.names behind

theorem Faithful.visible_eq (h : Faithful source pass) :
    pass.visible = source.take ((Source.ofText source).index pass.position) := by
  rw [h.index_eq]
  exact List.prefix_iff_eq_take.1 h.shown

theorem Faithful.fillGap (h : Faithful source pass) {target : Position}
    (ht : ¬(Source.ofText source).Cuts target) :
    Faithful source (pass.fillGap (.ofText source) target) ∧
      pass.visible <+: (pass.fillGap (.ofText source) target).visible := by
  have hplace := h.names
  obtain ⟨behind, hsource⟩ := h.shown
  subst hsource
  obtain ⟨gap, ⟨rest, rfl⟩, hnames, hvis, -, hreached⟩ := fillGap_spec hplace behind target
  have hsource : pass.visible ++ (gap ++ rest) = pass.visible ++ gap ++ rest :=
    (List.append_assoc ..).symm
  refine ⟨⟨?_, ?_⟩, hvis ▸ List.prefix_append _ _⟩
  · rw [hvis, hsource]
    exact List.prefix_append _ _
  · rw [hvis]
    rcases hreached with hstay | htarget | hend
    · -- both texts are those in front of one position, so there is no gap
      rw [hstay] at hnames ⊢
      have hlength := (Source.index_eq hplace (gap ++ rest)).symm.trans
        (hsource ▸ Source.index_eq hnames rest)
      have hgap : gap = [] := by simpa using hlength
      rw [hgap, List.append_nil]
      exact h.place
    · rw [htarget] at hnames ⊢
      exact Source.eq_after_of_not_cuts hnames (hsource ▸ ht)
    · exact hend

theorem Faithful.emit (h : Faithful source pass) (styles : StyleMap) (token : Token) :
    Faithful source (pass.emit (.ofText source) styles token) ∧
      pass.visible <+: (pass.emit (.ofText source) styles token).visible := by
  by_cases htaken : token.text ≠ "" ∧ pass.accepts (.ofText source) token
  · rw [emit_of_accepts styles htaken.1 htaken.2]
    have hvis : ∀ q, visible { pass with
        position := q, fragments := fragmentOf styles token :: pass.fragments } =
          pass.visible ++ token.text.toList := fun q => by simp [visible]
    refine ⟨⟨?_, ?_⟩, ?_⟩
    · obtain ⟨behind, hsource⟩ := h.shown
      rw [hvis, ← hsource, List.prefix_append_right_inj]
      exact (accepts_iff h.names).1 (hsource ▸ htaken.2)
    · rw [hvis, Position.after_append, ← h.place]
    · rw [hvis]
      exact List.prefix_append _ _
  · obtain ⟨hpos, hvis⟩ := emit_of_not_accepts styles htaken
    rw [hvis]
    exact ⟨⟨hvis ▸ h.shown, by rw [hpos, hvis, h.place]⟩, List.prefix_rfl⟩

/-- In every state from a faithful one on, the pass is faithful and shows what it has shown before. -/
theorem Faithful.states (h : Faithful source pass) (styles : StyleMap) {tokens : List Token}
    (ht : ∀ token ∈ tokens, ¬(Source.ofText source).Cuts token.start) :
    (∀ later ∈ states (.ofText source) styles pass tokens,
      Faithful source later ∧ pass.visible <+: later.visible) ∧
    (states (.ofText source) styles pass tokens).Pairwise fun p q => p.visible <+: q.visible := by
  induction tokens generalizing pass with
  | nil =>
    refine ⟨fun later m => ?_, List.pairwise_singleton ..⟩
    rw [List.mem_singleton.1 m]
    exact ⟨h, List.prefix_rfl⟩
  | cons token tokens ih =>
    obtain ⟨hfilled, hgap⟩ := h.fillGap (ht token List.mem_cons_self)
    obtain ⟨hemitted, htext⟩ := hfilled.emit styles token
    obtain ⟨hlater, hpairs⟩ := ih hemitted fun t m => ht t (List.mem_cons_of_mem token m)
    have hfrom : ∀ later ∈ Pass.states (.ofText source) styles _ tokens,
        (pass.fillGap (.ofText source) token.start).visible <+: later.visible :=
      fun later m => htext.trans (hlater later m).2
    refine ⟨?_, ?_⟩
    · intro later m
      rcases List.mem_cons.1 m with hl | m
      · rw [hl]
        exact ⟨h, List.prefix_rfl⟩
      rcases List.mem_cons.1 m with hl | m
      · rw [hl]
        exact ⟨hfilled, hgap⟩
      · exact ⟨(hlater later m).1, hgap.trans (hfrom later m)⟩
    · refine List.pairwise_cons.2 ⟨fun later m => ?_, List.pairwise_cons.2 ⟨hfrom, hpairs⟩⟩
      rcases List.mem_cons.1 m with hl | m
      · rw [hl]
        exact hgap
      · exact hgap.trans (hfrom later m)

/-- What shows more has come further. -/
theorem Faithful.advances (h : Faithful source pass) (hl : Faithful source later)
    (hshows : pass.visible <+: later.visible) :
    (pass.position = later.position ∨ pass.position < later.position) ∧
      (Source.ofText source).index pass.position ≤ (Source.ofText source).index later.position := by
  rw [h.index_eq, hl.index_eq, h.place, hl.place]
  refine ⟨?_, hshows.length_le⟩
  obtain ⟨more, hmore⟩ := hshows
  rw [← hmore, Position.after_append]
  by_cases he : more = []
  · exact Or.inl (by rw [he, Position.after_nil])
  · exact Or.inr (Position.lt_after he _)

end
end Pass

/-- If no token starts between the two units of a character, then in every state of a run the decoded
text of the markup is the source in front of the position, the position is the origin moved over that
text, and neither the position nor the place it names is in front of an earlier one. -/
theorem states_faithful (source : String) (styles : StyleMap) {tokens : List Token}
    (h : ∀ token ∈ tokens, ¬(Source.ofText source.toList).Cuts token.start) :
    let src := Source.ofText source.toList
    let states := Pass.states src styles {} tokens
    states.getLast? = some (Pass.run src styles tokens) ∧
    (∀ pass ∈ states,
      let shown := source.toList.take (src.index pass.position)
      unescape (dropTags false pass.markup) = shown ∧ pass.position = Position.origin.after shown) ∧
    states.Pairwise fun pass later =>
      (pass.position = later.position ∨ pass.position < later.position) ∧
        src.index pass.position ≤ src.index later.position := by
  intro src states
  obtain ⟨hfaithful, hpairs⟩ := (Pass.faithful_start source.toList).states styles h
  refine ⟨Pass.getLast?_states src styles {} tokens, fun pass m => ?_, ?_⟩
  · have hpass := (hfaithful pass m).1
    rw [Pass.unescape_dropTags_markup, ← hpass.visible_eq]
    exact ⟨rfl, hpass.place⟩
  · exact hpairs.imp_of_mem fun mp mq hshows => (hfaithful _ mp).1.advances (hfaithful _ mq).1 hshows

/-- Tokens in column zero, behind the end of a line, below the last line, with other text and with
several lines, around an emoji. -/
theorem states_faithful_emoji :
    let source := "é😀<b\n\nc"
    let tokens : List Token := [⟨.text, "é", 1, 0⟩, ⟨.value, "x", 1, 2⟩, ⟨.value, "😀<", 1, 2⟩,
      ⟨.comment, "b\n\n", 3, 5⟩, ⟨.text, "zz", 0, 7⟩, ⟨.identifier, "c", 2, 9⟩, ⟨.colon, ":", 9, 4⟩]
    let src := Source.ofText source.toList
    let states := Pass.states src .default {} tokens
    (∀ token ∈ tokens, ¬src.Cuts token.start) ∧ src.Cuts ⟨1, 3⟩ ∧
    states.map (·.position) = [⟨1, 1⟩, ⟨1, 1⟩, ⟨1, 2⟩, ⟨1, 2⟩, ⟨1, 2⟩, ⟨1, 2⟩, ⟨1, 5⟩, ⟨1, 5⟩, ⟨3, 1⟩,
      ⟨3, 1⟩, ⟨3, 1⟩, ⟨3, 1⟩, ⟨3, 2⟩, ⟨3, 2⟩, ⟨3, 2⟩] ∧
    states.getLast? = some (Pass.run src .default tokens) ∧
    (∀ pass ∈ states,
      let shown := source.toList.take (src.index pass.position)
      unescape (dropTags false pass.markup) = shown ∧ pass.position = Position.origin.after shown) ∧
    states.Pairwise fun pass later =>
      (pass.position = later.position ∨ pass.position < later.position) ∧
        src.index pass.position ≤ src.index later.position := by
  intro source tokens src states
  have hstarts : ∀ token ∈ tokens, ¬src.Cuts token.start := by decide
  exact ⟨hstarts, by decide, by decide, states_faithful source .default hstarts⟩

end LiveMarkup
