import LiveMarkup.Editor
import LiveMarkup.Proofs.RoundTrip
import LiveMarkup.Text.Search

/-! # The tokens that a pass takes

When a pass comes to a token, it takes the token if the source holds the token's text at the place
reached, and drops it otherwise. The spans of the markup are those of the tokens taken, in the order of
the stream, and what follows a token does not change them. A pass that takes nothing shows the source as
bare text.
-/
namespace LiveMarkup

/-! ### Reading spans back from markup -/

/-- The span that markup starts with: the name in its tag, and what it holds. -/
def spanAt? (markup : List Char) : Option (List Char × List Char) := do
  let behind ← markup.dropPrefix? "<span class=\"".toList
  let inside ← (behind.dropWhile (· ≠ '"')).dropPrefix? "\">".toList
  let _ ← (inside.dropWhile (· ≠ '<')).dropPrefix? "</span>".toList
  return (behind.takeWhile (· ≠ '"'), inside.takeWhile (· ≠ '<'))

/-- The spans of markup in order, wherever they start. -/
def spansOf (markup : List Char) : List (List Char × List Char) := markup.tails.filterMap spanAt?

theorem spansOf_cons (c : Char) (cs : List Char) :
    spansOf (c :: cs) = (spanAt? (c :: cs)).toList ++ spansOf cs := by
  simp only [spansOf, List.tails_cons, List.filterMap_eq_flatMap_toList, List.flatMap_cons]

theorem spanAt?_eq_none {markup : List Char} (h : ¬['<', 's'] <+: markup) :
    spanAt? markup = none := by
  cases hdrop : markup.dropPrefix? "<span class=\"".toList with
  | none =>
    rw [spanAt?, hdrop]
    rfl
  | some behind =>
    obtain ⟨opening, hmarkup, hopening⟩ := List.dropPrefix?_eq_some_iff.1 hdrop
    rw [eq_of_beq hopening] at hmarkup
    exact absurd ⟨"pan class=\"".toList ++ behind, hmarkup.symm⟩ h

/-- No span starts in a text without tags. -/
theorem spansOf_append_of_notMem {s : List Char} (h : '<' ∉ s) (rest : List Char) :
    spansOf (s ++ rest) = spansOf rest := by
  induction s with
  | nil => rfl
  | cons c s ih =>
    have hc : ¬['<', 's'] <+: c :: (s ++ rest) := fun hp =>
      List.ne_of_not_mem_cons h (List.cons_prefix_cons.1 hp).1
    rw [List.cons_append, spansOf_cons, spanAt?_eq_none hc, ih (List.not_mem_of_not_mem_cons h)]
    rfl

namespace Fragment

/-- The name and the escaped text of a fragment, if it is a span. -/
def span? : Fragment → Option (List Char × List Char)
  | plain _ => none
  | span name text => some (name.text.toList, escape text)

theorem spanAt?_span (name : ClassName) (text rest : List Char) :
    spanAt? ((span name text).markup ++ rest) = some (name.text.toList, escape text) := by
  have hquote : "\">".toList = ['"', '>'] := by decide
  have hclose : "</span>".toList = '<' :: "/span>".toList := by decide
  have hmarkup : (span name text).markup ++ rest = "<span class=\"".toList ++ (name.text.toList ++
      '"' :: ('>' :: (escape text ++ '<' :: ("/span>".toList ++ rest)))) := by
    have hparts : (span name text).markup = "<span class=\"".toList ++ name.text.toList ++
        "\">".toList ++ escape text ++ "</span>".toList := rfl
    rw [hparts, hquote, hclose]
    simp only [List.append_assoc, List.cons_append, List.nil_append]
  obtain ⟨hname, hinside⟩ := takeWhile_ne_append
    (notMem_className (by decide : isNameChar '"' = false) name)
    ('>' :: (escape text ++ '<' :: ("/span>".toList ++ rest)))
  obtain ⟨htext, hbehind⟩ := takeWhile_ne_append (lt_notMem_escape text) ("/span>".toList ++ rest)
  have hdropClose : ('<' :: ("/span>".toList ++ rest)).dropPrefix? "</span>".toList = some rest := by
    rw [hclose, ← List.cons_append]
    exact List.dropPrefix?_append_of_beq _ (beq_self_eq_true _)
  rw [hmarkup, spanAt?, List.dropPrefix?_append_of_beq _ (beq_self_eq_true _)]
  simp only [Option.bind_eq_bind, Option.bind_some, hname, hinside, hquote, List.dropPrefix?,
    beq_self_eq_true, if_true, htext, hbehind, hdropClose]
  rfl

/-- No other span starts inside a span or in its tags. -/
theorem spansOf_span (name : ClassName) (text rest : List Char) :
    spansOf ((span name text).markup ++ rest) = (name.text.toList, escape text) :: spansOf rest := by
  have hclose : closeTag ++ rest = '<' :: '/' :: ("span>".toList ++ rest) := rfl
  have hcloses : spansOf (closeTag ++ rest) = spansOf rest := by
    have hstart : ¬['<', 's'] <+: '<' :: '/' :: ("span>".toList ++ rest) := by
      simp [List.cons_prefix_cons]
    have htail : '<' ∉ '/' :: "span>".toList := by decide
    rw [hclose, spansOf_cons, spanAt?_eq_none hstart, ← List.cons_append,
      spansOf_append_of_notMem htail]
    rfl
  have hat := spanAt?_span name text rest
  have htag : ∃ inner, '<' ∉ inner ∧
      (span name text).markup ++ rest = '<' :: (inner ++ (escape text ++ (closeTag ++ rest))) := by
    refine ⟨['s', 'p', 'a', 'n', ' ', 'c', 'l', 'a', 's', 's', '=', '"'] ++ name.text.toList ++
      ['"'] ++ ['>'], ?_, ?_⟩
    · simp [notMem_className (by decide : isNameChar '<' = false)]
    · rw [markup, openTag_eq]
      simp only [List.append_assoc, List.cons_append, List.nil_append]
  obtain ⟨inner, hinner, hmarkup⟩ := htag
  rw [hmarkup] at hat ⊢
  rw [spansOf_cons, hat, spansOf_append_of_notMem hinner,
    spansOf_append_of_notMem (lt_notMem_escape text), hcloses]
  rfl

theorem flatMap_markup_of_plain {fs : List Fragment} (h : fs.filterMap span? = []) :
    fs.flatMap markup = escape (fs.flatMap text) := by
  induction fs with
  | nil => rfl
  | cons f fs ih =>
    cases f with
    | plain s => rw [List.flatMap_cons, List.flatMap_cons, ih h, escape_append, markup, text]
    | span name s => exact absurd h (List.cons_ne_nil _ _)

theorem spansOf_flatMap_markup (fs : List Fragment) :
    spansOf (fs.flatMap markup) = fs.filterMap span? := by
  induction fs with
  | nil => decide
  | cons f fs ih =>
    rw [List.flatMap_cons]
    cases f with
    | plain text =>
      rw [markup, spansOf_append_of_notMem (lt_notMem_escape text), ih]
      rfl
    | span name text =>
      rw [spansOf_span, ih]
      rfl

end Fragment

/-- The span of a token that is taken, if its kind has a class. -/
def StyleMap.spanFor? (styles : StyleMap) (token : Token) : Option (List Char × List Char) :=
  (styles.nameFor token.kind).map fun name => (name.text.toList, escape token.text.toList)

namespace Pass

theorem span?_fragmentOf (styles : StyleMap) (token : Token) :
    (fragmentOf styles token).span? = styles.spanFor? token := by
  unfold fragmentOf StyleMap.spanFor?
  cases styles.nameFor token.kind <;> rfl

/-! ### What is taken -/

/-- Whether a pass takes a token: it has a text, and the source holds that text behind the gap in front
of the token. -/
def Takes (src : Source) (pass : Pass) (token : Token) : Prop :=
  token.text ≠ "" ∧
    token.text.toList <+: src.text.drop (src.index (pass.fillGap src token.start).position)

instance (src : Source) (pass : Pass) (token : Token) : Decidable (pass.Takes src token) :=
  inferInstanceAs (Decidable (_ ∧ _))

/-- The tokens of a stream that a pass takes, each looked at where the tokens in front of it have led. -/
def taken (src : Source) (styles : StyleMap) : Pass → List Token → List Token
  | _, [] => []
  | pass, token :: tokens =>
    let later := taken src styles (pass.step src styles token) tokens
    if pass.Takes src token then token :: later else later

section
variable {src : Source} {pass : Pass} {token : Token}

theorem takes_iff :
    pass.Takes src token ↔ token.text ≠ "" ∧ (pass.fillGap src token.start).accepts src token := by
  rw [Takes, accepts, List.isPrefixOf_iff_prefix]

/-- The spans shown so far. -/
def spans (pass : Pass) : List (List Char × List Char) :=
  pass.fragments.reverse.filterMap Fragment.span?

theorem spans_push (pass : Pass) (p : Position) (f : Fragment) :
    spans { pass with position := p, fragments := f :: pass.fragments } =
      pass.spans ++ f.span?.toList := by
  simp only [spans, List.reverse_cons, List.filterMap_append]
  cases f <;> rfl

theorem fillGap_keeps (pass : Pass) (src : Source) (target : Position) :
    (pass.fillGap src target).spans = pass.spans ∧
      (pass.fillGap src target).rejected = pass.rejected := by
  unfold fillGap
  split_ifs
  · rw [spans_push]
    exact ⟨List.append_nil _, rfl⟩
  · exact ⟨rfl, rfl⟩

/-- A token adds its span if it is taken, and counts as dropped if it has a text and is not taken. -/
theorem step_spec (src : Source) (styles : StyleMap) (pass : Pass) (token : Token) :
    (pass.step src styles token).spans =
        pass.spans ++ (if pass.Takes src token then (styles.spanFor? token).toList else []) ∧
      (if pass.Takes src token then 1 else 0) + (pass.step src styles token).rejected =
        pass.rejected + (if token.text ≠ "" then 1 else 0) := by
  obtain ⟨hspans, hrejected⟩ := pass.fillGap_keeps src token.start
  simp only [takes_iff]
  rw [step, ← hspans, ← hrejected]
  generalize pass.fillGap src token.start = filled
  by_cases ht : token.text = ""
  · simp [emit, ht]
  by_cases ha : filled.accepts src token
  · have htakes : token.text ≠ "" ∧ filled.accepts src token := ⟨ht, ha⟩
    rw [emit_of_accepts styles ht ha, spans_push, span?_fragmentOf, if_pos htakes, if_pos htakes,
      if_pos ht]
    exact ⟨rfl, Nat.add_comm _ _⟩
  · simp [emit, ht, ha, spans]

/-- What a whole run takes and drops, by induction on the tokens. -/
theorem foldl_spec (src : Source) (styles : StyleMap) (pass : Pass) (tokens : List Token) :
    (tokens.foldl (step src styles) pass).spans =
        pass.spans ++ (taken src styles pass tokens).filterMap styles.spanFor? ∧
      (taken src styles pass tokens).length + (tokens.foldl (step src styles) pass).rejected =
        pass.rejected + tokens.countP (·.text ≠ "") := by
  induction tokens generalizing pass with
  | nil => simp [taken]
  | cons token tokens ih =>
    obtain ⟨hspans, hrejected⟩ := pass.step_spec src styles token
    obtain ⟨ihspans, ihrejected⟩ := ih (pass.step src styles token)
    rw [List.foldl_cons, taken, ihspans, hspans, List.countP_cons]
    simp only [decide_eq_true_eq]
    by_cases h : pass.Takes src token
    · simp only [if_pos h] at hrejected ⊢
      refine ⟨?_, ?_⟩
      · simp only [List.filterMap_eq_flatMap_toList, List.flatMap_cons, List.append_assoc]
      · rw [List.length_cons]
        omega
    · simp only [if_neg h] at hrejected ⊢
      refine ⟨by rw [List.append_nil], ?_⟩
      omega

/-- Nothing is taken when no token is taken where the tokens in front of it have led. -/
theorem taken_eq_nil_iff (src : Source) (styles : StyleMap) (pass : Pass) (tokens : List Token) :
    taken src styles pass tokens = [] ↔ ∀ before token behind, tokens = before ++ token :: behind →
      ¬(before.foldl (step src styles) pass).Takes src token := by
  induction tokens generalizing pass with
  | nil => simp [taken]
  | cons token tokens ih =>
    rw [taken]
    constructor
    · intro h before t behind heq
      split_ifs at h with htakes
      cases before with
      | nil =>
        obtain ⟨rfl, -⟩ := List.cons.inj heq
        exact htakes
      | cons first before =>
        obtain ⟨rfl, hrest⟩ := List.cons.inj heq
        exact (ih _).1 h before t behind hrest
    · intro h
      have hfirst : ¬pass.Takes src token := h [] token tokens rfl
      rw [if_neg hfirst]
      exact (ih _).2 fun before t behind heq => h (token :: before) t behind (heq ▸ rfl)

/-- Only tokens that are taken have a character shown twice. -/
theorem doublings_le_length_taken (src : Source) (styles : StyleMap) (pass : Pass)
    (tokens : List Token) :
    doublings src styles pass tokens ≤ (taken src styles pass tokens).length := by
  induction tokens generalizing pass with
  | nil => exact le_rfl
  | cons token tokens ih =>
    have hlater := ih (pass.step src styles token)
    rw [doublings, taken]
    by_cases htakes : pass.Takes src token
    · rw [if_pos htakes, List.length_cons]
      split_ifs <;> omega
    · have hd : ¬(pass.fillGap src token.start).Doubles src token := fun hd =>
        htakes (takes_iff.2 ⟨hd.text_ne_empty, hd.1⟩)
      rw [if_neg htakes, if_neg hd, Nat.zero_add]
      exact hlater

theorem taken_sublist (src : Source) (styles : StyleMap) (pass : Pass) (tokens : List Token) :
    (taken src styles pass tokens).Sublist tokens := by
  induction tokens generalizing pass with
  | nil => exact List.nil_sublist _
  | cons token tokens ih =>
    rw [taken]
    split_ifs
    · exact (ih _).cons_cons token
    · exact (ih _).cons token

/-- What is taken of the front of a stream does not depend on what follows. -/
theorem taken_append (src : Source) (styles : StyleMap) (pass : Pass) (front more : List Token) :
    taken src styles pass (front ++ more) =
      taken src styles pass front ++ taken src styles (front.foldl (step src styles) pass) more := by
  induction front generalizing pass with
  | nil => rfl
  | cons token front ih =>
    rw [List.cons_append, taken, taken, List.foldl_cons, ih]
    split_ifs <;> rfl

end
end Pass

/-- The tokens that a pass over a source takes. -/
def takenTokens (source : String) (tokens : List Token) (styles : StyleMap) : List Token :=
  Pass.taken (.ofText source.toList) styles {} tokens

theorem filterMap_span?_fragments (source : String) (tokens : List Token) (styles : StyleMap) :
    (fragments source tokens styles).filterMap Fragment.span? =
      (takenTokens source tokens styles).filterMap styles.spanFor? := by
  have hrun := (Pass.foldl_spec (.ofText source.toList) styles {} tokens).1
  rw [fragments, Pass.finish, List.reverse_cons, List.filterMap_append]
  exact (List.append_nil _).trans hrun

theorem spansOf_reconcile (source : String) (tokens : List Token) (styles : StyleMap) :
    spansOf (reconcile source tokens styles).toList =
      (takenTokens source tokens styles).filterMap styles.spanFor? := by
  rw [reconcile, String.toList_ofList, Fragment.spansOf_flatMap_markup, filterMap_span?_fragments]

/-- The spans of the markup of a source are those of the tokens taken that have a class, in the order of
the stream. A token with a text is either taken or counted as dropped. What follows in the stream adds
spans behind those that are there and changes none of them. -/
theorem spans_from_taken (source : String) (tokens : List Token) (styles : StyleMap) :
    let taken := takenTokens source tokens styles
    let spans := spansOf (reconcile source tokens styles).toList
    spans = taken.filterMap styles.spanFor? ∧
      taken.Sublist tokens ∧
      taken.length + rejectedCount source tokens styles = tokens.countP (·.text ≠ "") ∧
      ∀ more, spans <+: spansOf (reconcile source (tokens ++ more) styles).toList := by
  intro taken spans
  refine ⟨spansOf_reconcile source tokens styles, Pass.taken_sublist _ styles {} tokens, ?_, ?_⟩
  · exact ((Pass.foldl_spec _ styles {} tokens).2).trans (Nat.zero_add _)
  · intro more
    simp only [spans, spansOf_reconcile]
    rw [takenTokens, takenTokens, Pass.taken_append, List.filterMap_append]
    exact List.prefix_append _ _

/-- A token that looks like markup, one that overlaps it with text that stands there no more, and one
without a class. -/
example : spansOf (reconcile "<b>&" [⟨.value, "<b>", 1, 1⟩, ⟨.text, "b", 1, 2⟩, ⟨.other "x", "&", 1, 4⟩]
    .default).toList = [("token-value".toList, "&lt;b&gt;".toList)] := by
  decide +kernel

theorem reconcile_of_taken_eq_nil {source : String} {tokens : List Token} {styles : StyleMap}
    (h : takenTokens source tokens styles = []) :
    reconcile source tokens styles = escapeText source := by
  have hplain : (fragments source tokens styles).filterMap Fragment.span? = [] := by
    rw [filterMap_span?_fragments, h, List.filterMap_nil]
  have hdoublings : doublings source tokens styles = 0 := by
    have hle := Pass.doublings_le_length_taken (.ofText source.toList) styles {} tokens
    rw [← takenTokens, h] at hle
    exact Nat.le_zero.1 hle
  obtain ⟨hsub, hlen⟩ := visible_fragments source tokens styles
  have hshown : (fragments source tokens styles).flatMap Fragment.text = source.toList :=
    (hsub.eq_of_length (by rw [hlen, hdoublings, Nat.add_zero])).symm
  rw [reconcile, Fragment.flatMap_markup_of_plain hplain, hshown, escapeText]

/-- If each token has no text or another than the source holds where the pass comes to it, the markup is
the escaped source. That is also the markup of a source whose lexer fails or finds no token. -/
theorem reconcile_of_none_taken (source : String) {tokens : List Token} (styles : StyleMap)
    (h : ∀ before token behind, tokens = before ++ token :: behind →
      ¬(Pass.run (.ofText source.toList) styles before).Takes (.ofText source.toList) token) :
    reconcile source tokens styles = escapeText source ∧
      (∀ lexer, fallsBack (lexer source) → highlight source lexer styles = escapeText source) ∧
      reconcile source [] styles = escapeText source := by
  refine ⟨?_, ?_, ?_⟩
  · exact reconcile_of_taken_eq_nil ((Pass.taken_eq_nil_iff _ styles {} tokens).2 h)
  · intro lexer hfalls
    unfold highlight
    split
    · rfl
    · next tokens hne hread =>
      rw [hread, fallsBack, List.isEmpty_iff] at hfalls
      exact absurd hfalls hne
    · rfl
  · exact reconcile_of_taken_eq_nil rfl

/-- Tokens that start inside an emoji, behind the end of a line and below the last line, with other text
or none, so that the source is cut at each of these places; and a lexer that rejects the source. -/
theorem reconcile_of_none_taken_emoji :
    let source := "a😀<b\n'é"
    let tokens : List Token := [⟨.text, "", 1, 3⟩, ⟨.value, "b", 1, 3⟩, ⟨.text, "😀", 1, 2⟩,
      ⟨.comment, "<\n", 2, 4⟩, ⟨.colon, "b", 1, 40⟩, ⟨.identifier, "é", 2, 1⟩, ⟨.text, "'", 9, 4⟩]
    (∀ before token behind, tokens = before ++ token :: behind →
      ¬(Pass.run (.ofText source.toList) .default before).Takes (.ofText source.toList) token) ∧
    reconcile source tokens .default = "a😀&lt;b\n&#039;é" ∧
    reconcile source tokens .default = escapeText source ∧
    highlight source (fun _ => .error (.rejected "line 2")) .default = escapeText source := by
  intro source tokens
  have hnone : ∀ before token behind, tokens = before ++ token :: behind →
      ¬(Pass.run (.ofText source.toList) .default before).Takes (.ofText source.toList) token :=
    (Pass.taken_eq_nil_iff _ .default {} tokens).1 (by decide)
  obtain ⟨hescaped, hfallback, -⟩ := reconcile_of_none_taken source .default hnone
  exact ⟨hnone, by decide, hescaped, hfallback _ rfl⟩

end LiveMarkup
