import LiveMarkup.Proofs.PassStates
import LiveMarkup.Proofs.TakenTokens

/-! # Classification is presentation

The kind of a token decides about the tags around its text and about nothing else. Every pass is compared
with the one over the same tokens without their kinds: without its tags each state of the first is the
state of the second. So neither the kinds nor the names of the classes have a say in which tokens are
accepted, where the position goes and which text is shown.
-/
namespace LiveMarkup

namespace Token

/-- Tokens that differ in their kinds at most. -/
structure AgreesBesideKind (t t' : Token) : Prop where
  text : t.text = t'.text
  endLine : t.endLine = t'.endLine
  startColumn : t.startColumn = t'.startColumn

/-- The token as one of a kind that has no class. -/
def unclassified (t : Token) : Token := { t with kind := .other "" }

theorem agreesBesideKind_iff {t t' : Token} :
    t.AgreesBesideKind t' ↔ t.unclassified = t'.unclassified := by
  constructor
  · rintro ⟨htext, hline, hcolumn⟩
    simp [unclassified, htext, hline, hcolumn]
  · intro h
    simp only [unclassified, Token.mk.injEq] at h
    exact ⟨h.2.1, h.2.2.1, h.2.2.2⟩

theorem forall₂_agreesBesideKind_iff {tokens tokens' : List Token} :
    List.Forall₂ AgreesBesideKind tokens tokens' ↔
      tokens.map unclassified = tokens'.map unclassified := by
  have hiff : AgreesBesideKind = fun t t' => t.unclassified = t'.unclassified := by
    funext t t'
    exact propext agreesBesideKind_iff
  rw [hiff, ← List.forall₂_eq_eq_eq, List.forall₂_map_left_iff, List.forall₂_map_right_iff]

end Token

/-- The text of a fragment without a tag. -/
def Fragment.bare (f : Fragment) : Fragment := .plain f.text

theorem Fragment.flatMap_markup_bare (fs : List Fragment) :
    (fs.map bare).flatMap markup = escape (fs.flatMap text) := by
  induction fs with
  | nil => rfl
  | cons f fs ih => rw [List.map_cons, List.flatMap_cons, ih, List.flatMap_cons, escape_append]; rfl

theorem bare_fragmentOf (styles styles' : StyleMap) (token : Token) :
    (Pass.fragmentOf styles token).bare = Pass.fragmentOf styles' token.unclassified := by
  rw [Fragment.bare, Pass.text_fragmentOf]
  rfl

/-- What becomes of a token of a stream. One without text is neither accepted nor rejected. -/
inductive Verdict where
  | accepted | rejected | passedOver
deriving DecidableEq, Repr

namespace Pass

/-- The pass with the tags taken off what it has shown. -/
def bare (pass : Pass) : Pass := { pass with fragments := pass.fragments.map Fragment.bare }

/-- What a step does with its token, read off the pass in front of the token and the one behind it. -/
def verdict (src : Source) (styles : StyleMap) (pass : Pass) (token : Token) : Verdict :=
  let filled := pass.fillGap src token.start
  let emitted := filled.emit src styles token
  if filled.rejected < emitted.rejected then .rejected
  else if filled.fragments.length < emitted.fragments.length then .accepted
  else .passedOver

/-- What becomes of the tokens of a stream, position by position. -/
def verdicts (src : Source) (styles : StyleMap) : Pass → List Token → List Verdict
  | _, [] => []
  | pass, token :: tokens =>
    pass.verdict src styles token :: verdicts src styles (pass.step src styles token) tokens

section
variable (src : Source) (styles styles' : StyleMap) (pass : Pass) (token : Token)

theorem verdict_eq : pass.verdict src styles token =
    if token.text = "" then .passedOver else if pass.Takes src token then .accepted else .rejected := by
  rw [verdict]
  by_cases ht : token.text = ""
  · simp [emit, ht]
  · have htakes : pass.Takes src token ↔ (pass.fillGap src token.start).accepts src token := by
      simp [takes_iff, ht]
    simp only [htakes, if_neg ht]
    generalize pass.fillGap src token.start = filled
    by_cases ha : filled.accepts src token
    · simp [emit_of_accepts styles ht ha, ha]
    · simp [emit, ht, ha]

theorem rejected_step : (pass.step src styles token).rejected =
    pass.rejected + if pass.verdict src styles token = .rejected then 1 else 0 := by
  have hkept := (pass.step_spec src styles token).2
  rw [verdict_eq]
  by_cases ht : token.text = ""
  · have hno : ¬pass.Takes src token := fun htakes => htakes.1 ht
    simp only [ht, hno, if_true, if_false, ne_eq, not_true_eq_false, reduceCtorEq] at hkept ⊢
    omega
  · by_cases htakes : pass.Takes src token <;>
      simp only [ht, htakes, if_true, if_false, ne_eq, not_false_eq_true, reduceCtorEq] at hkept ⊢ <;>
      omega

theorem rejected_foldl (tokens : List Token) : (tokens.foldl (step src styles) pass).rejected =
    pass.rejected + (verdicts src styles pass tokens).count .rejected := by
  induction tokens generalizing pass with
  | nil => rfl
  | cons token tokens ih =>
    rw [List.foldl_cons, ih, rejected_step, verdicts, List.count_cons]
    simp only [beq_iff_eq]
    omega

/-! ### Taking the tags off -/

theorem fillGap_bare (target : Position) :
    pass.bare.fillGap src target = (pass.fillGap src target).bare := by
  unfold fillGap
  by_cases h : pass.position < target
  · have hbare : pass.bare.position < target := h
    rw [if_pos h, if_pos hbare]
    rfl
  · have hbare : ¬pass.bare.position < target := h
    rw [if_neg h, if_neg hbare]

theorem emit_bare :
    pass.bare.emit src styles' token.unclassified = (pass.emit src styles token).bare := by
  by_cases ht : token.text = ""
  · have hbare : token.unclassified.text = "" := ht
    simp only [emit, if_pos ht, if_pos hbare]
  have htb : token.unclassified.text ≠ "" := ht
  by_cases ha : pass.accepts src token
  · have hbare : pass.bare.accepts src token.unclassified := ha
    rw [emit_of_accepts styles ht ha, emit_of_accepts styles' htb hbare, ← bare_fragmentOf styles]
    rfl
  · have hbare : ¬pass.bare.accepts src token.unclassified := ha
    simp only [emit, if_neg ht, if_neg ha, if_neg htb, if_neg hbare]
    rfl

/-- A step without kinds does to the bare pass what the step does to the pass. -/
theorem step_bare :
    pass.bare.step src styles' token.unclassified = (pass.step src styles token).bare := by
  rw [step, step, ← emit_bare src styles styles', ← fillGap_bare]
  rfl

theorem takes_bare : pass.bare.Takes src token.unclassified ↔ pass.Takes src token := by
  rw [Takes, Takes, fillGap_bare]
  rfl

theorem verdict_bare :
    pass.bare.verdict src styles' token.unclassified = pass.verdict src styles token := by
  simp only [verdict_eq, takes_bare]
  rfl

theorem foldl_bare (tokens : List Token) :
    (tokens.map Token.unclassified).foldl (step src styles') pass.bare =
      (tokens.foldl (step src styles) pass).bare := by
  induction tokens generalizing pass with
  | nil => rfl
  | cons token tokens ih =>
    rw [List.map_cons, List.foldl_cons, List.foldl_cons, step_bare src styles, ih]

theorem states_bare (tokens : List Token) :
    states src styles' pass.bare (tokens.map Token.unclassified) =
      (states src styles pass tokens).map bare := by
  induction tokens generalizing pass with
  | nil => rfl
  | cons token tokens ih =>
    have hfilled : pass.bare.fillGap src token.unclassified.start =
        (pass.fillGap src token.start).bare := fillGap_bare src pass token.start
    rw [List.map_cons, states, states, hfilled, emit_bare src styles, ih]
    rfl

theorem verdicts_bare (tokens : List Token) :
    verdicts src styles' pass.bare (tokens.map Token.unclassified) =
      verdicts src styles pass tokens := by
  induction tokens generalizing pass with
  | nil => rfl
  | cons token tokens ih =>
    rw [List.map_cons, verdicts, verdicts, verdict_bare src styles, step_bare src styles, ih]

theorem finish_bare : pass.bare.finish src = (pass.finish src).map Fragment.bare := by
  unfold finish
  rw [List.map_reverse]
  rfl

end
end Pass

/-- Deleting the tags gives the markup of the tokens without their kinds. -/
theorem dropTags_reconcile_eq (source : String) (tokens : List Token) (styles styles' : StyleMap) :
    dropTags false (reconcile source tokens styles).toList =
      (reconcile source (tokens.map Token.unclassified) styles').toList := by
  have hrun := Pass.foldl_bare (.ofText source.toList) styles styles' {} tokens
  have hfragments : fragments source (tokens.map Token.unclassified) styles' =
      (fragments source tokens styles).map Fragment.bare := by
    rw [fragments, fragments, ← Pass.finish_bare, Pass.run, Pass.run, ← hrun]
    rfl
  rw [reconcile, String.toList_ofList, Fragment.dropTags_flatMap_markup, reconcile,
    String.toList_ofList, hfragments, Fragment.flatMap_markup_bare]

/-- Passes over a source whose tokens differ in their kinds at most, with any names for the classes, give
the same markup up to the tags, accept and reject the tokens at the same places of the stream, and go
through the same positions, texts and counts of rejected tokens. -/
theorem classification_is_presentation (source : String) {tokens tokens' : List Token}
    (h : List.Forall₂ Token.AgreesBesideKind tokens tokens') (styles styles' : StyleMap) :
    let src := Source.ofText source.toList
    let verdicts := Pass.verdicts src styles {} tokens
    dropTags false (reconcile source tokens styles).toList =
      dropTags false (reconcile source tokens' styles').toList ∧
    verdicts = Pass.verdicts src styles' {} tokens' ∧
    rejectedCount source tokens styles = verdicts.count .rejected ∧
    (Pass.states src styles {} tokens).map Pass.bare =
      (Pass.states src styles' {} tokens').map Pass.bare := by
  intro src verdicts
  have hbare := Token.forall₂_agreesBesideKind_iff.1 h
  refine ⟨?_, ?_, ?_, ?_⟩
  · rw [dropTags_reconcile_eq source tokens styles styles', hbare,
      ← dropTags_reconcile_eq source tokens' styles' styles']
  · calc verdicts
        = Pass.verdicts src styles' {} (tokens.map Token.unclassified) :=
          (Pass.verdicts_bare src styles styles' {} tokens).symm
      _ = Pass.verdicts src styles' {} (tokens'.map Token.unclassified) := by rw [hbare]
      _ = Pass.verdicts src styles' {} tokens' := Pass.verdicts_bare src styles' styles' {} tokens'
  · have hcount := Pass.rejected_foldl src styles {} tokens
    exact hcount.trans (Nat.zero_add _)
  · calc (Pass.states src styles {} tokens).map Pass.bare
        = Pass.states src styles' {} (tokens.map Token.unclassified) :=
          (Pass.states_bare src styles styles' {} tokens).symm
      _ = Pass.states src styles' {} (tokens'.map Token.unclassified) := by rw [hbare]
      _ = (Pass.states src styles' {} tokens').map Pass.bare :=
          Pass.states_bare src styles' styles' {} tokens'

/-- Tokens that are accepted, dropped and passed over, an emoji and a line feed among them. Other kinds
and other names change the markup, but not without its tags. -/
theorem classification_is_presentation_renamed :
    let source := "a😀<b\nc"
    let stream (kind : TokenKind) : List Token := [⟨kind, "a", 1, 1⟩, ⟨.value, "", 1, 2⟩,
      ⟨kind, "😀<", 1, 2⟩, ⟨.comment, "<b", 1, 3⟩, ⟨.other "x", "b\nc", 2, 5⟩]
    let renamed : StyleMap := ⟨fun _ => ⟨"k", by decide⟩⟩
    List.Forall₂ Token.AgreesBesideKind (stream .text) (stream (.other "")) ∧
    reconcile source (stream .text) .default ≠ reconcile source (stream (.other "")) renamed ∧
    dropTags false (reconcile source (stream .text) .default).toList =
      dropTags false (reconcile source (stream (.other "")) renamed).toList ∧
    Pass.verdicts (.ofText source.toList) renamed {} (stream (.other "")) =
      [.accepted, .passedOver, .accepted, .rejected, .accepted] := by
  intro source stream renamed
  have h : List.Forall₂ Token.AgreesBesideKind (stream .text) (stream (.other "")) :=
    Token.forall₂_agreesBesideKind_iff.2 rfl
  obtain ⟨htext, hverdicts, -, -⟩ := classification_is_presentation source h .default renamed
  exact ⟨h, by decide +kernel, htext, hverdicts ▸ by decide +kernel⟩

end LiveMarkup
