import LiveMarkup.Editor
import LiveMarkup.Proofs.RoundTrip

/-! # The grammar of live markup

Live markup is a word of texts and spans. Texts are escaped, spans hold text only, and the name in the
tag of a span is the one set last for the class of a token, made of characters that need no escaping.
-/
namespace LiveMarkup

/-- The references by which markup text stands for a character. -/
def entities : List (List Char) :=
  [['&', 'a', 'm', 'p', ';'], ['&', 'l', 't', ';'], ['&', 'g', 't', ';'],
    ['&', 'q', 'u', 'o', 't', ';'], ['&', '#', '0', '3', '9', ';']]

/-- A character that markup text cannot hold as it is. The ampersand is not one of them, since every
entity starts with it. -/
def IsReserved (c : Char) : Prop := c = '<' ∨ c = '>' ∨ c = '"' ∨ c = '\''

instance (c : Char) : Decidable (IsReserved c) := inferInstanceAs (Decidable (_ ∨ _ ∨ _ ∨ _))

/-- Text without reserved characters in which every ampersand starts an entity. -/
structure Escaped (text : List Char) : Prop where
  unreserved : ∀ c ∈ text, ¬IsReserved c
  ampersand : ∀ before behind, text = before ++ '&' :: behind → ∃ e ∈ entities, e <+: '&' :: behind

theorem escaped_nil : Escaped [] := by
  refine ⟨fun c hc => absurd hc List.not_mem_nil, fun before behind h => ?_⟩
  exact absurd h.symm (List.append_ne_nil_of_right_ne_nil _ (List.cons_ne_nil _ _))

theorem Escaped.cons {c : Char} {text : List Char} (h : Escaped text) (hc : ¬IsReserved c)
    (hamp : c = '&' → ∃ e ∈ entities, e <+: c :: text) : Escaped (c :: text) where
  unreserved := by
    intro d hd
    rcases List.mem_cons.1 hd with rfl | hd
    · exact hc
    · exact h.unreserved d hd
  ampersand := by
    intro before behind heq
    cases before with
    | nil =>
      obtain ⟨rfl, rfl⟩ := List.cons.inj heq
      exact hamp rfl
    | cons d before => exact h.ampersand before behind (List.cons.inj heq).2

theorem Escaped.append {plain text : List Char} (h : Escaped text)
    (hplain : ∀ c ∈ plain, ¬IsReserved c ∧ c ≠ '&') : Escaped (plain ++ text) := by
  induction plain with
  | nil => exact h
  | cons c plain ih =>
    obtain ⟨hc, hne⟩ := hplain c List.mem_cons_self
    exact (ih fun d hd => hplain d (List.mem_cons_of_mem c hd)).cons hc fun heq => absurd heq hne

/-- An entity is an ampersand and characters that stand for themselves. -/
theorem exists_of_mem_entities {e : List Char} (h : e ∈ entities) :
    ∃ name, e = '&' :: name ∧ ∀ c ∈ name, ¬IsReserved c ∧ c ≠ '&' := by
  simp only [entities, List.mem_cons, List.not_mem_nil, or_false] at h
  rcases h with rfl | rfl | rfl | rfl | rfl <;> exact ⟨_, rfl, by simp [IsReserved]⟩

theorem Escaped.entity_append {e text : List Char} (he : e ∈ entities) (h : Escaped text) :
    Escaped (e ++ text) := by
  obtain ⟨name, rfl, hname⟩ := exists_of_mem_entities he
  exact (h.append hname).cons (by decide) fun _ => ⟨_, he, List.prefix_append _ text⟩

theorem mem_entities_of_entityOf {c : Char} {e : List Char} (h : entityOf c = some e) :
    e ∈ entities := by
  unfold entityOf at h
  split_ifs at h <;> (obtain rfl := Option.some.inj h; decide)

theorem unreserved_of_entityOf {c : Char} (h : entityOf c = none) : ¬IsReserved c ∧ c ≠ '&' := by
  unfold entityOf at h
  split_ifs at h with hamp hlt hgt hquot hapos
  exact ⟨fun hr => by rcases hr with hr | hr | hr | hr <;> contradiction, hamp⟩

theorem escaped_escape (s : List Char) : Escaped (escape s) := by
  induction s with
  | nil => exact escaped_nil
  | cons c s ih =>
    rw [escape_cons, escapeChar]
    cases he : entityOf c with
    | some e => exact ih.entity_append (mem_entities_of_entityOf he)
    | none =>
      refine ih.append fun d hd => ?_
      obtain rfl := List.mem_singleton.1 hd
      exact unreserved_of_entityOf he

/-- Words of texts and spans over a set of names. A span holds a text and no other span. -/
inductive MarkupWord (IsName : List Char → Prop) : List Char → Prop
  | nil : MarkupWord IsName []
  | text {text rest : List Char} (escaped : Escaped text) (more : MarkupWord IsName rest) :
      MarkupWord IsName (text ++ rest)
  | span {name text rest : List Char} (isName : IsName name) (escaped : Escaped text)
      (more : MarkupWord IsName rest) :
      MarkupWord IsName
        ("<span class=\"".toList ++ name ++ "\">".toList ++ text ++ "</span>".toList ++ rest)

def IsNameLetter (c : Char) : Prop :=
  ('A' ≤ c ∧ c ≤ 'Z') ∨ ('a' ≤ c ∧ c ≤ 'z') ∨ ('0' ≤ c ∧ c ≤ '9') ∨ c = '_' ∨ c = '-'

instance (c : Char) : Decidable (IsNameLetter c) := inferInstanceAs (Decidable (_ ∨ _ ∨ _ ∨ _ ∨ _))

/-- A name that can stand in an attribute value as it is. -/
def IsSafeName (name : List Char) : Prop := name ≠ [] ∧ ∀ c ∈ name, IsNameLetter c

instance (name : List Char) : Decidable (IsSafeName name) := inferInstanceAs (Decidable (_ ∧ _))

theorem isNameChar_iff (c : Char) : isNameChar c = true ↔ IsNameLetter c := by
  simp only [isNameChar, Char.isAlphanum, Char.isAlpha, Char.isUpper, Char.isLower, Char.isDigit,
    Bool.or_eq_true, Bool.and_eq_true, decide_eq_true_eq]
  unfold IsNameLetter
  rw [or_assoc, or_assoc, or_assoc]
  exact Iff.rfl

namespace ClassName

theorem valid_iff (text : String) :
    (text != "" && text.toList.all isNameChar) = true ↔ IsSafeName text.toList := by
  simp only [Bool.and_eq_true, bne_iff_ne, List.all_eq_true, isNameChar_iff, IsSafeName, ne_eq,
    String.toList_eq_nil_iff]

theorem isSafeName (name : ClassName) : IsSafeName name.text.toList :=
  (valid_iff name.text).1 name.valid

theorem text_of_ofText? {text : String} {name : ClassName} (h : ofText? text = some name) :
    name.text = text := by
  unfold ofText? at h
  split_ifs at h
  exact congrArg ClassName.text (Option.some.inj h).symm

theorem ofText?_eq_none_iff (text : String) : ofText? text = none ↔ ¬IsSafeName text.toList := by
  rw [← valid_iff, ofText?]
  split_ifs with h <;> simp [h]

end ClassName

namespace StyleMap

/-- Renames classes in order. A refused name leaves the map as it was. -/
def renameAll (styles : StyleMap) (renames : List (StyleClass × String)) : StyleMap :=
  renames.foldl (fun styles r => (styles.rename r.1 r.2).toOption.getD styles) styles

/-- The renames that a table of class keys and names asks for. -/
def renamesOf (entries : List (String × String)) : List (StyleClass × String) :=
  entries.filterMap fun e => (StyleClass.ofKey? e.1).map fun c => (c, e.2)

theorem ofEntries_eq (entries : List (String × String)) :
    ofEntries entries = default.renameAll (renamesOf entries) := by
  rw [ofEntries, renameAll, renamesOf, List.foldl_filterMap]
  congr 1
  funext styles e
  unfold applyEntry
  cases StyleClass.ofKey? e.1 with
  | none => rfl
  | some c =>
    simp only [Option.map_some]
    cases styles.rename c e.2 <;> rfl

/-- What a class is called after renames of the defaults: the last safe name given to it, if any. -/
def lastName (renames : List (StyleClass × String)) (c : StyleClass) : String :=
  match renames.reverse.find? fun r => r.1 = c ∧ IsSafeName r.2.toList with
  | some r => r.2
  | none => (ClassName.default c).text

theorem className_renameAll (renames : List (StyleClass × String)) (c : StyleClass) :
    ((default.renameAll renames).className c).text = lastName renames c := by
  induction renames using List.reverseRecOn with
  | nil => rfl
  | append_singleton renames r ih =>
    -- a rename that is refused or of another class leaves the answer to the earlier ones
    rw [lastName, List.reverse_concat, List.find?_cons]
    rw [lastName] at ih
    rw [renameAll, List.foldl_concat, ← renameAll, rename]
    cases hname : ClassName.ofText? r.2 with
    | none =>
      have hunsafe := (ClassName.ofText?_eq_none_iff r.2).1 hname
      simpa [Except.toOption, hunsafe] using ih
    | some name =>
      have hsafe : IsSafeName r.2.toList := by
        rw [← ClassName.text_of_ofText? hname]
        exact name.isSafeName
      by_cases hc : r.1 = c
      · simp [Except.toOption, hsafe, hc, ClassName.text_of_ofText? hname]
      · simpa [Except.toOption, hc, Ne.symm hc] using ih

end StyleMap

/-- The names in the markup of tokens: that of the class of a token, as it was set last. -/
def IsNameOf (renames : List (StyleClass × String)) (tokens : List Token) (name : List Char) : Prop :=
  IsSafeName name ∧ ∃ token ∈ tokens, ∃ c, StyleClass.ofKind? token.kind = some c ∧
    name = (StyleMap.lastName renames c).toList

namespace MarkupWord

theorem mono {IsName IsName' : List Char → Prop} {word : List Char} (h : MarkupWord IsName word)
    (himp : ∀ name, IsName name → IsName' name) : MarkupWord IsName' word := by
  induction h with
  | nil => exact .nil
  | text escaped _ ih => exact .text escaped ih
  | span isName escaped _ ih => exact .span (himp _ isName) escaped ih

/-- A piece of markup that can stand in front of any word. -/
def Starts (IsName : List Char → Prop) (markup : List Char) : Prop :=
  ∀ rest, MarkupWord IsName rest → MarkupWord IsName (markup ++ rest)

variable {IsName : List Char → Prop}

theorem starts_plain (text : List Char) : Starts IsName (Fragment.plain text).markup := by
  intro rest more
  rw [Fragment.markup]
  exact MarkupWord.text (escaped_escape text) more

theorem starts_span {name : ClassName} (h : IsName name.text.toList) (text : List Char) :
    Starts IsName (Fragment.span name text).markup := by
  intro rest more
  unfold Fragment.markup Fragment.openTag Fragment.closeTag
  exact MarkupWord.span h (escaped_escape text) more

theorem flatMap_markup {fragments : List Fragment}
    (h : ∀ f ∈ fragments, Starts IsName f.markup) :
    MarkupWord IsName (fragments.flatMap Fragment.markup) := by
  induction fragments with
  | nil => exact .nil
  | cons f fragments ih =>
    rw [List.flatMap_cons]
    exact h f List.mem_cons_self _ (ih fun g hg => h g (List.mem_cons_of_mem f hg))

theorem escapeText (source : String) : MarkupWord IsName (escapeText source).toList := by
  have h : MarkupWord IsName ((Fragment.plain source.toList).markup ++ []) :=
    starts_plain source.toList [] .nil
  simpa [LiveMarkup.escapeText, Fragment.markup] using h

end MarkupWord

namespace Pass

section
variable {P : Fragment → Prop} (plain : ∀ text, P (.plain text))
include plain

theorem forall_fillGap {pass : Pass} (h : ∀ f ∈ pass.fragments, P f) (src : Source)
    (target : Position) : ∀ f ∈ (pass.fillGap src target).fragments, P f := by
  unfold fillGap
  split_ifs
  · exact List.forall_mem_cons.2 ⟨plain _, h⟩
  · exact h

theorem forall_step {pass : Pass} (h : ∀ f ∈ pass.fragments, P f) (src : Source)
    {styles : StyleMap} {token : Token} (htoken : P (fragmentOf styles token)) :
    ∀ f ∈ (pass.step src styles token).fragments, P f := by
  have hgap := forall_fillGap plain h src token.start
  unfold step emit
  split_ifs
  · exact hgap
  · exact List.forall_mem_cons.2 ⟨htoken, hgap⟩
  · exact hgap

/-- What holds of bare text and of every token as it is shown holds of all that a pass produces. -/
theorem forall_foldl {pass : Pass} (h : ∀ f ∈ pass.fragments, P f) (src : Source)
    {styles : StyleMap} {tokens : List Token} (htokens : ∀ t ∈ tokens, P (fragmentOf styles t)) :
    ∀ f ∈ (tokens.foldl (step src styles) pass).fragments, P f := by
  induction tokens generalizing pass with
  | nil => exact h
  | cons token tokens ih =>
    obtain ⟨htoken, hrest⟩ := List.forall_mem_cons.1 htokens
    exact ih (forall_step plain h src htoken) hrest

end
end Pass

theorem forall_fragments {P : Fragment → Prop} (plain : ∀ text, P (.plain text)) (source : String)
    {tokens : List Token} {styles : StyleMap} (htokens : ∀ t ∈ tokens, P (Pass.fragmentOf styles t)) :
    ∀ f ∈ fragments source tokens styles, P f := by
  have hrun : ∀ f ∈ (Pass.run (.ofText source.toList) styles tokens).fragments, P f :=
    Pass.forall_foldl plain (fun f hf => absurd hf List.not_mem_nil) _ htokens
  intro f hf
  rw [fragments, Pass.finish, List.mem_reverse] at hf
  exact List.forall_mem_cons.2 ⟨plain _, hrun⟩ f hf

theorem markupWord_reconcile (renames : List (StyleClass × String)) (source : String)
    (tokens : List Token) :
    MarkupWord (IsNameOf renames tokens)
      (reconcile source tokens (StyleMap.default.renameAll renames)).toList := by
  rw [reconcile, String.toList_ofList]
  refine MarkupWord.flatMap_markup
    (forall_fragments (P := fun f => MarkupWord.Starts _ f.markup) MarkupWord.starts_plain source
      fun token htoken => ?_)
  unfold Pass.fragmentOf StyleMap.nameFor
  cases hc : StyleClass.ofKind? token.kind with
  | none => exact MarkupWord.starts_plain _
  | some c =>
    refine MarkupWord.starts_span ⟨ClassName.isSafeName _, token, htoken, c, hc, ?_⟩ _
    rw [StyleMap.className_renameAll]

/-- Whatever the source, the tokens and the names asked for are, live markup is a word of escaped texts
and spans, and a span is named as its class was last. A table of names is a list of renames. -/
theorem markupWord_live (renames : List (StyleClass × String)) (source : String)
    (tokens : List Token) (lexer : Lexer) :
    let styles := StyleMap.default.renameAll renames
    MarkupWord (IsNameOf renames tokens) (reconcile source tokens styles).toList ∧
      MarkupWord (fun name => ∃ read, lexer source = .ok read ∧ IsNameOf renames read name)
        (highlight source lexer styles).toList ∧
      ∀ entries, StyleMap.ofEntries entries = .renameAll .default (StyleMap.renamesOf entries) := by
  intro styles
  refine ⟨markupWord_reconcile renames source tokens, ?_, StyleMap.ofEntries_eq⟩
  unfold highlight
  split
  · exact .escapeText source
  · next read _ hread =>
    exact (markupWord_reconcile renames source read).mono fun name hname => ⟨read, hread, hname⟩
  · exact .escapeText source

end LiveMarkup
