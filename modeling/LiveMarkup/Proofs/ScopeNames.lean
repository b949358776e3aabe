import LiveMarkup.Output.StaticPane
import LiveMarkup.Proofs.GrammarMarks
import LiveMarkup.Proofs.PaneText

/-! # The names of scopes

The scopes that the grammars name consist of characters that stand for themselves in markup, so their
names are written into tags as they are.
-/
namespace LiveMarkup

/-- Characters that stand for themselves in markup. -/
def NeedsNoEscape (text : List Char) : Prop := ∀ c ∈ text, entityOf c = none

def isReserved (c : Char) : Bool := c == '&' || c == '<' || c == '>' || c == '"' || c == '\''

theorem entityOf_eq_none {c : Char} (h : isReserved c = false) : entityOf c = none := by
  simp only [isReserved, Bool.or_eq_false_iff, beq_eq_false_iff_ne] at h
  simp [entityOf, h]

theorem needsNoEscape_of_all {text : List Char} (h : (text.all fun c => !isReserved c) = true) :
    NeedsNoEscape text :=
  fun c hc => entityOf_eq_none (by simpa using List.all_eq_true.1 h c hc)

theorem NeedsNoEscape.notMem {text : List Char} (h : NeedsNoEscape text) {c : Char}
    (hc : (entityOf c).isSome) : c ∉ text := by
  intro hmem
  rw [h c hmem] at hc
  exact nomatch hc

namespace Highlight

theorem subset_intercalate {piece : List Char} {pieces : List (List Char)} (h : piece ∈ pieces)
    (separator : List Char) : piece ⊆ separator.intercalate pieces := by
  induction pieces with
  | nil => exact absurd h List.not_mem_nil
  | cons first pieces ih =>
    cases pieces with
    | nil =>
      rw [List.mem_singleton.1 h]
      simp
    | cons next pieces =>
      rw [List.intercalate_cons_cons]
      rcases List.mem_cons.1 h with rfl | h
      · exact fun c hc => List.mem_append_left _ (List.mem_append_left _ hc)
      · exact fun c hc => List.mem_append_right _ (ih h hc)

/-! ### Names that need no escaping -/

def CleanName (name : String) : Prop := NeedsNoEscape name.toList

theorem cleanName_ofList {name : List Char} (h : (name.all fun c => !isReserved c) = true) :
    CleanName (String.ofList name) := by
  rw [CleanName, String.toList_ofList]
  exact needsNoEscape_of_all h

theorem CleanName.append {front back : String} (h : CleanName front) (h' : CleanName back) :
    CleanName (front ++ back) := by
  intro c hc
  rw [String.toList_append] at hc
  exact (List.mem_append.1 hc).elim (h c) (h' c)

theorem cleanName_repr (n : Nat) : CleanName n.repr := by
  rw [Nat.repr_eq_ofList_toDigits]
  refine cleanName_ofList (List.all_eq_true.2 fun c hc => ?_)
  have hdigit := Nat.isDigit_of_mem_toDigits (by decide) le_rfl hc
  have hother : ∀ d : Char, d.isDigit = false → c ≠ d := by
    rintro _ hd rfl
    exact nomatch hd.symm.trans hdigit
  simp [isReserved, hother]

/-- Scope names that stand for themselves in markup. -/
def CleanScope (scope : Scope) : Prop := ∀ name ∈ scope, NeedsNoEscape name.toList

theorem CleanScope.plain {scope : Scope} (h : CleanScope scope) : PlainScope scope :=
  fun name hname => ⟨(h name hname).notMem rfl, (h name hname).notMem rfl⟩

theorem CleanName.scope {names : String} (h : CleanName names) : CleanScope (scope names) := by
  intro name hname c hc
  rw [Highlight.scope] at hname
  obtain ⟨piece, hpiece, rfl⟩ := List.mem_map.1 hname
  rw [String.toList_ofList] at hc
  have hpieces := subset_intercalate hpiece ['.']
  rw [List.intercalate_splitOn] at hpieces
  exact h c (hpieces hc)

theorem cleanScope_ofList {names : List Char} (h : (names.all fun c => !isReserved c) = true) :
    CleanScope (scope (String.ofList names)) :=
  (cleanName_ofList h).scope

/-! ### Clauses and contexts -/

def Clause.Clean (c : Clause) : Prop := ∀ s ∈ c.named, CleanScope s

def CleanClauses (clauses : List Clause) : Prop := ∀ c ∈ clauses, c.Clean

def Context.Clean (c : Context) : Prop := ∀ s ∈ c.named, CleanScope s

def CleanContexts (contexts : List Context) : Prop := ∀ c ∈ contexts, c.Clean

section
variable {clauses clauses' : List Clause} {contexts contexts' : List Context}

@[simp] theorem cleanClauses_nil : CleanClauses [] := fun _ h => nomatch h

@[simp] theorem cleanClauses_cons {c : Clause} :
    CleanClauses (c :: clauses) ↔ c.Clean ∧ CleanClauses clauses := List.forall_mem_cons

@[simp] theorem cleanClauses_append :
    CleanClauses (clauses ++ clauses') ↔ CleanClauses clauses ∧ CleanClauses clauses' :=
  List.forall_mem_append

@[simp] theorem cleanContexts_nil : CleanContexts [] := fun _ h => nomatch h

@[simp] theorem cleanContexts_cons {c : Context} :
    CleanContexts (c :: contexts) ↔ c.Clean ∧ CleanContexts contexts := List.forall_mem_cons

@[simp] theorem cleanContexts_append :
    CleanContexts (contexts ++ contexts') ↔ CleanContexts contexts ∧ CleanContexts contexts' :=
  List.forall_mem_append

end

section
variable {pattern : Pattern} {action : Action} {name : String}

@[simp] theorem clean_rule {r : Rule} : (Clause.rule r).Clean ↔
    (∀ s ∈ r.scopes, CleanScope s) ∧ ∀ p ∈ r.parts, ∀ s ∈ p.2, CleanScope s := by
  simp only [Clause.Clean, Clause.named, Rule.named, List.forall_mem_append, List.mem_flatMap,
    forall_exists_index, and_imp]
  exact and_congr_right fun _ => ⟨fun h p hp s hs => h s p hp hs, fun h s p hp hs => h p hp s hs⟩

@[simp] theorem clean_rulesOf : (Clause.rulesOf name).Clean := fun _ h => nomatch h

@[simp] theorem clean_bare : (bare pattern action).Clean := fun _ h => nomatch h

@[simp] theorem clean_paintAnd : (paintAnd action pattern name).Clean ↔ CleanScope (scope name) := by
  simp [paintAnd]

@[simp] theorem clean_paint : (paint pattern name).Clean ↔ CleanScope (scope name) := clean_paintAnd

@[simp] theorem clean_paintLeave : (paintLeave pattern name).Clean ↔ CleanScope (scope name) :=
  clean_paintAnd

@[simp] theorem clean_paintEnter {contexts : List String} :
    (paintEnter pattern name contexts).Clean ↔ CleanScope (scope name) := clean_paintAnd

@[simp] theorem clean_paintParts {parts : List (Nat × String)} :
    (paintParts pattern parts action).Clean ↔ ∀ p ∈ parts, CleanScope (scope p.2) := by
  simp only [paintParts, clean_rule, List.forall_mem_map, List.forall_mem_singleton]
  exact ⟨fun h => h.2, fun h => ⟨fun _ hs => absurd hs List.not_mem_nil, h⟩⟩

theorem Context.clean_iff {c : Context} : c.Clean ↔ (∀ s ∈ c.around, CleanScope s) ∧
    (∀ s ∈ c.inside, CleanScope s) ∧ CleanClauses c.clauses := by
  simp only [Clean, named, List.forall_mem_append, List.mem_flatMap, forall_exists_index, and_imp,
    CleanClauses, Clause.Clean, and_assoc]
  exact and_congr_right fun _ => and_congr_right fun _ =>
    ⟨fun h p hp s hs => h s p hp hs, fun h s p hp hs => h p hp s hs⟩

@[simp] theorem clean_context {common : Bool} {hides : Nat} {around inside : List Scope}
    {clauses : List Clause} : (Context.mk name hides around inside common clauses).Clean ↔
      (∀ s ∈ around, CleanScope s) ∧ (∀ s ∈ inside, CleanScope s) ∧ CleanClauses clauses :=
  Context.clean_iff

end

/-! ### The grammars -/

-- each list is split into the names it holds, and each name is looked through
theorem clean_jsonContexts : CleanContexts jsonGrammar.contexts := by
  simp [jsonGrammar, jsonValue, jsonStringBody, jsonComments]
  and_intros <;> exact cleanScope_ofList rfl

theorem clean_htmlContexts : CleanContexts htmlContexts := by
  simp [htmlContexts, htmlClauses, tagRule, tagRuleIn, tagContext, tagContextIn, attributeRule,
    valueContexts]
  and_intros <;> exact cleanScope_ofList rfl

theorem clean_linkRules : CleanClauses linkRules := by
  simp [linkRules, Reference.inPlaceRule, Reference.labelRules, Reference.startRule, Reference.whole,
    Reference.bracket, linkReference, imageReference, addressRule, mdScope]
  and_intros <;> exact cleanScope_ofList rfl

theorem clean_textContexts : CleanContexts textContexts := by
  simp [textContexts, plainRules, codeRule, codeContext, emphasisMarks, doubleRule, emphasisRules,
    emphasisRule, breakRules, clean_linkRules, insideEmphasis, looseMarks, emphasisStops,
    emphasisContext, remainingContext, doubleContext, Reference.inPlaceRule, Reference.labelRules, Reference.startRule, Reference.contexts,
    Reference.textContext, Reference.targetContext, Reference.targetParts, Reference.labelParts,
    Reference.whole, Reference.bracket, linkReference, imageReference, bareAddressContexts,
    Emphasis.markup, Emphasis.opening, Emphasis.closing, Emphasis.name, mdScope]
  and_intros <;> exact cleanScope_ofList rfl

theorem cleanName_markdown : CleanName ".markdown" := cleanName_ofList rfl

theorem cleanName_heading (level : Nat) : CleanName ("markup.heading." ++ level.repr) := by
  have hstart : CleanName "markup.heading." := cleanName_ofList rfl
  exact hstart.append (cleanName_repr level)

theorem clean_headingContext (level : Nat) : (headingContext level).Clean := by
  have hlevel := ((cleanName_heading level).append cleanName_markdown).scope
  simp [headingContext, mdScope, hlevel]
  and_intros <;> exact cleanScope_ofList rfl

theorem clean_underlineRule (mark : String) (level : Nat) : (underlineRule mark level).Clean := by
  have hsetext : CleanName ".setext" := cleanName_ofList rfl
  have hlevel := (((cleanName_heading level).append hsetext).append cleanName_markdown).scope
  simp [underlineRule, mdScope, hlevel]
  exact cleanScope_ofList rfl

theorem clean_lineRules : CleanClauses lineRules := by
  have hhead : ∀ level, (headingRule level).Clean := by
    intro level
    simp [headingRule]
    exact cleanScope_ofList rfl
  have hheads : CleanClauses ((List.range 6).map fun n => headingRule (n + 1)) :=
    List.forall_mem_map.2 fun n _ => hhead (n + 1)
  simp [lineRules, indentedCodeRule, hheads]
  exact cleanScope_ofList rfl

theorem clean_listContexts (numbered : Bool) : CleanContexts (listContexts numbered) := by
  cases numbered
  all_goals
    simp [listContexts, listName, bulletRules, bulletRule, bulletScope, leaveAtLineStart, textAndMarkup,
      indentedCodeRule, listScope, itemScope, bulletMark, mdScope]
    and_intros <;> exact cleanScope_ofList rfl

theorem clean_itemContexts : CleanContexts itemContexts := by
  simp [itemContexts, leaveAtLineStart, textAndMarkup, itemScope, bulletRules, bulletRule, bulletScope,
    bulletMark, mdScope, listName]
  and_intros <;> exact cleanScope_ofList rfl

theorem clean_quoteContexts : CleanContexts quoteContexts := by
  simp [quoteContexts, leaveAtLineStart, quotedBulletRule, listName, bulletScope, listScope, itemScope,
    bulletMark, mdScope, clean_lineRules]
  and_intros <;> exact cleanScope_ofList rfl

theorem clean_tableContexts : CleanContexts tableContexts := by
  simp [tableContexts, cellRules, leaveAtLineStart, emphasisMarks, Emphasis.opening, Emphasis.name,
    mdScope, clean_linkRules]
  and_intros <;> exact cleanScope_ofList rfl

theorem clean_markupContexts : CleanContexts markupContexts := by
  simp [markupContexts, markupContext, markupScope]
  exact cleanScope_ofList rfl

theorem clean_paragraphContexts : CleanContexts paragraphContexts := by
  simp [paragraphContexts, clean_underlineRule, textAndMarkup, mdScope]
  and_intros <;> exact cleanScope_ofList rfl

theorem clean_markdownContexts : CleanContexts markdownContexts := by
  have hheads : CleanContexts ((List.range 6).map fun n => headingContext (n + 1)) :=
    List.forall_mem_map.2 fun n _ => clean_headingContext (n + 1)
  simp [markdownContexts, hheads, clean_listContexts, clean_itemContexts, clean_quoteContexts,
    clean_tableContexts, clean_markupContexts, clean_paragraphContexts, clean_textContexts,
    clean_lineRules, bulletRules, bulletRule, listName, bulletScope, bulletMark, markupRules, definitionRule, mdScope]
  and_intros <;> exact cleanScope_ofList rfl

theorem clean_grammar {g : Grammar} (hscope : CleanScope g.scope) (h : CleanContexts g.contexts) :
    ∀ s ∈ g.named, CleanScope s := by
  refine List.forall_mem_cons.2 ⟨hscope, fun s hs => ?_⟩
  obtain ⟨c, hc, hs⟩ := List.mem_flatMap.1 hs
  exact h c hc s hs

end Highlight

open Highlight in
/-- The scopes that the grammar of a pane names need no escaping. -/
theorem PaneLanguage.clean_named (language : PaneLanguage) :
    ∀ s ∈ language.grammar.named, CleanScope s := by
  cases language with
  | html => exact clean_grammar (cleanScope_ofList rfl) clean_htmlContexts
  | markdown =>
    exact clean_grammar (cleanScope_ofList rfl)
      (cleanContexts_append.2 ⟨clean_markdownContexts, clean_htmlContexts⟩)
  | json => exact clean_grammar (cleanScope_ofList rfl) clean_jsonContexts
  | plainText =>
    refine clean_grammar (cleanScope_ofList rfl) ?_
    simp [grammar, plainGrammar]

end LiveMarkup
