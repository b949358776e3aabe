import Mathlib
import LiveMarkup.Highlight.Grammar

/-! # The marks of a grammar

The marks that a grammar finds stand with the lines they were found in, and every scope that is opened
is one the grammar names.
-/
namespace LiveMarkup.Highlight

/-- Events that open no scope outside a list. -/
def OpensOnly (names : List Scope) (events : List ScopeEvent) : Prop :=
  ∀ e ∈ events, ∀ s, e.mark = .opens s → s ∈ names

section
variable {names : List Scope}

theorem opensOnly_nil : OpensOnly names [] := fun _ h => nomatch h

@[simp] theorem opensOnly_append {front back : List ScopeEvent} :
    OpensOnly names (front ++ back) ↔ OpensOnly names front ∧ OpensOnly names back :=
  List.forall_mem_append

@[simp] theorem opensOnly_reverse {events : List ScopeEvent} :
    OpensOnly names events.reverse ↔ OpensOnly names events := by
  simp only [OpensOnly, List.mem_reverse]

theorem opensOnly_openings (position : Nat) {scopes : List Scope} (h : scopes ⊆ names) :
    OpensOnly names (Grammar.openings position scopes) := by
  intro e he s hs
  obtain ⟨scope, hscope, rfl⟩ := List.mem_map.1 (List.mem_reverse.1 he)
  exact ScopeMark.opens.inj hs ▸ h hscope

theorem opensOnly_closings (position count : Nat) :
    OpensOnly names (Grammar.closings position count) := by
  intro e he s hs
  rw [List.eq_of_mem_replicate he] at hs
  exact nomatch hs

end

/-! ### What a grammar names -/

def Rule.named (r : Rule) : List Scope := r.scopes ++ r.parts.flatMap Prod.snd

def Clause.named : Clause → List Scope
  | .rule r => r.named
  | .rulesOf _ => []

def Context.named (c : Context) : List Scope :=
  c.around ++ c.inside ++ c.clauses.flatMap Clause.named

/-- The scopes a grammar names, its own first. -/
def Grammar.named (g : Grammar) : List Scope := g.scope :: g.contexts.flatMap Context.named

theorem Context.around_subset (c : Context) : c.around ⊆ c.named := by
  intro s hs
  simp [named, hs]

theorem Context.inside_subset (c : Context) : c.inside ⊆ c.named := by
  intro s hs
  simp [named, hs]

theorem Context.named_subset_of_clause {c : Context} {clause : Clause} (h : clause ∈ c.clauses) :
    clause.named ⊆ c.named :=
  fun _ hs => List.mem_append_right _ (List.mem_flatMap.2 ⟨clause, h, hs⟩)

namespace Grammar
variable {g : Grammar}

theorem scope_mem_named (g : Grammar) : g.scope ∈ g.named := List.mem_cons_self

theorem named_of_mem {c : Context} (h : c ∈ g.contexts) : c.named ⊆ g.named :=
  fun _ hs => List.mem_cons_of_mem _ (List.mem_flatMap.2 ⟨c, h, hs⟩)

theorem named_context (g : Grammar) (name : String) : (g.context name).named ⊆ g.named := by
  unfold context
  cases h : g.contexts.find? fun c => c.name = name with
  | none => exact List.nil_subset _
  | some c => exact named_of_mem (List.mem_of_find?_eq_some h)

theorem named_clauses (g : Grammar) (name : String) :
    ∀ c ∈ (g.context name).clauses, c.named ⊆ g.named :=
  fun _ hc => List.Subset.trans (Context.named_subset_of_clause hc) (g.named_context name)

theorem named_rulesWithin {fuel : Nat} {clauses : List Clause}
    (h : ∀ c ∈ clauses, c.named ⊆ g.named) : ∀ r ∈ g.rulesWithin fuel clauses, r.named ⊆ g.named := by
  induction fuel generalizing clauses with
  | zero => exact fun r hr => nomatch hr
  | succ fuel ih =>
    intro r hr
    rw [rulesWithin] at hr
    obtain ⟨c, hc, hr⟩ := List.mem_flatMap.1 hr
    cases c with
    | rule own => exact List.mem_singleton.1 hr ▸ h _ hc
    | rulesOf name => exact ih (g.named_clauses name) r hr

theorem named_rulesIn {c : Context} (h : c.named ⊆ g.named) : ∀ r ∈ g.rulesIn c, r.named ⊆ g.named := by
  intro r hr
  rw [rulesIn] at hr
  simp only [List.mem_append] at hr
  rcases hr with hr | hr
  · split at hr
    · rename_i name _ _
      exact named_rulesWithin (g.named_clauses name) r hr
    · exact nomatch hr
  · have hclauses : ∀ clause ∈ c.clauses, clause.named ⊆ g.named := fun clause hc =>
      List.Subset.trans (Context.named_subset_of_clause hc) h
    exact named_rulesWithin hclauses r hr

/-- Contexts whose scopes the grammar names. -/
def Named (g : Grammar) (contexts : List Entered) : Prop := ∀ e ∈ contexts, e.context.named ⊆ g.named

theorem named_openScopes {contexts : List Entered} (h : g.Named contexts) :
    g.openScopes contexts ⊆ g.named := by
  induction contexts with
  | nil => exact List.cons_subset.2 ⟨g.scope_mem_named, List.nil_subset _⟩
  | cons e outer ih =>
    obtain ⟨he, houter⟩ := List.forall_mem_cons.1 h
    rw [openScopes]
    refine List.append_subset.2 ⟨fun s hs => ?_, List.Subset.trans (List.drop_subset _ _) (ih houter)⟩
    rcases List.mem_append.1 (List.mem_reverse.1 hs) with hs | hs
    · exact he (e.context.around_subset hs)
    · exact he (e.context.inside_subset hs)

theorem named_hiddenScopes {contexts : List Entered} (h : g.Named contexts) :
    g.hiddenScopes contexts ⊆ g.named := by
  cases contexts with
  | nil => exact List.nil_subset _
  | cons e outer =>
    exact List.Subset.trans (List.take_subset _ _) (named_openScopes (List.forall_mem_cons.1 h).2)

theorem named_enteredBy (g : Grammar) (names : List String) (texts : List (Nat × List Char)) :
    g.Named (g.enteredBy names texts) := by
  intro e he
  obtain ⟨name, -, rfl⟩ := List.mem_map.1 he
  exact g.named_context name

theorem named_aroundOf {contexts : List Entered} (h : g.Named contexts) :
    aroundOf (contexts.map Entered.context) ⊆ g.named := by
  intro s hs
  obtain ⟨c, hc, hs⟩ := List.mem_flatMap.1 hs
  obtain ⟨e, he, rfl⟩ := List.mem_map.1 hc
  exact h e he (e.context.around_subset hs)

theorem named_allOf {contexts : List Entered} (h : g.Named contexts) :
    allOf (contexts.map Entered.context) ⊆ g.named := by
  intro s hs
  obtain ⟨c, hc, hs⟩ := List.mem_flatMap.1 hs
  obtain ⟨e, he, rfl⟩ := List.mem_map.1 hc
  rcases List.mem_append.1 hs with hs | hs
  · exact h e he (e.context.around_subset hs)
  · exact h e he (e.context.inside_subset hs)

/-! ### What a match does -/

theorem foundAt_spec {origin : Nat} {justEntered : Bool} {s : Spot} {rules : List Rule} {f : Found}
    (h : foundAt origin justEntered s rules = some f) :
    f.rule ∈ rules ∧ f.rule.pattern.matchAt? s = some f.finish := by
  induction rules generalizing f with
  | nil => exact nomatch h
  | cons r rules ih =>
    have hlater : ∀ {other}, foundAt origin justEntered s rules = some other →
        other.rule ∈ r :: rules ∧ other.rule.pattern.matchAt? s = some other.finish :=
      fun hother => ⟨List.mem_cons_of_mem r (ih hother).1, (ih hother).2⟩
    rw [foundAt] at h
    split at h
    · exact hlater h
    · rename_i finish hmatch
      have hhere : ∀ {idle : Bool}, some ⟨r, s.position, finish, idle⟩ = some f →
          f.rule ∈ r :: rules ∧ f.rule.pattern.matchAt? s = some f.finish := by
        rintro idle hf
        obtain rfl := Option.some.inj hf
        exact ⟨List.mem_cons_self, hmatch⟩
      simp only at h
      split at h
      · split_ifs at h
        · exact hhere h
        · exact hlater h
      · split_ifs at h
        · split at h
          · rename_i other hother
            exact hlater (hother.trans h)
          · exact hhere h
        · exact hhere h
      · exact hhere h

/-- What is found is a match of one of the rules. -/
theorem foundFrom_spec {rules : List Rule} {origin : Nat} {justEntered : Bool} {n : Nat} {s : Spot}
    {f : Found} (h : foundFrom rules origin justEntered n s = some f) :
    f.rule ∈ rules ∧ ∃ t, f.rule.pattern.matchAt? t = some f.finish := by
  induction n generalizing s with
  | zero => exact ⟨(foundAt_spec h).1, s, (foundAt_spec h).2⟩
  | succ n ih =>
    rw [foundFrom] at h
    split at h
    · rename_i found hfound
      have hspec := foundAt_spec (hfound.trans h)
      exact ⟨hspec.1, s, hspec.2⟩
    · split at h
      · exact ih h
      · exact nomatch h

theorem opensOnly_partEvents {r : Rule} (h : r.named ⊆ g.named) (finish : Spot) :
    OpensOnly g.named (partEvents r finish) := by
  intro e he s hs
  obtain ⟨event, hevent, rfl⟩ := List.mem_map.1 he
  obtain ⟨⟨number, scopes⟩, hpart, hevent⟩ := List.mem_flatMap.1 (List.mem_mergeSort.1 hevent)
  have hscopes : scopes ⊆ g.named := fun scope hscope =>
    h (List.mem_append_right _ (List.mem_flatMap.2 ⟨_, hpart, hscope⟩))
  simp only at hevent
  split at hevent
  · split_ifs at hevent
    · exact nomatch hevent
    · rcases List.mem_append.1 hevent with hopens | hcloses
      · obtain ⟨scope, hscope, rfl⟩ := List.mem_map.1 hopens
        exact ScopeMark.opens.inj hs ▸ hscopes hscope
      · obtain ⟨scope, -, rfl⟩ := List.mem_map.1 hcloses
        exact nomatch hs
  · exact nomatch hevent

theorem opensOnly_enterEvents (position : Nat) {outer inner : List Entered} (hinner : g.Named inner) :
    OpensOnly g.named (g.enterEvents position outer inner) := by
  induction inner generalizing outer with
  | nil => exact opensOnly_nil
  | cons e inner ih =>
    obtain ⟨he, hlater⟩ := List.forall_mem_cons.1 hinner
    rw [enterEvents, opensOnly_append, opensOnly_append]
    have haround : e.context.around ⊆ g.named := List.Subset.trans e.context.around_subset he
    exact ⟨⟨ih hlater, opensOnly_openings position haround⟩, opensOnly_closings position _⟩

/-- A match opens what the contexts left, entered and hidden name, and enters contexts of the grammar. -/
theorem named_effect {contexts : List Entered} (h : g.Named contexts)
    (texts : List (Nat × List Char)) (action : Action) (start finish : Nat) :
    OpensOnly g.named (g.effect contexts texts action start finish).1 ∧
      OpensOnly g.named (g.effect contexts texts action start finish).2.1 ∧
      g.Named (g.effect contexts texts action start finish).2.2 := by
  cases contexts with
  | nil => exact ⟨opensOnly_nil, opensOnly_nil, h⟩
  | cons c outer =>
    obtain ⟨-, houter⟩ := List.forall_mem_cons.1 h
    cases action with
    | stay => exact ⟨opensOnly_nil, opensOnly_nil, h⟩
    | leave =>
      refine ⟨opensOnly_closings _ _, ?_, houter⟩
      refine opensOnly_append.2 ⟨opensOnly_openings _ fun s hs => ?_, opensOnly_closings _ _⟩
      exact named_hiddenScopes h (List.mem_reverse.1 hs)
    | enter names =>
      have hentered := g.named_enteredBy names texts
      refine ⟨opensOnly_enterEvents _ hentered, ?_, ?_⟩
      · simp only [effect]
        split_ifs
        · exact opensOnly_append.2
            ⟨opensOnly_openings _ (named_allOf hentered), opensOnly_closings _ _⟩
        · exact opensOnly_nil
      · exact List.forall_mem_append.2 ⟨fun e he => hentered e (List.mem_reverse.1 he), h⟩
    | exchange names =>
      have hentered := g.named_enteredBy names texts
      refine ⟨opensOnly_openings _ (named_aroundOf hentered), ?_, ?_⟩
      · simp only [effect]
        split_ifs
        · exact opensOnly_append.2
            ⟨opensOnly_openings _ (named_allOf hentered), opensOnly_closings _ _⟩
        · exact opensOnly_nil
      · exact List.forall_mem_append.2 ⟨fun e he => hentered e (List.mem_reverse.1 he), houter⟩

/-! ### Reading lines -/

/-- What holds of a reader all along a line. -/
structure ReaderNamed (g : Grammar) (r : Reader) : Prop where
  contexts : g.Named r.contexts
  events : OpensOnly g.named r.events

theorem ReaderNamed.readOn {r last : Reader} (hr : g.ReaderNamed r) {fuel : Nat}
    (h : g.readOn fuel r = some last) : g.ReaderNamed last := by
  induction fuel generalizing r with
  | zero => exact nomatch h
  | succ fuel ih =>
    rw [Grammar.readOn] at h
    split at h
    · exact Option.some.inj h ▸ hr
    · rename_i c outer hcontexts
      simp only at h
      split at h
      · exact Option.some.inj h ▸ hr
      · rename_i f hfound
        split_ifs at h
        · split at h
          · split_ifs at h
            · exact Option.some.inj h ▸ hr
            · refine ih ?_ h
              exact ⟨hr.contexts, hr.events⟩
          · exact Option.some.inj h ▸ hr
        · exact Option.some.inj h ▸ hr
        -- where contexts were last entered decides nothing about scopes
        all_goals
          have hc : c.context.named ⊆ g.named := hr.contexts c (hcontexts ▸ List.mem_cons_self)
          have hrule : f.rule.named ⊆ g.named := by
            obtain ⟨own, hown, hfilled⟩ := List.mem_map.1 (foundFrom_spec hfound).1
            rw [← hfilled]
            exact named_rulesIn hc own hown
          obtain ⟨hfront, hback, hentered⟩ := named_effect hr.contexts (textsOf f.finish)
            f.rule.action f.start f.finish.position
          have hown : f.rule.scopes ⊆ g.named :=
            List.Subset.trans (List.subset_append_left _ _) hrule
          refine ih ⟨hentered, ?_⟩ h
          simp only [opensOnly_append, opensOnly_reverse]
          exact ⟨⟨⟨⟨⟨hback, opensOnly_closings _ _⟩, opensOnly_partEvents hrule f.finish⟩,
            opensOnly_openings _ hown⟩, hfront⟩, hr.events⟩

theorem marksFrom_spec {contexts : List Entered} (h : g.Named contexts) {lines : List (List Char)}
    {marked : List (List Char × List ScopeEvent)} (hmarks : g.marksFrom contexts lines = some marked) :
    marked.map Prod.fst = lines ∧ ∀ line ∈ marked, OpensOnly g.named line.2 := by
  induction lines generalizing contexts marked with
  | nil =>
    obtain rfl := Option.some.inj hmarks
    exact ⟨rfl, fun _ h => nomatch h⟩
  | cons line lines ih =>
    rw [marksFrom] at hmarks
    obtain ⟨r, hread, hmarks⟩ := Option.bind_eq_some_iff.1 hmarks
    obtain ⟨rest, hrest, hmarks⟩ := Option.bind_eq_some_iff.1 hmarks
    obtain rfl := Option.some.inj hmarks
    have hr : g.ReaderNamed r := ReaderNamed.readOn ⟨h, opensOnly_nil⟩ hread
    obtain ⟨hlines, hnames⟩ := ih hr.contexts hrest
    exact ⟨congrArg (line :: ·) hlines,
      List.forall_mem_cons.2 ⟨opensOnly_reverse.2 hr.events, hnames⟩⟩

/-- The marks of a text stand with its lines, in their order, and open scopes that the grammar names. -/
theorem marks_spec {lines : List (List Char)} {marked : List (List Char × List ScopeEvent)}
    (hmarks : g.marks lines = some marked) :
    marked.map Prod.fst = lines ∧ ∀ line ∈ marked, OpensOnly g.named line.2 := by
  have hstart : g.Named ((g.contexts.take 1).map fun c => ⟨c, []⟩) := by
    intro e he
    obtain ⟨c, hc, rfl⟩ := List.mem_map.1 he
    exact named_of_mem (List.mem_of_mem_take hc)
  rw [marks] at hmarks
  obtain ⟨found, hfound, hmarks⟩ := Option.bind_eq_some_iff.1 hmarks
  obtain ⟨hlines, hnames⟩ := marksFrom_spec hstart hfound
  cases found with
  | nil =>
    obtain rfl := Option.some.inj hmarks
    exact ⟨hlines, hnames⟩
  | cons first found =>
    obtain rfl := Option.some.inj hmarks
    obtain ⟨hfirst, hlater⟩ := List.forall_mem_cons.1 hnames
    refine ⟨hlines, List.forall_mem_cons.2 ⟨List.forall_mem_cons.2 ⟨?_, hfirst⟩, hlater⟩⟩
    exact fun s hs => ScopeMark.opens.inj hs ▸ g.scope_mem_named

end Grammar
end LiveMarkup.Highlight
