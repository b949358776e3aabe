import LiveMarkup.Output.StaticPane
import LiveMarkup.Proofs.GrammarMarks
import LiveMarkup.Proofs.SpanPieces

/-! # Marks are nested

The marks that a grammar finds close only scopes that are open. Between two matches as many scopes are
open as the contexts that have been entered have, except for those they hide; what a match opens for
itself and for its parts it closes. This takes grammars whose contexts hide scopes only where these are
open, and the grammars of the panes are such.
-/
namespace LiveMarkup
namespace Highlight

/-! ### What a match reaches -/

/-- Parts that end where they begin or behind it. -/
def PartsForward (parts : List (Nat × Nat × Nat)) : Prop := ∀ part ∈ parts, part.2.1 ≤ part.2.2

/-- A place that matching reaches from another one: further on in the line, and the parts found on the way
do not end before they begin. -/
structure Spot.Reaches (s t : Spot) : Prop where
  position : s.position ≤ t.position
  parts : PartsForward s.parts → PartsForward t.parts

theorem Spot.Reaches.refl (s : Spot) : s.Reaches s := ⟨le_rfl, id⟩

theorem Spot.Reaches.trans {s t u : Spot} (h : s.Reaches t) (h' : t.Reaches u) : s.Reaches u :=
  ⟨h.position.trans h'.position, fun hs => h'.parts (h.parts hs)⟩

namespace Pattern

/-- A step that hands on only places it reaches. -/
def Forward (step : Spot → (Spot → Option Spot) → Option Spot) : Prop :=
  ∀ {s k u}, step s k = some u → ∃ t, s.Reaches t ∧ k t = some u

theorem Forward.guarded {step : Spot → (Spot → Option Spot) → Option Spot} (hstep : Forward step)
    {s u : Spot} {k : Spot → Option Spot}
    (h : (step s fun t => if s.position < t.position then k t else none) = some u) :
    ∃ t, s.Reaches t ∧ k t = some u := by
  obtain ⟨t, ht, hk⟩ := hstep h
  split_ifs at hk
  exact ⟨t, ht, hk⟩

theorem Forward.repeatFrom {step : Spot → (Spot → Option Spot) → Option Spot} (hstep : Forward step)
    (n : Nat) : Forward (repeatFrom step n) := by
  induction n with
  | zero => exact fun h => ⟨_, .refl _, h⟩
  | succ n ih =>
    intro s k u h
    rw [Pattern.repeatFrom] at h
    split at h
    · rename_i found hfound
      obtain ⟨t, ht, hmore⟩ := hstep.guarded (hfound.trans h)
      obtain ⟨last, hlast, hk⟩ := ih hmore
      exact ⟨last, ht.trans hlast, hk⟩
    · exact ⟨s, .refl s, h⟩

theorem Forward.fewestFrom {step : Spot → (Spot → Option Spot) → Option Spot} (hstep : Forward step)
    (n : Nat) : Forward (fewestFrom step n) := by
  induction n with
  | zero => exact fun h => ⟨_, .refl _, h⟩
  | succ n ih =>
    intro s k u h
    rw [Pattern.fewestFrom] at h
    split at h
    · rename_i found hfound
      exact ⟨s, .refl s, hfound.trans h⟩
    · obtain ⟨t, ht, hmore⟩ := hstep.guarded h
      obtain ⟨last, hlast, hk⟩ := ih hmore
      exact ⟨last, ht.trans hlast, hk⟩

theorem forward_run (p : Pattern) : Forward p.run := by
  induction p with
  | nothing => exact fun h => ⟨_, .refl _, h⟩
  | one test =>
    intro s k u h
    rw [run] at h
    split at h
    · rename_i c t hnext
      split_ifs at h
      refine ⟨t, ?_, h⟩
      unfold Spot.next? at hnext
      split at hnext
      · exact nomatch hnext
      · obtain ⟨-, rfl⟩ := Prod.mk.inj (Option.some.inj hnext)
        exact ⟨Nat.le_succ _, id⟩
    · exact nomatch h
  | both p q ihp ihq =>
    intro s k u h
    obtain ⟨t, ht, hq⟩ := ihp h
    obtain ⟨last, hlast, hk⟩ := ihq hq
    exact ⟨last, ht.trans hlast, hk⟩
  | either p q ihp ihq =>
    intro s k u h
    rw [run] at h
    split at h
    · rename_i found hfound
      exact ihp (hfound.trans h)
    · exact ihq h
  | repeated most p ih => exact fun h => ih.repeatFrom _ h
  | fewest p ih => exact fun h => ih.fewestFrom _ h
  | part number p ih =>
    intro s k u h
    obtain ⟨t, ht, hk⟩ := ih h
    refine ⟨{ t with parts := (number, s.position, t.position) :: t.parts },
      ⟨ht.position, fun hs own hown => ?_⟩, hk⟩
    rcases List.mem_cons.1 hown with rfl | hown
    · exact ht.position
    · exact ht.parts hs own hown
  | ahead p _ =>
    intro s k u h
    rw [run] at h
    split at h
    · exact ⟨s, .refl s, h⟩
    · exact nomatch h
  | notAhead p _ =>
    intro s k u h
    rw [run] at h
    split at h
    · exact nomatch h
    · exact ⟨s, .refl s, h⟩
  | again number => exact fun h => nomatch h
  | after test | lineStart | lineEnd | wordEdge =>
    intro s k u h
    rw [run] at h
    split_ifs at h
    exact ⟨s, .refl s, h⟩

theorem partsForward_of_matchAt? {p : Pattern} {s finish : Spot} (h : p.matchAt? s = some finish) :
    PartsForward finish.parts := by
  obtain ⟨t, ht, hfinish⟩ := forward_run p h
  obtain rfl := Option.some.inj hfinish
  exact ht.parts fun _ hpart => nomatch hpart

end Pattern

/-! ### Events and open scopes -/

/-- Events, last one first, that lead from a number of open scopes to another one. -/
def Leads (d : Nat) (events : List ScopeEvent) (n : Nat) : Prop :=
  depthBehind? d (events.reverse.map ScopeEvent.mark) = some n

theorem Leads.nil (d : Nat) : Leads d [] d := rfl

theorem Leads.append {d m n : Nat} {front back : List ScopeEvent} (hfront : Leads d front m)
    (hback : Leads m back n) : Leads d (back ++ front) n := by
  rw [Leads, List.reverse_append, List.map_append, depthBehind?_append, hfront]
  exact hback

namespace Grammar

theorem leads_openings (d position : Nat) (scopes : List Scope) :
    Leads d (openings position scopes) (d + scopes.length) := by
  induction scopes generalizing d with
  | nil => exact .nil d
  | cons scope scopes ih =>
    have hlater := ih (d + 1)
    rw [Nat.add_right_comm] at hlater
    rw [Leads, openings, List.reverse_reverse] at hlater ⊢
    exact hlater

theorem leads_closings (d position count : Nat) : Leads (d + count) (closings position count) d := by
  rw [Leads, closings, List.reverse_replicate]
  induction count with
  | zero => rfl
  | succ count ih => exact ih

/-- Closing some scopes and opening others, at one place. -/
theorem leads_reopen {d count n : Nat} {scopes : List Scope} (hle : count ≤ d)
    (hn : n + count = d + scopes.length) (position : Nat) :
    Leads d (openings position scopes ++ closings position count) n := by
  obtain ⟨m, rfl⟩ := Nat.exists_eq_add_of_le' hle
  obtain rfl : n = m + scopes.length := by omega
  exact (leads_closings m position count).append (leads_openings m position scopes)

end Grammar

theorem exists_depthBehind? {d : Nat} {marks : List ScopeMark}
    (h : ∀ front, front <+: marks → 0 ≤ d + (front.map ScopeMark.delta).sum) :
    ∃ n, depthBehind? d marks = some n := by
  induction marks generalizing d with
  | nil => exact ⟨d, rfl⟩
  | cons m marks ih =>
    have hlater : ∀ e : Nat, (e : Int) = d + m.delta → ∃ n, depthBehind? e marks = some n := by
      refine fun e he => ih fun front hfront => ?_
      have hall := h (m :: front) (List.cons_prefix_cons.2 ⟨rfl, hfront⟩)
      rwa [List.map_cons, List.sum_cons, ← add_assoc, ← he] at hall
    cases m with
    | opens scope => exact hlater (d + 1) rfl
    | closes =>
      cases d with
      | zero =>
        have hfirst := h [.closes] (List.cons_prefix_cons.2 ⟨rfl, List.nil_prefix⟩)
        simp [ScopeMark.delta] at hfirst
      | succ d => exact hlater d (by rw [ScopeMark.delta]; push_cast; ring)

/-! ### The parts of a match -/

/-- An opening or closing of a part, with what it is sorted by. -/
abbrev PartEvent := Nat × Option Nat × ScopeEvent

namespace PartEvent

def delta (e : PartEvent) : Int := e.2.2.mark.delta

/-- What openings in front of a place and closings up to it add to the open scopes. -/
def deltaAt (q : Nat) (e : PartEvent) : Int :=
  match e.2.2.mark with
  | .opens _ => if e.1 < q then 1 else 0
  | .closes => if e.1 ≤ q then -1 else 0

theorem deltaAt_le_delta {q : Nat} {e : PartEvent} (h : e.1 ≤ q) : e.deltaAt q ≤ e.delta := by
  unfold deltaAt delta
  split <;> split_ifs <;> simp_all [ScopeMark.delta]

theorem deltaAt_nonpos {q : Nat} {e : PartEvent} (h : q ≤ e.1) : e.deltaAt q ≤ 0 := by
  unfold deltaAt
  split <;> split_ifs <;> omega

/-- Every opening has its closing, further on. -/
structure Paired (events : List PartEvent) : Prop where
  total : (events.map delta).sum = 0
  behind : ∀ q, 0 ≤ (events.map (deltaAt q)).sum

namespace Paired

theorem nil : Paired [] := ⟨rfl, fun _ => le_rfl⟩

theorem append {events events' : List PartEvent} (h : Paired events) (h' : Paired events') :
    Paired (events ++ events') := by
  constructor
  · rw [List.map_append, List.sum_append, h.total, h'.total, add_zero]
  · intro q
    rw [List.map_append, List.sum_append]
    exact add_nonneg (h.behind q) (h'.behind q)

theorem flatMap {α : Type} {f : α → List PartEvent} {xs : List α} (h : ∀ x ∈ xs, Paired (f x)) :
    Paired (xs.flatMap f) := by
  induction xs with
  | nil => exact nil
  | cons x xs ih =>
    obtain ⟨hx, hxs⟩ := List.forall_mem_cons.1 h
    exact hx.append (ih hxs)

theorem perm {events events' : List PartEvent} (h : Paired events) (hp : events.Perm events') :
    Paired events' :=
  ⟨(hp.map delta).sum_eq ▸ h.total, fun q => (hp.map (deltaAt q)).sum_eq ▸ h.behind q⟩

theorem part {first last : Nat} (h : first < last) (scopes : List Scope) (width : Nat) :
    Paired ((scopes.map fun s => (first, some width, (⟨first, .opens s⟩ : ScopeEvent))) ++
      (scopes.map fun _ => (last, none, (⟨last, .closes⟩ : ScopeEvent)))) := by
  have hsum : ∀ f : PartEvent → Int, ∀ opening closing : Int,
      (∀ s, f (first, some width, ⟨first, .opens s⟩) = opening) →
      f (last, none, ⟨last, .closes⟩) = closing →
      (((scopes.map fun s => (first, some width, (⟨first, .opens s⟩ : ScopeEvent))) ++
        (scopes.map fun _ => (last, none, (⟨last, .closes⟩ : ScopeEvent)))).map f).sum =
          scopes.length * (opening + closing) := by
    intro f opening closing hopening hclosing
    simp [Function.comp_def, hopening, hclosing, mul_add]
  refine ⟨(hsum delta 1 (-1) (fun _ => rfl) rfl).trans (by simp), fun q => ?_⟩
  rw [hsum (deltaAt q) (if first < q then 1 else 0) (if last ≤ q then -1 else 0) (fun _ => rfl) rfl]
  refine mul_nonneg (Int.natCast_nonneg _) ?_
  split_ifs <;> omega

/-- Sorted by position, events that are paired open at least as many scopes as they close, as far as one
reads them. -/
theorem sum_nonneg {events : List PartEvent} (h : Paired events)
    (hsorted : events.Pairwise fun a b => a.1 ≤ b.1) {front : List PartEvent} (hfront : front <+: events) :
    0 ≤ (front.map delta).sum := by
  rcases front.eq_nil_or_concat' with rfl | ⟨init, e, rfl⟩
  · exact le_rfl
  · -- what is read so far has all openings in front of its last position, and no closing behind it
    obtain ⟨back, rfl⟩ := hfront
    obtain ⟨hinit, -, hback⟩ := List.pairwise_append.1 hsorted
    have hupto : ∀ a ∈ init ++ [e], a.1 ≤ e.1 := by
      intro a ha
      rcases List.mem_append.1 ha with ha | ha
      · exact (List.pairwise_append.1 hinit).2.2 a ha e List.mem_cons_self
      · rw [List.mem_singleton.1 ha]
    have hfrom : (back.map (deltaAt e.1)).sum ≤ 0 := by
      have hall := List.sum_le_card_nsmul (back.map (deltaAt e.1)) 0 (List.forall_mem_map.2 fun b hb =>
        deltaAt_nonpos (hback e (List.mem_append_right _ List.mem_cons_self) b hb))
      rwa [smul_zero] at hall
    calc 0 ≤ ((init ++ [e] ++ back).map (deltaAt e.1)).sum := h.behind e.1
      _ = ((init ++ [e]).map (deltaAt e.1)).sum + (back.map (deltaAt e.1)).sum := by
        rw [List.map_append, List.sum_append]
      _ ≤ ((init ++ [e]).map delta).sum + 0 :=
        add_le_add (List.sum_le_sum fun a ha => deltaAt_le_delta (hupto a ha)) hfrom
      _ = ((init ++ [e]).map delta).sum := add_zero _

theorem depthBehind? {events : List PartEvent} (h : Paired events)
    (hsorted : events.Pairwise fun a b => a.1 ≤ b.1) (d : Nat) :
    Highlight.depthBehind? d (events.map fun e => e.2.2.mark) = some d := by
  have hsum : ∀ front : List PartEvent,
      ((front.map fun e => e.2.2.mark).map ScopeMark.delta).sum = (front.map delta).sum := by
    intro front
    rw [List.map_map]
    rfl
  have hprefix : ∀ front, front <+: events.map (fun e => e.2.2.mark) →
      0 ≤ d + (front.map ScopeMark.delta).sum := by
    intro front hfront
    obtain ⟨l, hl, rfl⟩ := List.prefix_map_iff.1 hfront
    rw [hsum]
    exact add_nonneg (Int.natCast_nonneg d) (h.sum_nonneg hsorted hl)
  obtain ⟨n, hn⟩ := exists_depthBehind? hprefix
  have htotal := delta_of_depthBehind? hn
  rw [hsum, h.total, add_zero] at htotal
  rw [hn, Int.ofNat.inj htotal]

end Paired
end PartEvent

namespace Grammar

theorem comesFirst_le {a b : PartEvent} (h : comesFirst a b = true) : a.1 ≤ b.1 := by
  simp only [comesFirst, Bool.or_eq_true, Bool.and_eq_true, decide_eq_true_eq] at h
  omega

theorem comesFirst_total (a b : PartEvent) : (comesFirst a b || comesFirst b a) = true := by
  obtain ⟨p, w, _⟩ := a
  obtain ⟨p', w', _⟩ := b
  cases w <;> cases w' <;> simp [comesFirst] <;> omega

theorem comesFirst_trans (a b c : PartEvent) (h : comesFirst a b = true) (h' : comesFirst b c = true) :
    comesFirst a c = true := by
  obtain ⟨p, w, _⟩ := a
  obtain ⟨p', w', _⟩ := b
  obtain ⟨p'', w'', _⟩ := c
  cases w <;> cases w' <;> cases w'' <;> simp [comesFirst] at h h' ⊢ <;> omega

/-- The events of the parts of a match close what they open. -/
theorem leads_partEvents (d : Nat) (rule : Rule) {finish : Spot} (h : PartsForward finish.parts) :
    Leads d (partEvents rule finish).reverse d := by
  rw [Leads, List.reverse_reverse, partEvents, List.map_map]
  refine PartEvent.Paired.depthBehind? (.perm (.flatMap fun ⟨number, scopes⟩ _ => ?_) (List.mergeSort_perm _ _).symm)
    ((List.pairwise_mergeSort comesFirst_trans comesFirst_total _).imp comesFirst_le) d
  simp only
  split
  · rename_i first last hfound
    split_ifs with hempty
    · exact .nil
    · have hforward : first ≤ last := h _ (List.mem_of_find?_eq_some hfound)
      exact .part (hforward.lt_of_ne hempty) _ _
  · exact .nil

end Grammar

/-! ### Contexts that hide what is open -/

/-- What stands for a context that a grammar lacks, but for its name. -/
def Context.empty : Context where
  name := ""
  clauses := []

/-- A context without scopes of its own. -/
def Context.Scopeless (c : Context) : Prop := c.around = [] ∧ c.inside = []

instance (c : Context) : Decidable c.Scopeless := inferInstanceAs (Decidable (_ ∧ _))

/-- Contexts that can be entered one inside the other: the scopes that one of them hides are open outside
of them all. -/
def HidesOutside (cs : List Context) : Prop :=
  cs.Pairwise fun outer inner => inner.hides = 0 ∨ outer.Scopeless

instance (cs : List Context) : Decidable (HidesOutside cs) :=
  inferInstanceAs (Decidable (List.Pairwise _ cs))

def Action.Nests (g : Grammar) (c : Context) : Action → Prop
  | enter names => HidesOutside (names.map g.context)
  | exchange names => c.hides = 0 ∧ ∀ name ∈ names, (g.context name).hides = 0
  | _ => True

instance (g : Grammar) (c : Context) : (action : Action) → Decidable (action.Nests g c)
  | .enter _ => inferInstanceAs (Decidable (HidesOutside _))
  | .exchange _ => inferInstanceAs (Decidable (_ ∧ _))
  | .stay | .leave => inferInstanceAs (Decidable True)

namespace Grammar
variable {g : Grammar}

def RulesNest (g : Grammar) (c : Context) : Prop := ∀ r ∈ g.rulesIn c, r.action.Nests g c

instance (g : Grammar) (c : Context) : Decidable (g.RulesNest c) :=
  inferInstanceAs (Decidable (∀ r ∈ _, _))

/-- A grammar that starts in a context without scopes, and whose rules enter only contexts that hide
open scopes. -/
structure Nests (g : Grammar) : Prop where
  first : ∀ c ∈ g.contexts.take 1, c.hides = 0 ∧ c.Scopeless
  rules : ∀ c ∈ .empty :: g.contexts, g.RulesNest c

theorem Nests.context (h : g.Nests) (name : String) : g.RulesNest (g.context name) := by
  rw [Grammar.context]
  cases hfound : g.contexts.find? fun c => c.name = name with
  | none =>
    -- its rules do not depend on its name
    exact h.rules Context.empty List.mem_cons_self
  | some c => exact h.rules c (List.mem_cons_of_mem _ (List.mem_of_find?_eq_some hfound))

theorem length_openScopes_cons (e : Entered) (outer : List Entered) :
    (g.openScopes (e :: outer)).length = e.context.around.length + e.context.inside.length +
      ((g.openScopes outer).length - e.context.hides) := by
  simp only [openScopes, List.length_append, List.length_reverse, List.length_drop]

theorem length_hiddenScopes_cons (e : Entered) (outer : List Entered) :
    (g.hiddenScopes (e :: outer)).length = min e.context.hides (g.openScopes outer).length := by
  simp [hiddenScopes]

section
variable {inner : List Entered}

theorem length_openScopes_shown (h : ∀ e ∈ inner, e.context.hides = 0) (outer : List Entered) :
    (g.openScopes (inner.reverse ++ outer)).length =
      (g.openScopes outer).length + (allOf (inner.map Entered.context)).length := by
  induction inner generalizing outer with
  | nil => rfl
  | cons e inner ih =>
    obtain ⟨he, hinner⟩ := List.forall_mem_cons.1 h
    have hlater := ih hinner (e :: outer)
    rw [length_openScopes_cons, he] at hlater
    rw [List.reverse_cons, List.append_assoc, List.singleton_append, hlater]
    simp only [allOf, List.map_cons, List.flatMap_cons, List.length_append]
    omega

theorem leads_enterEvents_shown (h : ∀ e ∈ inner, e.context.hides = 0) (d position : Nat)
    (outer : List Entered) :
    Leads d (g.enterEvents position outer inner)
      (d + (aroundOf (inner.map Entered.context)).length) := by
  induction inner generalizing d outer with
  | nil => exact .nil d
  | cons e inner ih =>
    obtain ⟨he, hinner⟩ := List.forall_mem_cons.1 h
    have hhidden : (g.hiddenScopes (e :: outer)).length = 0 := by
      rw [length_hiddenScopes_cons, he, Nat.zero_min]
    have hown := leads_openings d position e.context.around
    have hall := ih hinner (d + e.context.around.length) (e :: outer)
    rw [Nat.add_assoc, ← List.length_append] at hall
    rw [enterEvents, hhidden]
    exact (Leads.nil d).append (hown.append hall)

/-- Entering contexts leads to the scopes around them; those inside are still to be opened. -/
theorem leads_enterEvents (h : HidesOutside (inner.map Entered.context)) (position : Nat)
    (outer : List Entered) :
    ∃ n, Leads (g.openScopes outer).length (g.enterEvents position outer inner) n ∧
      (aroundOf (inner.map Entered.context)).length ≤ n ∧
      (g.openScopes (inner.reverse ++ outer)).length + (aroundOf (inner.map Entered.context)).length =
        n + (allOf (inner.map Entered.context)).length := by
  induction inner generalizing outer with
  | nil => exact ⟨_, .nil _, Nat.zero_le _, rfl⟩
  | cons e inner ih =>
    obtain ⟨hfirst, hlater⟩ := List.pairwise_cons.1 h
    have hopen := length_openScopes_cons (g := g) e outer
    -- the scopes that the first context hides are closed, and the scopes around it are opened
    have hfront : Leads (g.openScopes outer).length
        (openings position e.context.around ++ closings position (g.hiddenScopes (e :: outer)).length)
        ((g.openScopes outer).length - e.context.hides + e.context.around.length) := by
      have hhidden := length_hiddenScopes_cons (g := g) e outer
      exact leads_reopen (by omega) (by omega) position
    rw [enterEvents, List.append_assoc, List.reverse_cons, List.append_assoc, List.singleton_append]
    simp only [aroundOf, allOf, List.map_cons, List.flatMap_cons, List.length_append] at ih ⊢
    by_cases hbare : e.context.Scopeless
    · -- what is open is what the contexts so far have
      have haround : e.context.around.length = 0 := List.length_eq_zero_iff.2 hbare.1
      have hinside : e.context.inside.length = 0 := List.length_eq_zero_iff.2 hbare.2
      obtain ⟨n, hn, hle, hall⟩ := ih hlater (e :: outer)
      rw [show (g.openScopes outer).length - e.context.hides + e.context.around.length =
        (g.openScopes (e :: outer)).length by omega] at hfront
      exact ⟨n, hfront.append hn, by omega, by omega⟩
    · -- the scopes inside the first context are not open yet, but no other one hides scopes
      have hshown : ∀ inside ∈ inner, inside.context.hides = 0 := fun inside hmem =>
        (hfirst inside.context (List.mem_map_of_mem hmem)).resolve_right hbare
      have hback := leads_enterEvents_shown (g := g) hshown
        ((g.openScopes outer).length - e.context.hides + e.context.around.length) position (e :: outer)
      have hall := length_openScopes_shown (g := g) hshown (e :: outer)
      simp only [aroundOf, allOf] at hback hall
      exact ⟨_, hfront.append hback, by omega, by omega⟩

end

theorem allOf_eq_aroundOf {cs : List Context} (h : (cs.any fun c => !c.inside.isEmpty) = false) :
    allOf cs = aroundOf cs := by
  refine List.flatMap_congr fun c hc => ?_
  have hinside : c.inside = [] := by simpa using List.any_eq_false.1 h c hc
  rw [hinside, List.append_nil]

/-- Behind a match as many scopes are open as the contexts then have. -/
theorem leads_effect {c : Entered} {action : Action} (h : action.Nests g c.context)
    (outer : List Entered) (texts : List (Nat × List Char)) (start finish : Nat) :
    ∃ n, Leads (g.openScopes (c :: outer)).length (g.effect (c :: outer) texts action start finish).1 n ∧
      Leads n (g.effect (c :: outer) texts action start finish).2.1
        (g.openScopes (g.effect (c :: outer) texts action start finish).2.2).length := by
  have hopen := length_openScopes_cons (g := g) c outer
  cases action with
  | stay => exact ⟨_, .nil _, .nil _⟩
  | leave =>
    have hhidden := length_hiddenScopes_cons (g := g) c outer
    obtain ⟨m, hm⟩ : ∃ m, (g.openScopes (c :: outer)).length = m + c.context.inside.length :=
      Nat.exists_eq_add_of_le' (by omega)
    refine ⟨m, hm ▸ leads_closings m start _, leads_reopen (by omega) ?_ finish⟩
    rw [List.length_reverse]
    simp only [effect]
    omega
  | enter names =>
    have hentered : HidesOutside ((g.enteredBy names texts).map Entered.context) := by
      rw [enteredBy, List.map_map]
      exact h
    obtain ⟨n, hn, hle, hall⟩ := leads_enterEvents hentered start (c :: outer)
    refine ⟨n, hn, ?_⟩
    simp only [effect]
    split_ifs with hagain
    · exact leads_reopen hle hall finish
    · rw [allOf_eq_aroundOf (Bool.not_eq_true _ ▸ hagain)] at hall
      rw [Nat.add_right_cancel hall]
      exact .nil n
  | exchange names =>
    obtain ⟨hhides, hnames⟩ := h
    have hshown : ∀ e ∈ g.enteredBy names texts, e.context.hides = 0 := List.forall_mem_map.2 hnames
    have hall := length_openScopes_shown (g := g) hshown outer
    have hfront := leads_openings (g.openScopes (c :: outer)).length start
      (aroundOf ((g.enteredBy names texts).map Entered.context))
    refine ⟨_, hfront, ?_⟩
    simp only [effect]
    split_ifs with hagain
    · exact leads_reopen (by omega) (by omega) finish
    · simp only [Bool.not_eq_true, Bool.or_eq_false_iff, Bool.not_eq_false', List.isEmpty_iff] at hagain
      obtain ⟨⟨haround, hinside⟩, hnone⟩ := hagain
      rw [haround, hinside, hhides] at hopen
      rw [allOf_eq_aroundOf hnone] at hall
      rw [hall, show (g.openScopes (c :: outer)).length = (g.openScopes outer).length by simpa using hopen]
      exact .nil _

/-! ### Reading lines -/

/-- What holds of a reader all along a line that begins inside a number of open scopes. -/
structure ReaderNests (g : Grammar) (d : Nat) (r : Reader) : Prop where
  contexts : ∀ e ∈ r.contexts, g.RulesNest e.context
  events : Leads d r.events (g.openScopes r.contexts).length

theorem rulesNest_effect (h : g.Nests) {contexts : List Entered}
    (hcontexts : ∀ e ∈ contexts, g.RulesNest e.context) (texts : List (Nat × List Char))
    (action : Action) (start finish : Nat) :
    ∀ e ∈ (g.effect contexts texts action start finish).2.2, g.RulesNest e.context := by
  have hentered : ∀ names, ∀ e ∈ (g.enteredBy names texts).reverse, g.RulesNest e.context := by
    intro names e he
    obtain ⟨name, -, rfl⟩ := List.mem_map.1 (List.mem_reverse.1 he)
    exact h.context name
  cases contexts with
  | nil => exact hcontexts
  | cons c outer =>
    obtain ⟨-, houter⟩ := List.forall_mem_cons.1 hcontexts
    cases action with
    | stay => exact hcontexts
    | leave => exact houter
    | enter names => exact List.forall_mem_append.2 ⟨hentered names, hcontexts⟩
    | exchange names => exact List.forall_mem_append.2 ⟨hentered names, houter⟩

theorem ReaderNests.readOn (h : g.Nests) {d : Nat} {r last : Reader} (hr : g.ReaderNests d r)
    {fuel : Nat} (hread : g.readOn fuel r = some last) : g.ReaderNests d last := by
  induction fuel generalizing r with
  | zero => exact nomatch hread
  | succ fuel ih =>
    rw [Grammar.readOn] at hread
    split at hread
    · exact Option.some.inj hread ▸ hr
    · rename_i c outer hcontexts
      simp only at hread
      split at hread
      · exact Option.some.inj hread ▸ hr
      · rename_i f hfound
        split_ifs at hread
        · split at hread
          · split_ifs at hread
            · exact Option.some.inj hread ▸ hr
            · refine ih ?_ hread
              exact ⟨hr.contexts, hr.events⟩
          · exact Option.some.inj hread ▸ hr
        · exact Option.some.inj hread ▸ hr
        -- where contexts were last entered decides nothing about scopes
        all_goals
          obtain ⟨hmem, s, hmatch⟩ := foundFrom_spec hfound
          have haction : f.rule.action.Nests g c.context := by
            obtain ⟨own, hown, hfilled⟩ := List.mem_map.1 hmem
            rw [← hfilled]
            exact hr.contexts c (hcontexts ▸ List.mem_cons_self) own hown
          obtain ⟨n, hfront, hback⟩ := leads_effect haction outer (textsOf f.finish) f.start
            f.finish.position
          rw [← hcontexts] at hfront hback
          have hown := leads_openings n f.start f.rule.scopes
          have hparts := leads_partEvents (n + f.rule.scopes.length) f.rule
            (Pattern.partsForward_of_matchAt? hmatch)
          have hends := leads_closings n f.finish.position f.rule.scopes.length
          refine ih ⟨rulesNest_effect h hr.contexts _ _ _ _, ?_⟩ hread
          simp only [List.append_assoc]
          exact ((((hr.events.append hfront).append hown).append hparts).append hends).append hback

theorem marksFrom_nests (h : g.Nests) {contexts : List Entered}
    (hcontexts : ∀ e ∈ contexts, g.RulesNest e.context) {lines : List (List Char)}
    {marked : List (List Char × List ScopeEvent)} (hmarks : g.marksFrom contexts lines = some marked) :
    ∃ n, depthBehind? (g.openScopes contexts).length (marksOf marked) = some n := by
  induction lines generalizing contexts marked with
  | nil =>
    obtain rfl := Option.some.inj hmarks
    exact ⟨_, rfl⟩
  | cons line lines ih =>
    rw [marksFrom] at hmarks
    obtain ⟨r, hread, hmarks⟩ := Option.bind_eq_some_iff.1 hmarks
    obtain ⟨rest, hrest, hmarks⟩ := Option.bind_eq_some_iff.1 hmarks
    obtain rfl := Option.some.inj hmarks
    have hr : g.ReaderNests (g.openScopes contexts).length r :=
      ReaderNests.readOn h ⟨hcontexts, .nil _⟩ hread
    obtain ⟨n, hn⟩ := ih hr.contexts hrest
    refine ⟨n, ?_⟩
    rw [marksOf, List.flatMap_cons, depthBehind?_append, hr.events]
    exact hn

/-- The marks of a text close only scopes that are open. -/
theorem marks_nests (h : g.Nests) {lines : List (List Char)}
    {marked : List (List Char × List ScopeEvent)} (hmarks : g.marks lines = some marked) :
    depthBehind? 0 (marksOf marked) ≠ none := by
  have hstart : ∀ e ∈ (g.contexts.take 1).map fun c => (⟨c, []⟩ : Entered), g.RulesNest e.context := by
    intro e he
    obtain ⟨c, hc, rfl⟩ := List.mem_map.1 he
    exact h.rules c (List.mem_cons_of_mem _ (List.mem_of_mem_take hc))
  have hopen : (g.openScopes ((g.contexts.take 1).map fun c => ⟨c, []⟩)).length = 1 := by
    have hfirst := h.first
    cases hcontexts : g.contexts with
    | nil => rfl
    | cons c later =>
      rw [hcontexts] at hfirst
      obtain ⟨hhides, haround, hinside⟩ := hfirst c List.mem_cons_self
      simp [openScopes, hhides, haround, hinside]
  rw [marks] at hmarks
  obtain ⟨found, hfound, hmarks⟩ := Option.bind_eq_some_iff.1 hmarks
  obtain ⟨n, hn⟩ := marksFrom_nests h hstart hfound
  rw [hopen] at hn
  cases found with
  | nil =>
    obtain rfl := Option.some.inj hmarks
    exact Option.some_ne_none 0
  | cons first found =>
    obtain rfl := Option.some.inj hmarks
    have hall : depthBehind? 0 (marksOf ((first.1, ⟨0, .opens g.scope⟩ :: first.2) :: found)) = some n := hn
    rw [hall]
    exact Option.some_ne_none n

instance (g : Grammar) : Decidable g.Nests :=
  decidable_of_iff ((∀ c ∈ g.contexts.take 1, c.hides = 0 ∧ c.Scopeless) ∧
      ∀ c ∈ Context.empty :: g.contexts, g.RulesNest c)
    ⟨fun h => ⟨h.1, h.2⟩, fun h => ⟨h.first, h.rules⟩⟩

end Grammar
end Highlight

/-- The contexts of the panes' grammars hide only what is open. -/
theorem PaneLanguage.grammar_nests (language : PaneLanguage) : language.grammar.Nests := by
  cases language <;> decide +kernel

end LiveMarkup
