import Mathlib
import LiveMarkup.Highlight.Scope

/-! # The pieces of markup with spans

However scopes are opened and closed, the markup of some lines consists of whole pieces: escaped text,
tags that open spans and tags that close them. The tag of a scope that is closed as soon as it is opened
is taken back as a whole, and what is taken back leaves the number of open spans as it was.
-/
namespace LiveMarkup
namespace Highlight

/-- A part of markup: text, or the tag of a mark. -/
inductive ScopePiece where
  | text (content : List Char)
  | mark (m : ScopeMark)

namespace ScopePiece

def markup : ScopePiece → List Char
  | text content => escapeShort content
  | mark (.opens scope) => openTag scope
  | mark .closes => closeTag

/-- The text of a piece; marks have none. -/
def content : ScopePiece → List Char
  | text content => content
  | mark _ => []

def mark? : ScopePiece → Option ScopeMark
  | text _ => none
  | mark m => some m

end ScopePiece

/-- The scopes that are open behind a mark; nothing if it closes one that is not open. -/
def ScopeMark.depth? : Nat → ScopeMark → Option Nat
  | d, opens _ => some (d + 1)
  | 0, closes => none
  | d + 1, closes => some d

def depthBehind? (d : Nat) (marks : List ScopeMark) : Option Nat := marks.foldlM ScopeMark.depth? d

def ScopeMark.delta : ScopeMark → Int
  | opens _ => 1
  | closes => -1

theorem depthBehind?_append (d : Nat) (front back : List ScopeMark) :
    depthBehind? d (front ++ back) = (depthBehind? d front).bind fun n => depthBehind? n back :=
  List.foldlM_append

theorem depthBehind?_singleton (d : Nat) (m : ScopeMark) : depthBehind? d [m] = m.depth? d := by
  cases h : m.depth? d <;> simp [depthBehind?, h]

theorem delta_of_depthBehind? {marks : List ScopeMark} {d n : Nat}
    (h : depthBehind? d marks = some n) : (n : Int) = d + (marks.map ScopeMark.delta).sum := by
  induction marks generalizing d with
  | nil =>
    obtain rfl := Option.some.inj h
    simp
  | cons m marks ih =>
    cases m with
    | opens scope =>
      rw [ih (d := d + 1) h, List.map_cons, List.sum_cons, ScopeMark.delta]
      push_cast
      ring
    | closes =>
      cases d with
      | zero => exact nomatch h
      | succ d =>
        rw [ih (d := d) h, List.map_cons, List.sum_cons, ScopeMark.delta]
        push_cast
        ring

/-- What is written of a line, piece by piece: the text read so far and the marks read so far, save for
those that were taken back. -/
structure LineMarkup.Consists (m : LineMarkup) (ps : List ScopePiece) (text : List Char)
    (marks : List ScopeMark) : Prop where
  written : m.written = ps.flatMap ScopePiece.markup
  text : ps.flatMap ScopePiece.content = text
  subset : ps.filterMap ScopePiece.mark? ⊆ marks
  depth : ∀ d, depthBehind? d (ps.filterMap ScopePiece.mark?) = depthBehind? d marks
  opened : m.opened = (marks.map ScopeMark.delta).sum
  bare : m.bare = true → ∃ front scope, ps = front ++ [.mark (.opens scope)] ∧
    m.start = (front.flatMap ScopePiece.markup).length

namespace LineMarkup.Consists
variable {m : LineMarkup} {ps : List ScopePiece} {text : List Char} {marks : List ScopeMark}

theorem nil : LineMarkup.Consists {} [] [] [] := by
  constructor <;> simp

theorem append_text (h : m.Consists ps text marks) (content : List Char) :
    ∃ ps', (m.text content).Consists ps' (text ++ content) marks := by
  rw [LineMarkup.text]
  split_ifs with hempty
  · rw [List.isEmpty_iff.1 hempty, List.append_nil]
    exact ⟨ps, h⟩
  · have hmarks : (ps ++ [ScopePiece.text content]).filterMap ScopePiece.mark? =
        ps.filterMap ScopePiece.mark? := by
      rw [List.filterMap_append]
      exact List.append_nil _
    refine ⟨ps ++ [.text content], ?_, ?_, ?_, ?_, h.opened, fun hbare => nomatch hbare⟩
    · rw [List.flatMap_append, List.flatMap_singleton, ← h.written]
      rfl
    · rw [List.flatMap_append, List.flatMap_singleton, h.text]
      rfl
    · rw [hmarks]
      exact h.subset
    · rw [hmarks]
      exact h.depth

theorem append_mark (h : m.Consists ps text marks) (e : ScopeMark) :
    ∃ ps', (m.mark e).Consists ps' text (marks ++ [e]) := by
  have hopened : ∀ {opened : Int}, opened = m.opened + e.delta →
      opened = ((marks ++ [e]).map ScopeMark.delta).sum := by
    rintro _ rfl
    simp [h.opened]
  -- a mark that is not taken back stands behind the pieces written before
  have hmarks : (ps ++ [ScopePiece.mark e]).filterMap ScopePiece.mark? = ps.filterMap ScopePiece.mark? ++ [e] := by
    simp [ScopePiece.mark?]
  have hsubset : (ps ++ [ScopePiece.mark e]).filterMap ScopePiece.mark? ⊆ marks ++ [e] := by
    rw [hmarks]
    exact List.append_subset.2 ⟨List.subset_append_of_subset_left _ h.subset,
      List.subset_append_right _ _⟩
  have hdepth : ∀ d, depthBehind? d ((ps ++ [ScopePiece.mark e]).filterMap ScopePiece.mark?) =
      depthBehind? d (marks ++ [e]) := by
    intro d
    rw [hmarks, depthBehind?_append, h.depth, ← depthBehind?_append]
  have htext : (ps ++ [ScopePiece.mark e]).flatMap ScopePiece.content = text := by
    simpa [ScopePiece.content] using h.text
  cases e with
  | opens scope =>
    refine ⟨ps ++ [.mark (.opens scope)], ?_, htext, hsubset, hdepth, hopened rfl,
      fun _ => ⟨ps, scope, rfl, congrArg List.length h.written⟩⟩
    rw [List.flatMap_append, List.flatMap_singleton, ← h.written]
    rfl
  | closes =>
    by_cases hbare : m.bare
    · obtain ⟨front, scope, rfl, hstart⟩ := h.bare hbare
      have hfront : (front ++ [ScopePiece.mark (.opens scope)]).filterMap ScopePiece.mark? =
          front.filterMap ScopePiece.mark? ++ [.opens scope] := by simp [ScopePiece.mark?]
      refine ⟨front, ?_, ?_, ?_, fun d => ?_, hopened rfl, fun hbare => nomatch hbare⟩
      · rw [mark, if_pos hbare, h.written, hstart, List.flatMap_append, List.take_left']
        rfl
      · simpa [ScopePiece.content] using h.text
      · have hall := h.subset
        rw [hfront] at hall
        exact List.subset_append_of_subset_left _ (List.append_subset.1 hall).1
      · -- the opening that is taken back and the closing leave the depth as it was
        rw [depthBehind?_append, ← h.depth, hfront, depthBehind?_append]
        cases depthBehind? d (front.filterMap ScopePiece.mark?) with
        | none => rfl
        | some n => simp [depthBehind?_singleton, ScopeMark.depth?]
    · refine ⟨ps ++ [.mark .closes], ?_, htext, hsubset, hdepth, hopened rfl,
        fun hbare => nomatch hbare⟩
      rw [mark, if_neg hbare, List.flatMap_append, List.flatMap_singleton, ← h.written]
      rfl

theorem append_line (h : m.Consists ps text marks) (position : Nat) (rest : List Char)
    (events : List ScopeEvent) :
    ∃ ps', (m.line position rest events).Consists ps' (text ++ rest)
      (marks ++ events.map ScopeEvent.mark) := by
  induction events generalizing m ps text marks position rest with
  | nil =>
    rw [List.map_nil, List.append_nil]
    exact h.append_text rest
  | cons e events ih =>
    obtain ⟨_, h⟩ := h.append_text (rest.take (e.position - position))
    obtain ⟨_, h⟩ := h.append_mark e.mark
    obtain ⟨ps', h⟩ := ih h (position + (e.position - position)) (rest.drop (e.position - position))
    rw [List.append_assoc, List.take_append_drop, List.append_assoc, List.singleton_append] at h
    exact ⟨ps', h⟩

end LineMarkup.Consists

/-- The marks of lines, one line after the other. -/
def marksOf (lines : List (List Char × List ScopeEvent)) : List ScopeMark :=
  lines.flatMap fun line => line.2.map ScopeEvent.mark

/-- The markup of lines consists of their texts and marks and of closings for what is left open. -/
theorem linesMarkup_eq (opened : Int) (lines : List (List Char × List ScopeEvent)) :
    ∃ ps : List ScopePiece,
      linesMarkup opened lines = ps.flatMap ScopePiece.markup ++
        (List.replicate (opened + ((marksOf lines).map ScopeMark.delta).sum).toNat closeTag).flatten ∧
      ps.flatMap ScopePiece.content = (lines.map Prod.fst).flatten ∧
      ps.filterMap ScopePiece.mark? ⊆ marksOf lines ∧
      ∀ d, depthBehind? d (ps.filterMap ScopePiece.mark?) = depthBehind? d (marksOf lines) := by
  induction lines generalizing opened with
  | nil => exact ⟨[], by simp [linesMarkup, marksOf], rfl, List.Subset.refl _, fun _ => rfl⟩
  | cons line lines ih =>
    obtain ⟨content, events⟩ := line
    obtain ⟨front, h⟩ := LineMarkup.Consists.nil.append_line 0 content events
    obtain ⟨back, hmarkup, htext, hmarks, hdepth⟩ :=
      ih (opened + (LineMarkup.line {} 0 content events).opened)
    have hall : marksOf ((content, events) :: lines) = events.map ScopeEvent.mark ++ marksOf lines := rfl
    refine ⟨front ++ back, ?_, ?_, ?_, fun d => ?_⟩
    · rw [linesMarkup, hmarkup, h.written, h.opened, hall, List.flatMap_append, List.append_assoc]
      simp [add_assoc]
    · rw [List.flatMap_append, h.text, htext]
      rfl
    · rw [hall, List.filterMap_append]
      exact List.append_subset.2 ⟨List.subset_append_of_subset_left _ h.subset,
        List.subset_append_of_subset_right _ hmarks⟩
    · rw [hall, List.filterMap_append, depthBehind?_append, depthBehind?_append, h.depth]
      simp only [hdepth, List.nil_append]

end Highlight
end LiveMarkup
