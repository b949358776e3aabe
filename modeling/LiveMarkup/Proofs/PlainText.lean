import LiveMarkup.Proofs.Subscriptions

/-! # Plain text and markup

The plain text of a surface is the last text it was given, and its revision counts the texts that were
news. Markup is projected from it and never read back: a run from which all markup written from outside
is taken out has the same texts, revisions, answers and calls of handlers.
-/
namespace LiveMarkup.BoundEditor

/-- The text that a use gives to the surface. -/
def Use.text? : Use → Option String
  | setText text => some text
  | _ => none

/-- Whether a use writes markup from outside. -/
def Use.writesMarkup : Use → Bool
  | setMarkup _ => true
  | _ => false

/-- Whether a use gives the surface another text than it has. -/
def Used.isNews (e : Used) : Bool := e.use.text?.any (· ≠ e.text)

/-! ## What one use does to the surface -/

theorem lexer_use (b : BoundEditor) (u : Use) : (b.use u).2.editor.lexer = b.editor.lexer := by
  cases u <;> rfl

theorem styles_use (b : BoundEditor) (u : Use) : (b.use u).2.editor.styles = b.editor.styles := by
  cases u <;> rfl

theorem text_use (b : BoundEditor) (u : Use) :
    (b.use u).2.surface.text = u.text?.getD b.surface.text := by
  cases u with
  | setText text =>
    simp only [use, Surface.setText, Use.text?, Option.getD_some]
    split_ifs with h
    · exact h.symm
    · rfl
  | _ => rfl

theorem answer_use_eq_edited_true (b : BoundEditor) (u : Use) :
    (b.use u).1 = .edited true ↔ (b.used u).isNews = true := by
  cases u with
  | setText text =>
    by_cases h : text = b.surface.text <;>
      simp [used, use, Surface.setText, Used.isNews, Use.text?, h]
  | _ => simp [used, use, Used.isNews, Use.text?]

theorem revision_use (b : BoundEditor) (u : Use) :
    (b.use u).2.surface.revision = b.surface.revision + if (b.used u).isNews then 1 else 0 := by
  cases u with
  | setText text =>
    by_cases h : text = b.surface.text <;>
      simp [used, use, Surface.setText, Used.isNews, Use.text?, h]
  | _ => rfl

/-! ## The surface after a run -/

section
variable (b : BoundEditor) (uses : List Use)

theorem lexer_run : (b.run uses).editor.lexer = b.editor.lexer := by
  induction uses using List.reverseRecOn with
  | nil => rfl
  | append_singleton uses u ih => rw [run_concat, lexer_use, ih]

theorem styles_run : (b.run uses).editor.styles = b.editor.styles := by
  induction uses using List.reverseRecOn with
  | nil => rfl
  | append_singleton uses u ih => rw [run_concat, styles_use, ih]

theorem text_run : (b.run uses).surface.text = (uses.filterMap Use.text?).getLastD b.surface.text := by
  induction uses using List.reverseRecOn with
  | nil => rfl
  | append_singleton uses u ih =>
    rw [run_concat, text_use, ih, List.filterMap_append, List.getLastD_eq_getLast?,
      List.getLastD_eq_getLast?, List.getLast?_append]
    cases h : u.text? <;> simp [h]

theorem revision_run :
    (b.run uses).surface.revision = b.surface.revision + (b.history uses).countP Used.isNews := by
  induction uses using List.reverseRecOn with
  | nil => rfl
  | append_singleton uses u ih =>
    rw [run_concat, revision_use, ih, history_concat, List.countP_append, List.countP_singleton,
      Nat.add_assoc]

theorem exists_of_mem_history {e : Used} (h : e ∈ b.history uses) :
    ∃ (c : BoundEditor) (u : Use), e = c.used u := by
  obtain ⟨i, hi⟩ := List.mem_iff_getElem?.1 h
  rw [getElem?_history] at hi
  obtain ⟨u, -, he⟩ := Option.map_eq_some_iff.1 hi
  exact ⟨b.run (uses.take i), u, he.symm⟩

end

/-! ## Two runs that differ in markup -/

/-- Bound editors that differ in the markup of their surfaces at most. -/
structure AgreesBesideMarkup (b b' : BoundEditor) : Prop where
  editor : b.editor = b'.editor
  text : b.surface.text = b'.surface.text
  revision : b.surface.revision = b'.surface.revision

namespace AgreesBesideMarkup
variable {b b' : BoundEditor} (h : b.AgreesBesideMarkup b')
include h

theorem used (u : Use) : b.used u = b'.used u := by
  obtain ⟨editor, text, markup, revision⟩ := b
  obtain ⟨editor', text', markup', revision'⟩ := b'
  obtain ⟨rfl, rfl, rfl⟩ := h
  cases u with
  | setText new =>
    by_cases hnew : new = text <;> simp [BoundEditor.used, use, Surface.setText, hnew]
  | _ => rfl

theorem use (u : Use) : (b.use u).2.AgreesBesideMarkup (b'.use u).2 where
  editor := by
    rcases h with ⟨hEditor, -, -⟩
    cases u <;> simp only [BoundEditor.use, Editor.handleChange, hEditor]
  text := by rw [text_use, text_use, h.text]
  revision := by rw [revision_use, revision_use, h.used, h.revision]

/-- Markup that is written to one of the two makes no difference. -/
theorem setMarkup (markup : String) : (b.use (.setMarkup markup)).2.AgreesBesideMarkup b' :=
  ⟨h.editor, h.text, h.revision⟩

theorem run (uses : List Use) :
    (b.run uses).AgreesBesideMarkup (b'.run (uses.filter fun u => !u.writesMarkup)) := by
  induction uses generalizing b b' with
  | nil => exact h
  | cons u uses ih =>
    cases u with
    | setMarkup markup => exact ih (h.setMarkup markup)
    | _ => exact ih (h.use _)

theorem history (uses : List Use) :
    b'.history (uses.filter fun u => !u.writesMarkup) =
      (b.history uses).filter fun e => !e.use.writesMarkup := by
  induction uses generalizing b b' with
  | nil => rfl
  | cons u uses ih =>
    cases u with
    | setMarkup markup => exact ih (h.setMarkup markup)
    | _ => exact congrArg₂ List.cons (h.used _).symm (ih (h.use _))

end AgreesBesideMarkup

/-- The plain text is the one given last, and the revision counts those that were news; giving a text
answers whether it is. Right after a rendering or a change the markup is that of the plain text. Without
the markup written from outside all other uses happen at the same texts with the same answers and calls of
handlers, and text, revision and editor end the same. -/
theorem text_is_authoritative (lexer : Lexer) (styles : StyleMap) (text : String) (uses : List Use) :
    let b := new lexer styles (.new text)
    let history := b.history uses
    let after := b.run uses
    let unwritten := uses.filter fun u => !u.writesMarkup
    after.surface.text = (uses.filterMap Use.text?).getLastD text ∧
    after.surface.revision = history.countP Used.isNews ∧
    (∀ e ∈ history, e.answer = .edited true ↔ e.isNews = true) ∧
    (∀ u, u = .render ∨ u = .change → (after.use u).2.surface =
      { after.surface with markup := highlight after.surface.text lexer styles }) ∧
    b.history unwritten = history.filter (fun e => !e.use.writesMarkup) ∧
    after.AgreesBesideMarkup (b.run unwritten) := by
  intro b history after unwritten
  have hlexer : after.editor.lexer = lexer := lexer_run b uses
  have hstyles : after.editor.styles = styles := styles_run b uses
  have hself : b.AgreesBesideMarkup b := ⟨rfl, rfl, rfl⟩
  refine ⟨text_run b uses, ?_, ?_, ?_, hself.history uses, hself.run uses⟩
  · exact (revision_run b uses).trans (Nat.zero_add _)
  · intro e he
    obtain ⟨c, u, rfl⟩ := exists_of_mem_history b uses he
    exact answer_use_eq_edited_true c u
  · rintro u (rfl | rfl) <;> rw [← hlexer, ← hstyles] <;> rfl

end LiveMarkup.BoundEditor
