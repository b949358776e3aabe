import Mathlib
import LiveMarkup.Session

/-! # Saving in steps

Saving a session sets two values, the second only if the first was set. What every single set keeps is
kept by both, and so is a view of the state that the sets go through.
-/
namespace LiveMarkup.Session

/-- Saving a session keeps what every single set keeps. -/
theorem saveWith_induction {σ ε : Type} {motive : σ → Prop}
    {set : σ → String → String → σ × Except ε Unit}
    (step : ∀ s key value, motive s → motive (set s key value).1) {s : σ} (h : motive s)
    (source format : String) : motive (saveWith set s source format).1 := by
  have hfirst := step s sourceKey source h
  unfold saveWith
  generalize set s sourceKey source = saved at hfirst
  obtain ⟨after, _ | _⟩ := saved
  · exact hfirst
  · exact step after formatKey format hfirst

/-- Saving goes through any view of the state that the sets go through. -/
theorem saveWith_map {σ τ ε : Type} (view : σ → τ)
    {set : σ → String → String → σ × Except ε Unit} {set' : τ → String → String → τ × Except ε Unit}
    (h : ∀ s key value, set' (view s) key value = (view (set s key value).1, (set s key value).2))
    (s : σ) (source format : String) :
    saveWith set' (view s) source format =
      (view (saveWith set s source format).1, (saveWith set s source format).2) := by
  unfold saveWith
  rw [h]
  generalize set s sourceKey source = first
  obtain ⟨after, _ | _⟩ := first
  · rfl
  · exact h after formatKey format

end LiveMarkup.Session
