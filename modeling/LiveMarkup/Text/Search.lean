/-! # Searching and replacing

A pattern is looked for from the left; what has been replaced is not looked at again.
-/
namespace LiveMarkup

/-- A text is cut where a condition first fails. -/
theorem takeWhile_append_cons {α : Type} {p : α → Bool} {s : List α} (hs : ∀ c ∈ s, p c = true) {c : α}
    (hc : p c = false) (rest : List α) :
    (s ++ c :: rest).takeWhile p = s ∧ (s ++ c :: rest).dropWhile p = c :: rest := by
  rw [List.takeWhile_append_of_pos hs, List.dropWhile_append_of_pos hs,
    List.takeWhile_cons_of_neg (by simp [hc]), List.dropWhile_cons_of_neg (by simp [hc])]
  exact ⟨List.append_nil s, rfl⟩

theorem takeWhile_ne_append {α : Type} [DecidableEq α] {a : α} {s : List α} (h : a ∉ s)
    (rest : List α) :
    (s ++ a :: rest).takeWhile (· ≠ a) = s ∧ (s ++ a :: rest).dropWhile (· ≠ a) = a :: rest := by
  have hs : ∀ c ∈ s, decide (c ≠ a) = true := fun c hc => decide_eq_true fun he => h (he ▸ hc)
  exact takeWhile_append_cons hs (by simp) rest

variable {α : Type} [BEq α]

def behind? (pattern : List α) : List α → Option (List α)
  | [] => if pattern.isEmpty then some [] else none
  | c :: cs =>
    if pattern.isPrefixOf (c :: cs) then some ((c :: cs).drop pattern.length)
    else behind? pattern cs

def occursIn (pattern text : List α) : Bool := (behind? pattern text).isSome

/-- Replaces every occurrence of a pattern that is not empty, from left to right. The number says how
many members still belong to the occurrence before. -/
def replaceFrom (pattern replacement : List α) : Nat → List α → List α
  | _, [] => []
  | skip + 1, _ :: cs => replaceFrom pattern replacement skip cs
  | 0, c :: cs =>
    if pattern.isPrefixOf (c :: cs) then
      replacement ++ replaceFrom pattern replacement (pattern.length - 1) cs
    else c :: replaceFrom pattern replacement 0 cs

end LiveMarkup
