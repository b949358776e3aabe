import Mathlib
import LiveMarkup.Reconcile

/-! # The visible text of markup

What a reader sees of markup is left when the tags are deleted and the references decoded. Deleting the
tags of fragments gives their escaped text, and decoding takes back what escaping did.
-/
namespace LiveMarkup

/-- Markup without its tags. The flag says whether the text starts inside a tag. -/
def dropTags : Bool → List Char → List Char
  | _, [] => []
  | true, c :: cs => if c = '>' then dropTags false cs else dropTags true cs
  | false, c :: cs => if c = '<' then dropTags true cs else c :: dropTags false cs

/-- Escaped text with its references decoded, in one pass from the left. -/
def unescape : List Char → List Char
  | [] => []
  | '&' :: 'a' :: 'm' :: 'p' :: ';' :: cs => '&' :: unescape cs
  | '&' :: 'l' :: 't' :: ';' :: cs => '<' :: unescape cs
  | '&' :: 'g' :: 't' :: ';' :: cs => '>' :: unescape cs
  | '&' :: 'q' :: 'u' :: 'o' :: 't' :: ';' :: cs => '"' :: unescape cs
  | '&' :: '#' :: '0' :: '3' :: '9' :: ';' :: cs => '\'' :: unescape cs
  | c :: cs => c :: unescape cs

theorem unescape_cons_of_ne {c : Char} (h : c ≠ '&') (cs : List Char) :
    unescape (c :: cs) = c :: unescape cs := by
  rw [unescape.eq_def]
  split <;> simp_all

theorem unescape_escapeChar_append (c : Char) (rest : List Char) :
    unescape (escapeChar c ++ rest) = c :: unescape rest := by
  unfold escapeChar entityOf
  split_ifs with h₁ h₂ h₃ h₄ h₅
  · subst h₁; simp [unescape]
  · subst h₂; simp [unescape]
  · subst h₃; simp [unescape]
  · subst h₄; simp [unescape]
  · subst h₅; simp [unescape]
  · exact unescape_cons_of_ne h₁ rest

@[simp] theorem unescape_escape (s : List Char) : unescape (escape s) = s := by
  induction s with
  | nil => simp [unescape]
  | cons c s ih => rw [escape_cons, unescape_escapeChar_append, ih]

theorem escape_injective : Function.Injective escape := by
  intro s t h
  have hh := congrArg unescape h
  simpa using hh

theorem lt_notMem_escapeChar (c : Char) : '<' ∉ escapeChar c := by
  unfold escapeChar entityOf
  split_ifs <;> simp_all [eq_comm]

theorem lt_notMem_escape (s : List Char) : '<' ∉ escape s := by
  induction s with
  | nil => simp
  | cons c s ih => simp [ih, lt_notMem_escapeChar]

theorem dropTags_append_of_notMem {s : List Char} (h : '<' ∉ s) (rest : List Char) :
    dropTags false (s ++ rest) = s ++ dropTags false rest := by
  induction s with
  | nil => rfl
  | cons c s ih =>
    have hc : c ≠ '<' := (List.ne_of_not_mem_cons h).symm
    have hs : '<' ∉ s := List.not_mem_of_not_mem_cons h
    simp [dropTags, hc, ih hs]

theorem dropTags_inside {s : List Char} (h : '>' ∉ s) (rest : List Char) :
    dropTags true (s ++ '>' :: rest) = dropTags false rest := by
  induction s with
  | nil => simp [dropTags]
  | cons c s ih =>
    have hc : c ≠ '>' := (List.ne_of_not_mem_cons h).symm
    have hs : '>' ∉ s := List.not_mem_of_not_mem_cons h
    simp [dropTags, hc, ih hs]

/-- The characters of a class name are those that a name may have. -/
theorem notMem_className {c : Char} (h : isNameChar c = false) (name : ClassName) :
    c ∉ name.text.toList := by
  intro hc
  have hv := name.valid
  simp only [Bool.and_eq_true, List.all_eq_true] at hv
  exact Bool.false_ne_true (h.symm.trans (hv.2 c hc))

theorem gt_notMem_className (name : ClassName) : '>' ∉ name.text.toList :=
  notMem_className (by decide) name

namespace Fragment

theorem openTag_eq (name : ClassName) :
    openTag name = '<' :: (['s', 'p', 'a', 'n', ' ', 'c', 'l', 'a', 's', 's', '=', '"'] ++
      name.text.toList ++ ['"'] ++ ['>']) := by
  have hopen : "<span class=\"".toList =
      ['<', 's', 'p', 'a', 'n', ' ', 'c', 'l', 'a', 's', 's', '=', '"'] := by decide
  have hclose : "\">".toList = ['"', '>'] := by decide
  have h : openTag name = _ := congrArg₂ (fun a b => a ++ name.text.toList ++ b) hopen hclose
  simpa using h

theorem dropTags_openTag (name : ClassName) (rest : List Char) :
    dropTags false (openTag name ++ rest) = dropTags false rest := by
  have hin : '>' ∉ ['s', 'p', 'a', 'n', ' ', 'c', 'l', 'a', 's', 's', '=', '"'] ++
      name.text.toList ++ ['"'] := by
    simp [gt_notMem_className]
  have h := dropTags_inside hin rest
  rw [openTag_eq]
  simpa [dropTags] using h

theorem dropTags_closeTag (rest : List Char) :
    dropTags false (closeTag ++ rest) = dropTags false rest := by
  have h : closeTag = ['<', '/', 's', 'p', 'a', 'n', '>'] := by decide
  rw [h]
  simp [dropTags]

theorem dropTags_markup_append (f : Fragment) (rest : List Char) :
    dropTags false (f.markup ++ rest) = escape f.text ++ dropTags false rest := by
  cases f with
  | plain s => exact dropTags_append_of_notMem (lt_notMem_escape s) rest
  | span name s =>
    calc dropTags false ((span name s).markup ++ rest)
        = dropTags false (openTag name ++ (escape s ++ (closeTag ++ rest))) := by
          simp only [markup, List.append_assoc]
      _ = dropTags false (escape s ++ (closeTag ++ rest)) := dropTags_openTag name _
      _ = escape s ++ dropTags false (closeTag ++ rest) :=
          dropTags_append_of_notMem (lt_notMem_escape s) _
      _ = escape s ++ dropTags false rest := congrArg (escape s ++ ·) (dropTags_closeTag rest)

theorem dropTags_flatMap_markup (fs : List Fragment) :
    dropTags false (fs.flatMap markup) = escape (fs.flatMap text) := by
  induction fs with
  | nil => rfl
  | cons f fs ih =>
    rw [List.flatMap_cons, dropTags_markup_append, ih, List.flatMap_cons, escape_append]

end Fragment
end LiveMarkup
