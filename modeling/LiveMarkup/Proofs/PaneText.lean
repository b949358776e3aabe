import LiveMarkup.Output.Document
import LiveMarkup.Proofs.SpanPieces
import LiveMarkup.Proofs.VisibleText
import LiveMarkup.Text.Search

/-! # What the read-only panes show

Markup shows a text if it is made of the text's characters, written in one of the two ways of escaping,
with tags in between. Dropping the tags and decoding the references of such markup gives the text back.
The markup of a pane shows the pane's text, wherever the scopes lie that were found in it, and also where
none were found; and the document of a pane holds that markup between its code tags.
-/
namespace LiveMarkup

/-- Text with the references of both ways of escaping decoded, in one pass from the left. -/
def decodeReferences : List Char → List Char
  | [] => []
  | '&' :: 'a' :: 'm' :: 'p' :: ';' :: cs => '&' :: decodeReferences cs
  | '&' :: 'l' :: 't' :: ';' :: cs => '<' :: decodeReferences cs
  | '&' :: 'g' :: 't' :: ';' :: cs => '>' :: decodeReferences cs
  | '&' :: 'q' :: 'u' :: 'o' :: 't' :: ';' :: cs => '"' :: decodeReferences cs
  | '&' :: '#' :: '0' :: '3' :: '9' :: ';' :: cs => '\'' :: decodeReferences cs
  | '&' :: '#' :: '3' :: '9' :: ';' :: cs => '\'' :: decodeReferences cs
  | c :: cs => c :: decodeReferences cs

theorem decodeReferences_cons_of_ne {c : Char} (h : c ≠ '&') (cs : List Char) :
    decodeReferences (c :: cs) = c :: decodeReferences cs := by
  rw [decodeReferences.eq_def]
  split <;> simp_all

/-- The ways in which a character is written in markup. -/
def Writes (written : List Char) (c : Char) : Prop :=
  written = escapeChar c ∨ written = escapeCharShort c

theorem decodeReferences_escapeChar (c : Char) (rest : List Char) :
    decodeReferences (escapeChar c ++ rest) = c :: decodeReferences rest := by
  unfold escapeChar entityOf
  split_ifs with h₁ h₂ h₃ h₄ h₅
  · subst h₁; simp [decodeReferences]
  · subst h₂; simp [decodeReferences]
  · subst h₃; simp [decodeReferences]
  · subst h₄; simp [decodeReferences]
  · subst h₅; simp [decodeReferences]
  · exact decodeReferences_cons_of_ne h₁ rest

theorem Writes.decode {written : List Char} {c : Char} (h : Writes written c) (rest : List Char) :
    decodeReferences (written ++ rest) = c :: decodeReferences rest := by
  rcases h with rfl | rfl
  · exact decodeReferences_escapeChar c rest
  · unfold escapeCharShort
    split_ifs with hc
    · subst hc
      simp [decodeReferences]
    · exact decodeReferences_escapeChar c rest

theorem decodeReferences_escape (s : List Char) : decodeReferences (escape s) = s := by
  induction s with
  | nil => rfl
  | cons c s ih => rw [escape_cons, decodeReferences_escapeChar, ih]

theorem Writes.lt_notMem {written : List Char} {c : Char} (h : Writes written c) : '<' ∉ written := by
  rcases h with rfl | rfl
  · exact lt_notMem_escapeChar c
  · unfold escapeCharShort
    split_ifs
    · decide
    · exact lt_notMem_escapeChar c

/-- The names of the tags that end the part of a document that holds markup. -/
def partEnds : List (List Char) := ["/code".toList, "/body".toList]

/-- What stands between the angle brackets of a tag inside markup. -/
def IsTag (inner : List Char) : Prop := '<' ∉ inner ∧ '>' ∉ inner ∧ inner ∉ partEnds

/-- Markup made of the characters of a text, each written one way or another, with tags in between. -/
inductive Shows : List Char → List Char → Prop
  | nil : Shows [] []
  | char {written markup text : List Char} {c : Char} (h : Writes written c)
      (later : Shows markup text) : Shows (written ++ markup) (c :: text)
  | tag {inner markup text : List Char} (h : IsTag inner) (later : Shows markup text) :
      Shows ('<' :: (inner ++ '>' :: markup)) text

namespace Shows
variable {markup markup' text text' : List Char}

theorem append (h : Shows markup text) (h' : Shows markup' text') :
    Shows (markup ++ markup') (text ++ text') := by
  induction h with
  | nil => exact h'
  | char hc _ ih =>
    rw [List.append_assoc]
    exact .char hc ih
  | tag hinner _ ih =>
    rw [List.cons_append, List.append_assoc, List.cons_append]
    exact .tag hinner ih

/-- The text that markup shows is left when its tags are dropped and its references decoded. -/
theorem decode (h : Shows markup text) : decodeReferences (dropTags false markup) = text := by
  induction h with
  | nil => rfl
  | char hc _ ih => rw [dropTags_append_of_notMem hc.lt_notMem, hc.decode, ih]
  | tag hinner _ ih => rw [dropTags, if_pos rfl, dropTags_inside hinner.2.1, ih]

theorem flatMap {write : Char → List Char} (h : ∀ c, Writes (write c) c) (text : List Char) :
    Shows (text.flatMap write) text := by
  induction text with
  | nil => exact .nil
  | cons c text ih =>
    rw [List.flatMap_cons]
    exact .char (h c) ih

theorem escapeShort (text : List Char) : Shows (LiveMarkup.escapeShort text) text :=
  flatMap (fun _ => Or.inr rfl) text

theorem escape (text : List Char) : Shows (LiveMarkup.escape text) text := by
  induction text with
  | nil => exact .nil
  | cons c text ih => exact .char (Or.inl rfl) ih

end Shows

/-! ### The part of a text between two marks -/

def upTo (mark : List Char) : List Char → List Char
  | [] => []
  | c :: cs => if mark.isPrefixOf (c :: cs) then [] else c :: upTo mark cs

/-- What stands behind the first occurrence of one mark, up to the next occurrence of another. -/
def between? (opening closing text : String) : Option String :=
  (behind? opening.toList text.toList).map fun behind =>
    String.ofList (upTo closing.toList behind)

/-- Whether a mark cannot begin inside a text, whatever follows the text. -/
def avoids (mark : List Char) : List Char → Bool
  | [] => true
  | c :: cs => !mark.isPrefixOf (c :: cs) && !(c :: cs).isPrefixOf mark && avoids mark cs

/-- A text that a search for a mark goes past. -/
def Clears (mark : List Char) (s : String) : Prop :=
  ∀ rest, behind? mark (s.toList ++ rest) = behind? mark rest

theorem clears_ofList {mark s : List Char} (h : avoids mark s = true) :
    Clears mark (String.ofList s) := by
  intro rest
  rw [String.toList_ofList]
  induction s with
  | nil => rfl
  | cons c s ih =>
    simp only [avoids, Bool.and_eq_true, Bool.not_eq_true', ← Bool.not_eq_true,
      List.isPrefixOf_iff_prefix] at h
    obtain ⟨⟨hmark, htext⟩, hlater⟩ := h
    have hhere : ¬mark <+: c :: (s ++ rest) := by
      intro hp
      rcases List.prefix_or_prefix_of_prefix hp (List.prefix_append (c :: s) rest) with hp | hp
      · exact hmark hp
      · exact htext hp
    rw [List.cons_append, behind?, if_neg (by rwa [List.isPrefixOf_iff_prefix]), ih hlater]

theorem Clears.append {mark : List Char} {s t : String} (hs : Clears mark s) (ht : Clears mark t) :
    Clears mark (s ++ t) := by
  intro rest
  rw [String.toList_append, List.append_assoc, hs, ht]

theorem behind?_self {mark : List Char} (hmark : mark ≠ []) (rest : List Char) :
    behind? mark (mark ++ rest) = some rest := by
  have hstarts : mark.isPrefixOf (mark ++ rest) := List.isPrefixOf_iff_prefix.2 (List.prefix_append ..)
  obtain ⟨c, cs, rfl⟩ := List.exists_cons_of_ne_nil hmark
  rw [List.cons_append] at hstarts ⊢
  rw [behind?, if_pos hstarts]
  simp

theorem upTo_self (mark rest : List Char) : upTo mark (mark ++ rest) = [] := by
  have hstarts : mark.isPrefixOf (mark ++ rest) := List.isPrefixOf_iff_prefix.2 (List.prefix_append ..)
  cases h : mark ++ rest with
  | nil => rfl
  | cons c cs => rw [upTo, if_pos (h ▸ hstarts)]

theorem upTo_append_of_notMem {a : Char} {mark s : List Char} (h : a ∉ s) (rest : List Char) :
    upTo (a :: mark) (s ++ rest) = s ++ upTo (a :: mark) rest := by
  induction s with
  | nil => rfl
  | cons c s ih =>
    have hc : a ≠ c := List.ne_of_not_mem_cons h
    have hs : a ∉ s := List.not_mem_of_not_mem_cons h
    simp [upTo, List.isPrefixOf, hc, ih hs]

theorem eq_of_append_cons {a : Char} {xs ys r s : List Char} (hx : a ∉ xs) (hy : a ∉ ys)
    (h : xs ++ a :: r = ys ++ a :: s) : xs = ys := by
  rw [← (takeWhile_ne_append hx r).1, h, (takeWhile_ne_append hy s).1]

/-- Markup that shows a text does not end the part of the document that holds it. -/
theorem Shows.upTo_append {markup text : List Char} (h : Shows markup text) {name : List Char}
    (hname : name ∈ partEnds) (rest : List Char) :
    upTo ('<' :: (name ++ ['>'])) (markup ++ rest) =
      markup ++ upTo ('<' :: (name ++ ['>'])) rest := by
  have hgt : '>' ∉ name := by
    revert name
    decide
  induction h with
  | nil => rfl
  | char hc _ ih => rw [List.append_assoc, upTo_append_of_notMem hc.lt_notMem, ih, List.append_assoc]
  | @tag inner markup _ hinner _ ih =>
    have hother : ¬('<' :: (name ++ ['>'])) <+: '<' :: (inner ++ '>' :: (markup ++ rest)) := by
      rw [List.cons_prefix_cons]
      rintro ⟨-, s, hs⟩
      rw [List.append_assoc, List.singleton_append] at hs
      exact hinner.2.2 (eq_of_append_cons hgt hinner.2.1 hs ▸ hname)
    have hinside : '<' ∉ inner ++ ['>'] := by
      simpa using hinner.1
    have hsplit : inner ++ '>' :: (markup ++ rest) = (inner ++ ['>']) ++ (markup ++ rest) := by simp
    rw [List.cons_append, List.append_assoc, List.cons_append, upTo,
      if_neg (by rwa [List.isPrefixOf_iff_prefix]), hsplit, upTo_append_of_notMem hinside, ih]
    simp

theorem between?_of_shows {opening closing front markup back : String} {name text : List Char}
    (hopening : opening.toList ≠ []) (hfront : Clears opening.toList front)
    (hclosing : closing.toList = '<' :: (name ++ ['>'])) (hname : name ∈ partEnds)
    (h : Shows markup.toList text) :
    between? opening closing (front ++ (opening ++ (markup ++ (closing ++ back)))) =
      some markup := by
  simp only [between?, String.toList_append]
  rw [hfront, behind?_self hopening, Option.map_some, hclosing, h.upTo_append hname, ← hclosing,
    upTo_self, List.append_nil, String.ofList_toList]

/-! ### The markup of a pane -/

/-- Scope names that cannot be taken for the end of a tag. -/
def PlainScope (scope : Highlight.Scope) : Prop :=
  ∀ name ∈ scope, '<' ∉ name.toList ∧ '>' ∉ name.toList

def PlainMark (m : Highlight.ScopeMark) : Prop := ∀ scope, m = .opens scope → PlainScope scope

/-- A marker gives the lines of a text back, and opens scopes with plain names only. -/
structure KeepsText (marker : Marker) (language : PaneLanguage) : Prop where
  lines : ∀ lines marked, marker language lines = some marked → marked.map Prod.fst = lines
  plain : ∀ lines marked, marker language lines = some marked →
    ∀ line ∈ marked, ∀ e ∈ line.2, PlainMark e.mark

theorem notMem_intercalate {a : Char} {separator : List Char} (hs : a ∉ separator)
    {pieces : List (List Char)} (h : ∀ piece ∈ pieces, a ∉ piece) :
    a ∉ separator.intercalate pieces := by
  induction pieces with
  | nil => simp
  | cons piece pieces ih =>
    obtain ⟨hpiece, hpieces⟩ := List.forall_mem_cons.1 h
    cases pieces with
    | nil => simpa using hpiece
    | cons next pieces =>
      rw [List.intercalate_cons_cons]
      simp only [List.mem_append, not_or]
      exact ⟨⟨hpiece, hs⟩, ih hpieces⟩

namespace Highlight

/-- What stands before the names in the tag that opens a scope. -/
def spanStart : List Char := ['s', 'p', 'a', 'n', ' ', 'c', 'l', 'a', 's', 's', '=', '"']

def scopeClasses (scope : Scope) : List Char :=
  (" ".intercalate (scope.map fun name => "hl-" ++ name)).toList

theorem openTag_eq (scope : Scope) :
    openTag scope = '<' :: ((spanStart ++ scopeClasses scope ++ ['"']) ++ ['>']) := by
  have hopen : "<span class=\"".toList = '<' :: spanStart := by decide
  have h : openTag scope = ('<' :: spanStart) ++ scopeClasses scope ++ ['"', '>'] :=
    congrArg (fun front => front ++ scopeClasses scope ++ ['"', '>']) hopen
  simpa using h

theorem notMem_scopeClasses {a : Char} (hblank : a ∉ [' ']) (hstarts : a ∉ ['h', 'l', '-'])
    {scope : Scope} (h : ∀ name ∈ scope, a ∉ name.toList) : a ∉ scopeClasses scope := by
  rw [scopeClasses, String.toList_intercalate]
  refine notMem_intercalate hblank fun piece hpiece => ?_
  obtain ⟨name, hname, rfl⟩ := List.mem_map.1 hpiece
  obtain ⟨word, hword, rfl⟩ := List.mem_map.1 hname
  rw [String.toList_append, List.mem_append, not_or]
  exact ⟨hstarts, h word hword⟩

theorem isTag_span {classes : List Char} (hlt : '<' ∉ classes) (hgt : '>' ∉ classes) :
    IsTag (spanStart ++ classes ++ ['"']) := by
  have hends : ∀ name ∈ partEnds, name.head? = some '/' := by decide
  refine ⟨?_, ?_, fun hmem => ?_⟩
  · simp [spanStart, hlt]
  · simp [spanStart, hgt]
  · exact absurd (hends _ hmem) (by simp [spanStart])

theorem isTag_openTag {scope : Scope} (h : PlainScope scope) :
    IsTag (spanStart ++ scopeClasses scope ++ ['"']) :=
  isTag_span (notMem_scopeClasses (by decide) (by decide) fun name hname => (h name hname).1)
    (notMem_scopeClasses (by decide) (by decide) fun name hname => (h name hname).2)

theorem shows_openTag {scope : Scope} (h : PlainScope scope) {markup text : List Char}
    (hm : Shows markup text) : Shows (openTag scope ++ markup) text := by
  rw [openTag_eq, List.cons_append, List.append_assoc, List.singleton_append]
  exact .tag (isTag_openTag h) hm

theorem shows_closeTag {markup text : List Char} (hm : Shows markup text) :
    Shows (closeTag ++ markup) text := by
  have hclose : closeTag = '<' :: (['/', 's', 'p', 'a', 'n'] ++ ['>']) := by decide
  have htag : IsTag ['/', 's', 'p', 'a', 'n'] := ⟨by decide, by decide, by decide⟩
  rw [hclose]
  exact .tag htag hm

theorem shows_pieces {ps : List ScopePiece}
    (h : ∀ m ∈ ps.filterMap ScopePiece.mark?, PlainMark m) :
    Shows (ps.flatMap ScopePiece.markup) (ps.flatMap ScopePiece.content) := by
  induction ps with
  | nil => exact .nil
  | cons p ps ih =>
    rw [List.flatMap_cons, List.flatMap_cons]
    cases p with
    | text content => exact (Shows.escapeShort content).append (ih h)
    | mark m =>
      obtain ⟨hm, hlater⟩ : PlainMark m ∧ ∀ m ∈ ps.filterMap ScopePiece.mark?, PlainMark m :=
        List.forall_mem_cons.1 h
      cases m with
      | opens scope => exact shows_openTag (hm scope rfl) (ih hlater)
      | closes => exact shows_closeTag (ih hlater)

theorem shows_closeTags (n : Nat) : Shows (List.replicate n closeTag).flatten [] := by
  induction n with
  | zero => exact .nil
  | succ n ih => exact shows_closeTag ih

theorem shows_linesMarkup {lines : List (List Char × List ScopeEvent)}
    (h : ∀ line ∈ lines, ∀ e ∈ line.2, PlainMark e.mark) (opened : Int) :
    Shows (linesMarkup opened lines) (lines.map Prod.fst).flatten := by
  obtain ⟨ps, hmarkup, htext, hmarks, -⟩ := linesMarkup_eq opened lines
  have hplain : ∀ m ∈ ps.filterMap ScopePiece.mark?, PlainMark m := by
    intro m hm
    obtain ⟨line, hline, hm⟩ := List.mem_flatMap.1 (hmarks hm)
    obtain ⟨e, he, rfl⟩ := List.mem_map.1 hm
    exact h line hline e he
  rw [hmarkup, ← htext, ← List.append_nil (ps.flatMap ScopePiece.content)]
  exact (shows_pieces hplain).append (shows_closeTags _)

end Highlight

theorem flatten_linesWithEndings (text : List Char) : (linesWithEndings text).flatten = text := by
  induction text with
  | nil => rfl
  | cons c text ih =>
    rw [linesWithEndings]
    split_ifs
    · rw [List.flatten_cons, ih, List.singleton_append]
    · split
      · rename_i hnone
        rw [hnone] at ih
        exact congrArg (c :: ·) ih
      · rename_i line later hlines
        rw [hlines] at ih
        exact congrArg (c :: ·) ih

/-- The markup of a pane shows the text of the pane, whatever scopes were found in it. -/
theorem shows_paneMarkupBy {marker : Marker} {language : PaneLanguage} (h : KeepsText marker language)
    (text : String) : Shows (paneMarkupBy marker text language).toList text.toList := by
  rw [paneMarkupBy, String.toList_ofList]
  cases hmarks : marker language (linesWithEndings text.toList) with
  | none => exact Shows.escape _
  | some marked =>
    have hshows := Highlight.shows_linesMarkup (h.plain _ _ hmarks) 0
    rwa [h.lines _ _ hmarks, flatten_linesWithEndings] at hshows

end LiveMarkup
