import LiveMarkup.Proofs.GrammarNesting
import LiveMarkup.Proofs.ScopeNames

/-! # Balanced markup

The markup of a read-only pane is balanced: each span that is opened is closed behind what stands in it,
no other tag is written, and what is not a tag is the text with its reserved characters escaped. This
holds whatever scopes were found, as long as only open scopes are closed and the names of scopes need no
escaping, and also where no scopes were found. What the grammars of the panes find is of that kind.
-/
namespace LiveMarkup
open Highlight

/-- Balanced markup and the text that it shows. -/
inductive Balanced : List Char → List Char → Prop
  | nil : Balanced [] []
  | char {written markup text : List Char} {c : Char} (h : Writes written c)
      (later : Balanced markup text) : Balanced (written ++ markup) (c :: text)
  | span {classes inside insideText markup text : List Char} (h : NeedsNoEscape classes)
      (inner : Balanced inside insideText) (later : Balanced markup text) :
      Balanced ("<span class=\"".toList ++ (classes ++ (['"', '>'] ++
        (inside ++ ("</span>".toList ++ markup))))) (insideText ++ text)

theorem Balanced.append {markup markup' text text' : List Char} (h : Balanced markup text)
    (h' : Balanced markup' text') : Balanced (markup ++ markup') (text ++ text') := by
  induction h with
  | nil => exact h'
  | char hc _ ih =>
    rw [List.append_assoc]
    exact .char hc ih
  | span hclasses hinner _ _ ih =>
    simp only [List.append_assoc]
    exact .span hclasses hinner ih

theorem Balanced.flatMap {write : Char → List Char} (h : ∀ c, Writes (write c) c) (text : List Char) :
    Balanced (text.flatMap write) text := by
  induction text with
  | nil => exact .nil
  | cons c text ih =>
    rw [List.flatMap_cons]
    exact .char (h c) ih

theorem Balanced.escapeShort (text : List Char) : Balanced (LiveMarkup.escapeShort text) text :=
  flatMap (fun _ => .inr rfl) text

theorem Balanced.escape (text : List Char) : Balanced (LiveMarkup.escape text) text := by
  induction text with
  | nil => exact .nil
  | cons c text ih => exact .char (.inl rfl) ih

/-- The tags of balanced markup are tags, so what it shows is left when they are dropped. -/
theorem Balanced.shows {markup text : List Char} (h : Balanced markup text) : Shows markup text := by
  induction h with
  | nil => exact .nil
  | char hc _ ih => exact .char hc ih
  | @span classes inside insideText markup text hclasses _ _ ihinner ih =>
    have hopen : "<span class=\"".toList = '<' :: spanStart := by decide
    have htag := isTag_span (hclasses.notMem (c := '<') rfl) (hclasses.notMem (c := '>') rfl)
    have hshows := Shows.tag htag (ihinner.append (shows_closeTag ih))
    rw [hopen, show "</span>".toList = closeTag from rfl]
    simpa only [List.cons_append, List.append_assoc, List.nil_append] using hshows

namespace Highlight

theorem CleanScope.classes {scope : Scope} (h : CleanScope scope) :
    NeedsNoEscape (scopeClasses scope) := by
  have hblank : ∀ c ∈ [' '], entityOf c = none := by simp [entityOf]
  have hstarts : ∀ c ∈ ['h', 'l', '-'], entityOf c = none := by simp [entityOf]
  intro c hc
  by_contra hentity
  exact notMem_scopeClasses (fun hmem => hentity (hblank c hmem))
    (fun hmem => hentity (hstarts c hmem))
    (fun name hname hmem => hentity (h name hname c hmem)) hc

theorem CleanScope.balanced_span {scope : Scope} (h : CleanScope scope)
    {inside insideText markup text : List Char} (inner : Balanced inside insideText)
    (later : Balanced markup text) :
    Balanced (openTag scope ++ (inside ++ (closeTag ++ markup))) (insideText ++ text) := by
  have hspan := Balanced.span h.classes inner later
  rwa [← List.append_assoc, ← List.append_assoc] at hspan

/-- Marks found in the lines of a text: the names of the scopes need no escaping, and no scope is closed
that is not open. -/
structure WellMarked (lines : List (List Char)) (marked : List (List Char × List ScopeEvent)) :
    Prop where
  lines : marked.map Prod.fst = lines
  clean : ∀ scope, .opens scope ∈ marksOf marked → CleanScope scope
  nested : depthBehind? 0 (marksOf marked) ≠ none

/-- Markup that closes a number of spans which it does not open, with balanced markup in between. -/
inductive Closes : Nat → List Char → List Char → Prop
  | zero {markup text : List Char} (h : Balanced markup text) : Closes 0 markup text
  | succ {n : Nat} {front back text text' : List Char} (h : Balanced front text)
      (later : Closes n back text') : Closes (n + 1) (front ++ (closeTag ++ back)) (text ++ text')

theorem Closes.prepend {n : Nat} {front markup text text' : List Char} (hfront : Balanced front text)
    (h : Closes n markup text') : Closes n (front ++ markup) (text ++ text') := by
  cases h with
  | zero h => exact .zero (hfront.append h)
  | succ h later =>
    have hall := Closes.succ (hfront.append h) later
    rwa [List.append_assoc, List.append_assoc] at hall

theorem closes_closeTags (n : Nat) : Closes n (List.replicate n closeTag).flatten [] := by
  induction n with
  | zero => exact .zero .nil
  | succ n ih => exact .succ .nil ih

/-- A scope that is opened is closed by the first closing that is not closed in between. -/
theorem Closes.openTag {n : Nat} {scope : Scope} {markup text : List Char} (hscope : CleanScope scope)
    (h : Closes (n + 1) markup text) : Closes n (openTag scope ++ markup) text := by
  cases h with
  | succ h later =>
    have hspan := later.prepend (hscope.balanced_span h .nil)
    rwa [List.append_nil, List.append_nil, List.append_assoc, List.append_assoc] at hspan

/-- Pieces inside some open scopes leave some scopes open; with these closed, what they write closes the
scopes they stand in, by induction on the pieces. -/
theorem closes_pieces {ps : List ScopePiece} {d n : Nat}
    (hclean : ∀ scope, .opens scope ∈ ps.filterMap ScopePiece.mark? → CleanScope scope)
    (hdepth : depthBehind? d (ps.filterMap ScopePiece.mark?) = some n) :
    Closes d (ps.flatMap ScopePiece.markup ++ (List.replicate n closeTag).flatten)
      (ps.flatMap ScopePiece.content) := by
  induction ps generalizing d with
  | nil =>
    obtain rfl := Option.some.inj hdepth
    exact closes_closeTags d
  | cons p ps ih =>
    rw [List.flatMap_cons, List.flatMap_cons, List.append_assoc]
    cases p with
    | text content => exact (ih hclean hdepth).prepend (.escapeShort content)
    | mark m =>
      have hlater : ∀ scope, .opens scope ∈ ps.filterMap ScopePiece.mark? → CleanScope scope :=
        fun scope hmem => hclean scope (List.mem_cons_of_mem m hmem)
      cases m with
      | opens scope => exact (ih hlater hdepth).openTag (hclean scope List.mem_cons_self)
      | closes =>
        cases d with
        | zero => exact nomatch hdepth
        | succ d => exact .succ .nil (ih hlater hdepth)

theorem WellMarked.balanced {lines : List (List Char)} {marked : List (List Char × List ScopeEvent)}
    (h : WellMarked lines marked) : Balanced (linesMarkup 0 marked) lines.flatten := by
  obtain ⟨n, hn⟩ := Option.ne_none_iff_exists'.1 h.nested
  obtain ⟨ps, hmarkup, htext, hmarks, hdepth⟩ := linesMarkup_eq 0 marked
  -- the running difference counts the scopes left open
  have hopen : (0 + ((marksOf marked).map ScopeMark.delta).sum).toNat = n := by
    have hdelta := delta_of_depthBehind? hn
    omega
  have hclean : ∀ scope, .opens scope ∈ ps.filterMap ScopePiece.mark? → CleanScope scope :=
    fun scope hmem => h.clean scope (hmarks hmem)
  rw [hmarkup, hopen, ← h.lines, ← htext]
  cases closes_pieces hclean ((hdepth 0).trans hn) with
  | zero hbalanced => exact hbalanced

end Highlight

/-- A marker that finds well-marked lines in a text, or gives up on it. -/
def MarksWell (marker : Marker) (language : PaneLanguage) (text : String) : Prop :=
  ∀ marked, marker language (linesWithEndings text.toList) = some marked →
    WellMarked (linesWithEndings text.toList) marked

theorem marksWell_grammarMarker (language : PaneLanguage) (text : String) :
    MarksWell grammarMarker language text := by
  intro marked hmarks
  obtain ⟨hlines, hnames⟩ := Grammar.marks_spec hmarks
  refine ⟨hlines, fun scope hmem => ?_, Grammar.marks_nests language.grammar_nests hmarks⟩
  obtain ⟨line, hline, hmem⟩ := List.mem_flatMap.1 hmem
  obtain ⟨e, he, hopens⟩ := List.mem_map.1 hmem
  exact language.clean_named scope (hnames line hline e he scope hopens)

theorem MarksWell.balanced {marker : Marker} {language : PaneLanguage} {text : String}
    (h : MarksWell marker language text) :
    Balanced (paneMarkupBy marker text language).toList text.toList := by
  rw [paneMarkupBy, String.toList_ofList]
  cases hmarks : marker language (linesWithEndings text.toList) with
  | none => exact .escape _
  | some marked =>
    have hmarked := (h marked hmarks).balanced
    rwa [flatten_linesWithEndings] at hmarked

/-- The markup of a pane is balanced and shows the text of the pane: dropping the tags and decoding the
references gives the text back. This holds of every way to find scopes that closes open scopes only, also
where it gives up, and the grammars of the panes are such ways. -/
theorem paneMarkup_balanced (text : String) (language : PaneLanguage) :
    (∀ marker, MarksWell marker language text →
      Balanced (paneMarkupBy marker text language).toList text.toList ∧
        decodeReferences (dropTags false (paneMarkupBy marker text language).toList) = text.toList) ∧
    Balanced (paneMarkup text language).toList text.toList ∧
      decodeReferences (dropTags false (paneMarkup text language).toList) = text.toList := by
  have hgrammar := (marksWell_grammarMarker language text).balanced
  refine ⟨fun marker h => ⟨h.balanced, h.balanced.shows.decode⟩, hgrammar, ?_⟩
  exact hgrammar.shows.decode

/-- Lines whose scopes stay open, the last one without a line feed, and a marker that gives up on them. -/
theorem paneMarkup_balanced_open :
    let text := "[\"<\n\x7b"
    (grammarMarker .json (linesWithEndings text.toList)).isSome = true ∧
      MarksWell grammarMarker .json text ∧ MarksWell (fun _ _ => none) .json text ∧
      Balanced (paneMarkup text .json).toList text.toList ∧
      Balanced (paneMarkupBy (fun _ _ => none) text .json).toList text.toList := by
  intro text
  have hnone : MarksWell (fun _ _ => none) .json text := fun _ h => nomatch h
  have hgrammar := marksWell_grammarMarker .json text
  exact ⟨by decide +kernel, hgrammar, hnone,
    ((paneMarkup_balanced text .json).1 grammarMarker hgrammar).1,
    ((paneMarkup_balanced text .json).1 _ hnone).1⟩

end LiveMarkup
