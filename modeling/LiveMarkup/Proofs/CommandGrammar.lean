import Mathlib
import LiveMarkup.Command

/-! # The grammar of the commands

A command is spelled by words: one that ends the session, or two that choose a format, with the letters of
its tag in either case. The main statement says that a line is read by the words it begins with. It gives
the command that they spell, whatever words stand behind them, so a line gives what all of its words spell
exactly unless there are words behind a complete command.
-/
namespace LiveMarkup

/-- The words of a line are the pieces between its blanks that are not empty. -/
theorem words_eq_filter (line : List Char) :
    words line = (line.splitOnP isBlank).filter (· ≠ []) := by
  fun_induction words line with
  | case1 => simp
  | case2 c cs hc ih => simp [List.splitOnP_cons_eq_if_modifyHead, hc, ih]
  | case3 c hc => simp [List.splitOnP_cons_eq_if_modifyHead, hc]
  | case4 c hc d cs hd ih =>
    rw [ih]
    simp [List.splitOnP_cons_eq_if_modifyHead, hc, hd]
  | case5 c hc d cs hd hwords ih =>
    -- a line that does not begin with a blank has a word
    rw [hwords] at ih
    cases hpieces : cs.splitOnP isBlank with
    | nil => exact absurd hpieces (List.splitOnP_ne_nil _ _)
    | cons first pieces => simp [List.splitOnP_cons_eq_if_modifyHead, hd, hpieces] at ih
  | case6 c hc d cs hd word more hwords ih =>
    rw [hwords] at ih ⊢
    cases hpieces : cs.splitOnP isBlank with
    | nil => exact absurd hpieces (List.splitOnP_ne_nil _ _)
    | cons first pieces =>
      simp [List.splitOnP_cons_eq_if_modifyHead, hc, hd, hpieces] at ih ⊢
      exact ih

theorem words_eq_nil_iff {line : List Char} : words line = [] ↔ ∀ c ∈ line, isBlank c = true := by
  fun_induction words line <;> simp_all

theorem not_isBlank_of_mem_words {line word : List Char} (h : word ∈ words line) :
    ∀ c ∈ word, isBlank c = false := by
  fun_induction words line generalizing word with
  | case1 => simp at h
  | case2 c cs hc ih => exact ih h
  | case3 c hc =>
    obtain rfl := List.mem_singleton.1 h
    simpa using hc
  | case4 c hc d cs hd ih =>
    rcases List.mem_cons.1 h with rfl | h
    · simpa using hc
    · exact ih h
  | case5 c hc d cs hd hwords ih =>
    rw [hwords] at h
    obtain rfl := List.mem_singleton.1 h
    simpa using hc
  | case6 c hc d cs hd first more hwords ih =>
    rw [hwords] at h ih
    rcases List.mem_cons.1 h with rfl | h
    · have hfirst := ih List.mem_cons_self
      simpa [hc] using hfirst
    · exact ih (List.mem_cons_of_mem _ h)

theorem trimText_of_not_isBlank {s : String} (h : ∀ c ∈ s.toList, isBlank c = false) :
    trimText s = s := by
  have hkept : ∀ l : List Char, (∀ c ∈ l, isBlank c = false) → l.dropWhile isBlank = l := by
    intro l hl
    cases l with
    | nil => rfl
    | cons c l => exact List.dropWhile_cons_of_neg (by simp [hl c])
  rw [trimText, trim, trimEnd, hkept _ h, hkept _ (by simpa using h), List.reverse_reverse,
    String.ofList_toList]

/-! ## Letters of either case -/

def IsCapitalOf (c d : Char) : Prop := 'A' ≤ c ∧ c ≤ 'Z' ∧ d.toNat = c.toNat + 32

theorem isCapitalOf_iff {c d : Char} :
    IsCapitalOf c d ↔ 65 ≤ c.toNat ∧ c.toNat ≤ 90 ∧ d.toNat = c.toNat + 32 := Iff.rfl

/-- Two texts that differ at most in the case of letters from A to Z. -/
def SameUpToCase (s t : String) : Prop :=
  List.Forall₂ (fun c d => c = d ∨ IsCapitalOf c d ∨ IsCapitalOf d c) s.toList t.toList

theorem toNat_toLower (c : Char) :
    c.toLower.toNat = if 65 ≤ c.toNat ∧ c.toNat ≤ 90 then c.toNat + 32 else c.toNat := by
  by_cases h : c.isUpper = true
  · have hrange : 65 ≤ c.toNat ∧ c.toNat ≤ 90 := by
      simpa [Char.isUpper, UInt32.le_iff_toNat_le] using h
    have hvalid : (c.toNat + 32).isValidChar := Or.inl (by omega)
    rw [Char.toLower_eq_of_isUpper h, Char.toNat_ofNat, if_pos hvalid, if_pos hrange]
  · have hrange : ¬(65 ≤ c.toNat ∧ c.toNat ≤ 90) := by
      simpa [Char.isUpper, UInt32.le_iff_toNat_le] using h
    rw [Char.toLower_eq_of_not_isUpper h, if_neg hrange]

theorem toLower_eq_iff {c d : Char} :
    c.toLower = d.toLower ↔ c = d ∨ IsCapitalOf c d ∨ IsCapitalOf d c := by
  rw [← Char.toNat_inj, ← Char.toNat_inj, toNat_toLower, toNat_toLower, isCapitalOf_iff,
    isCapitalOf_iff]
  split_ifs <;> omega

theorem isBlank_toLower (c : Char) : isBlank c.toLower = isBlank c := by
  rw [Bool.eq_iff_iff]
  simp only [isBlank, blankRanges, List.any_cons, List.any_nil, Bool.or_eq_true, Bool.and_eq_true,
    decide_eq_true_eq, toNat_toLower]
  split_ifs with h
  · simp only [or_false]
    omega
  · rfl

theorem sameUpToCase_iff {s t : String} :
    SameUpToCase s t ↔ s.toList.map Char.toLower = t.toList.map Char.toLower := by
  simp only [SameUpToCase, ← toLower_eq_iff]
  rw [← List.forall₂_eq_eq_eq, List.forall₂_map_left_iff, List.forall₂_map_right_iff]

namespace Format

theorem ofTag?_eq_some_iff {tag : String} {f : Format} : ofTag? tag = some f ↔ trimText tag = f.tag := by
  constructor
  · intro h
    rw [ofTag?] at h
    simpa [eq_comm] using List.find?_some h
  · intro h
    rw [ofTag?, h]
    cases f <;> decide

theorem map_toLower_tag (f : Format) : f.tag.toList.map Char.toLower = f.tag.toList := by
  cases f <;> decide

theorem ofTag?_lowered {tag : String} (h : ∀ c ∈ tag.toList, isBlank c = false) {f : Format} :
    ofTag? (String.ofList (tag.toList.map Char.toLower)) = some f ↔ SameUpToCase tag f.tag := by
  have hlowered : ∀ c ∈ (String.ofList (tag.toList.map Char.toLower)).toList, isBlank c = false := by
    simpa [isBlank_toLower] using h
  rw [ofTag?_eq_some_iff, trimText_of_not_isBlank hlowered, sameUpToCase_iff, map_toLower_tag,
    ← String.toList_inj, String.toList_ofList]

theorem eq_of_sameUpToCase {tag : String} {f g : Format} (hf : SameUpToCase tag f.tag)
    (hg : SameUpToCase tag g.tag) : f = g := by
  rw [sameUpToCase_iff, map_toLower_tag] at hf hg
  rw [hf] at hg
  revert hg
  cases f <;> cases g <;> decide

end Format

/-! ## What words spell -/

namespace Command

def quitWords : List String := [":q", ":quit"]

def formatWords : List String := [":f", ":format"]

theorem notMem_formatWords {word : String} (h : word ∈ quitWords) : word ∉ formatWords := by
  revert word
  decide

/-- The words that spell a command. -/
inductive Spells : List String → Command → Prop
  | quit {word : String} (h : word ∈ quitWords) : Spells [word] .quit
  | setFormat {word tag : String} {format : Format} (h : word ∈ formatWords)
      (htag : SameUpToCase tag format.tag) : Spells [word, tag] (.setFormat format)

/-- What a line with certain words is read as. -/
inductive ReadAs : List String → Except CommandFault (Option Command) → Prop
  | blank : ReadAs [] (.ok none)
  | quit {word : String} {more : List String} (h : word ∈ quitWords) :
      ReadAs (word :: more) (.ok (some .quit))
  | setFormat {word tag : String} {more : List String} {format : Format} (h : word ∈ formatWords)
      (htag : SameUpToCase tag format.tag) :
      ReadAs (word :: tag :: more) (.ok (some (.setFormat format)))
  | missingFormat {word : String} (h : word ∈ formatWords) : ReadAs [word] (.error .missingFormat)
  | unknownFormat {word tag : String} {more : List String} (h : word ∈ formatWords)
      (hnone : ∀ format : Format, ¬SameUpToCase tag format.tag) :
      ReadAs (word :: tag :: more) (.error (.unknownFormat tag))
  | unknownCommand {word : String} {more : List String} (hquit : word ∉ quitWords)
      (hformat : word ∉ formatWords) : ReadAs (word :: more) (.error (.unknownCommand word))

theorem readAs_ofLine (line : List Char) :
    ReadAs ((words line).map String.ofList) (ofLine line) := by
  have hblank : ∀ word ∈ (words line).map String.ofList, ∀ c ∈ word.toList, isBlank c = false := by
    intro word hword
    obtain ⟨cs, hcs, rfl⟩ := List.mem_map.1 hword
    simpa using not_isBlank_of_mem_words hcs
  unfold ofLine
  generalize (words line).map String.ofList = found at hblank
  cases found with
  | nil => exact .blank
  | cons head more =>
    dsimp only
    by_cases hquit : head = ":q" ∨ head = ":quit"
    · rw [if_pos hquit]
      exact .quit (by simpa [quitWords] using hquit)
    have hnotQuit : head ∉ quitWords := by simpa [quitWords] using hquit
    rw [if_neg hquit]
    by_cases hformat : head = ":f" ∨ head = ":format"
    · have hmem : head ∈ formatWords := by simpa [formatWords] using hformat
      rw [if_pos hformat]
      cases more with
      | nil => exact .missingFormat hmem
      | cons tag more =>
        dsimp only
        have htag : ∀ c ∈ tag.toList, isBlank c = false := hblank tag (by simp)
        cases hfound : Format.ofTag? (String.ofList (tag.toList.map Char.toLower)) with
        | some format => exact .setFormat hmem ((Format.ofTag?_lowered htag).1 hfound)
        | none =>
          refine .unknownFormat hmem fun format hsame => ?_
          rw [(Format.ofTag?_lowered htag).2 hsame] at hfound
          exact nomatch hfound
    · rw [if_neg hformat]
      exact .unknownCommand hnotQuit (by simpa [formatWords] using hformat)

/-- No two rules read the same words. -/
theorem ReadAs.unique {found : List String} {r r' : Except CommandFault (Option Command)}
    (h : ReadAs found r) (h' : ReadAs found r') : r = r' := by
  have hapart := @notMem_formatWords
  have htags := @Format.eq_of_sameUpToCase
  cases h <;> cases h' <;> grind

theorem ofLine_eq_iff {line : List Char} {r : Except CommandFault (Option Command)} :
    ofLine line = r ↔ ReadAs ((words line).map String.ofList) r := by
  constructor
  · rintro rfl
    exact readAs_ofLine line
  · exact (readAs_ofLine line).unique

theorem readAs_some_iff {found : List String} {c : Command} :
    ReadAs found (.ok (some c)) ↔ ∃ leading, leading <+: found ∧ Spells leading c := by
  constructor
  · intro h
    cases h with
    | @quit word more hword => exact ⟨[word], List.prefix_append _ more, .quit hword⟩
    | @setFormat word tag more format hword htag =>
      exact ⟨[word, tag], List.prefix_append _ more, .setFormat hword htag⟩
  · rintro ⟨leading, ⟨more, rfl⟩, hleading⟩
    cases hleading with
    | quit hword => exact .quit hword
    | setFormat hword htag => exact .setFormat hword htag

theorem readAs_none_iff {found : List String} : ReadAs found (.ok none) ↔ found = [] := by
  constructor
  · intro h
    cases h
    rfl
  · rintro rfl
    exact .blank

/-- No command is spelled by the beginning of what spells a command. -/
theorem Spells.eq_of_beginning {leading found : List String} {c d : Command} (h : Spells leading c)
    (hbegins : leading <+: found) (hfound : Spells found d) : leading = found := by
  obtain ⟨more, rfl⟩ := hbegins
  cases h with
  | quit hword =>
    cases hfound with
    | quit _ => rfl
    | setFormat hformat _ => exact absurd hformat (notMem_formatWords hword)
  | setFormat hword _ =>
    cases hfound with
    | setFormat _ _ => rfl

end Command

/-- The words of a line are the pieces between its blanks that are not empty. The line gives the command
that the words at its beginning spell, if they spell one; nothing if it is blank; and an error otherwise.
So it gives exactly what all of its words spell unless a command is spelled by fewer of them. -/
theorem ofLine_reads_leading_words (line : List Char) :
    words line = (line.splitOnP isBlank).filter (· ≠ []) ∧
    let found := (words line).map String.ofList
    (∀ c, Command.ofLine line = .ok (some c) ↔ ∃ leading, leading <+: found ∧ Command.Spells leading c) ∧
    (Command.ofLine line = .ok none ↔ ∀ c ∈ line, isBlank c = true) ∧
    ((∃ fault, Command.ofLine line = .error fault) ↔
      ¬(∀ c ∈ line, isBlank c = true) ∧ ¬∃ leading c, leading <+: found ∧ Command.Spells leading c) ∧
    ((∀ c, Command.ofLine line = .ok (some c) ↔ Command.Spells found c) ↔
      ¬∃ leading c, leading <+: found ∧ leading ≠ found ∧ Command.Spells leading c) := by
  refine ⟨words_eq_filter line, ?_⟩
  intro found
  have hsome : ∀ c, Command.ofLine line = .ok (some c) ↔
      ∃ leading, leading <+: found ∧ Command.Spells leading c := by
    intro c
    rw [Command.ofLine_eq_iff, Command.readAs_some_iff]
  have hnone : Command.ofLine line = .ok none ↔ ∀ c ∈ line, isBlank c = true := by
    rw [Command.ofLine_eq_iff, Command.readAs_none_iff, List.map_eq_nil_iff, words_eq_nil_iff]
  refine ⟨hsome, hnone, ?_, ?_⟩
  · rw [← hnone, exists_comm]
    simp only [← hsome]
    cases Command.ofLine line with
    | error fault => simp
    | ok read => cases read <;> simp
  · constructor
    · rintro hlaw ⟨leading, c, hleading, hne, hspells⟩
      have hread := (hsome c).2 ⟨leading, hleading, hspells⟩
      exact hne (hspells.eq_of_beginning hleading ((hlaw c).1 hread))
    · intro hwhole c
      rw [hsome]
      constructor
      · rintro ⟨leading, hleading, hspells⟩
        by_cases he : leading = found
        · exact he ▸ hspells
        · exact absurd ⟨leading, c, hleading, he, hspells⟩ hwhole
      · intro hspells
        exact ⟨found, List.prefix_rfl, hspells⟩

/-- The Kelvin sign is not a letter k in another case. -/
example : Command.ofLine " :F　MarKdown".toList = .error (.unknownCommand ":F") ∧
    Command.ofLine " :f　MarKdown".toList = .ok (some (.setFormat .markdown)) ∧
    Command.ofLine " :f　Mar\u212adown".toList = .error (.unknownFormat "Mar\u212adown") := by
  decide

/-- A word behind a complete command is passed over. -/
theorem ofLine_surplus_word :
    let line := ":quit now".toList
    Command.ofLine line = .ok (some .quit) ∧
      ¬Command.Spells ((words line).map String.ofList) .quit := by
  intro line
  have hfound : (words line).map String.ofList = [":quit", "now"] := by decide
  refine ⟨by decide, ?_⟩
  rw [hfound]
  exact nofun

end LiveMarkup
