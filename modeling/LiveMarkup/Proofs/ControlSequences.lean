import Mathlib
import LiveMarkup.Output.Diagnostic
import LiveMarkup.Text.Search

/-! # The control sequences deleted from a message

Complete sequences never overlap, so every one that stands in a message is deleted, and the text in front
of it and the text behind it are treated each on its own. Nothing else is deleted. What is kept on either
side of a deleted sequence can make up a new one, if it was begun in front of the deletion; only then is
a second pass over the result different from the first.
-/
namespace LiveMarkup

/-- The complete control sequences: `ESC [`, parameters, intermediate characters and a final one, or `ESC ]`
and other characters up to a bell or `ESC \`. -/
inductive IsSequence : List Char → Prop
  | bracket {parameters intermediates : List Char} {final : Char}
      (hparameters : ∀ c ∈ parameters, ('0' ≤ c ∧ c ≤ '9') ∨ c = ';' ∨ c = '?')
      (hintermediates : ∀ c ∈ intermediates, ' ' ≤ c ∧ c ≤ '/')
      (hfinal : '@' ≤ final ∧ final ≤ '~') :
      IsSequence (introducer :: '[' :: (parameters ++ (intermediates ++ [final])))
  | command {body ending : List Char} (hbody : ∀ c ∈ body, c ≠ '\x07' ∧ c ≠ introducer)
      (hending : ending = ['\x07'] ∨ ending = [introducer, '\\']) :
      IsSequence (introducer :: ']' :: (body ++ ending))

/-- No complete sequence stands at the beginning of a text. -/
def NoneStarts (text : List Char) : Prop := ∀ s, IsSequence s → ¬s <+: text

/-- No complete sequence stands anywhere in a text. -/
def SequenceFree (text : List Char) : Prop := ∀ s, IsSequence s → ¬s <:+: text

theorem isParameter_iff (c : Char) :
    isParameter c = true ↔ ('0' ≤ c ∧ c ≤ '9') ∨ c = ';' ∨ c = '?' := by
  simp only [isParameter, Char.isDigit, Bool.or_eq_true, Bool.and_eq_true, decide_eq_true_eq, or_assoc]
  exact Iff.rfl

theorem isIntermediate_iff (c : Char) : isIntermediate c = true ↔ ' ' ≤ c ∧ c ≤ '/' := by
  simp only [isIntermediate, Bool.and_eq_true, decide_eq_true_eq]

theorem isFinal_iff (c : Char) : isFinal c = true ↔ '@' ≤ c ∧ c ≤ '~' := by
  simp only [isFinal, Bool.and_eq_true, decide_eq_true_eq]

theorem isParameter_eq_false {c : Char} (h : c ≤ '/' ∨ '@' ≤ c) : isParameter c = false := by
  rw [← Bool.not_eq_true, isParameter_iff]
  rintro (⟨hlow, hhigh⟩ | rfl | rfl)
  · rcases h with h | h
    · exact absurd (hlow.trans h) (by decide)
    · exact absurd (h.trans hhigh) (by decide)
  · exact absurd h (by decide)
  · exact absurd h (by decide)

theorem isIntermediate_eq_false {c : Char} (h : '@' ≤ c) : isIntermediate c = false := by
  rw [← Bool.not_eq_true, isIntermediate_iff]
  exact fun hc => absurd (h.trans hc.2) (by decide)

/-! ### Reading one sequence -/

theorem bracketSequence?_eq {parameters intermediates : List Char} {final : Char}
    (hparameters : ∀ c ∈ parameters, isParameter c = true)
    (hintermediates : ∀ c ∈ intermediates, isIntermediate c = true)
    (hfinal : isFinal final = true) (rest : List Char) :
    bracketSequence? (parameters ++ (intermediates ++ final :: rest)) =
      some (parameters.length + intermediates.length + 1) := by
  have hstops := isIntermediate_eq_false ((isFinal_iff final).1 hfinal).1
  obtain ⟨htake, hdrop⟩ := takeWhile_append_cons hintermediates hstops rest
  have hbegins : ∃ c more, intermediates ++ final :: rest = c :: more ∧ isParameter c = false := by
    cases intermediates with
    | nil => exact ⟨final, rest, rfl, isParameter_eq_false (.inr ((isFinal_iff final).1 hfinal).1)⟩
    | cons c more =>
      have hc := (isIntermediate_iff c).1 (hintermediates c List.mem_cons_self)
      exact ⟨c, more ++ final :: rest, rfl, isParameter_eq_false (.inl hc.2)⟩
  obtain ⟨c, more, hbehind, hc⟩ := hbegins
  obtain ⟨htakeParameters, hdropParameters⟩ := takeWhile_append_cons hparameters hc more
  dsimp only [bracketSequence?]
  rw [hbehind, htakeParameters, hdropParameters, ← hbehind, htake, hdrop]
  exact if_pos hfinal

theorem bracketSequence?_spec {text : List Char} {n : Nat} (h : bracketSequence? text = some n) :
    ∃ parameters intermediates final rest,
      text = parameters ++ (intermediates ++ final :: rest) ∧
      (∀ c ∈ parameters, isParameter c = true) ∧ (∀ c ∈ intermediates, isIntermediate c = true) ∧
      isFinal final = true ∧ n = parameters.length + intermediates.length + 1 := by
  dsimp only [bracketSequence?] at h
  split at h
  · next final rest hbehind =>
    split_ifs at h with hfinal
    refine ⟨_, _, final, rest, ?_, fun c => List.mem_takeWhile_imp, fun c => List.mem_takeWhile_imp,
      hfinal, (Option.some.inj h).symm⟩
    rw [← hbehind, List.takeWhile_append_dropWhile, List.takeWhile_append_dropWhile]
  · contradiction

theorem commandSequence?_eq {body ending : List Char}
    (hbody : ∀ c ∈ body, c ≠ '\x07' ∧ c ≠ introducer)
    (hending : ending = ['\x07'] ∨ ending = [introducer, '\\']) (rest : List Char) :
    commandSequence? (body ++ (ending ++ rest)) = some (body.length + ending.length) := by
  induction body with
  | nil => rcases hending with rfl | rfl <;> rfl
  | cons c body ih =>
    obtain ⟨⟨hbell, hintroducer⟩, hbody⟩ := List.forall_mem_cons.1 hbody
    rw [List.cons_append, commandSequence?, if_neg hbell, if_neg hintroducer, ih hbody, Option.map_some,
      List.length_cons]
    congr 1
    omega

theorem commandSequence?_spec {text : List Char} {n : Nat} (h : commandSequence? text = some n) :
    ∃ body ending rest, text = body ++ (ending ++ rest) ∧
      (∀ c ∈ body, c ≠ '\x07' ∧ c ≠ introducer) ∧
      (ending = ['\x07'] ∨ ending = [introducer, '\\']) ∧ n = body.length + ending.length := by
  induction text generalizing n with
  | nil => contradiction
  | cons c cs ih =>
    rw [commandSequence?] at h
    split_ifs at h with hbell hintroducer hslash
    · exact ⟨[], ['\x07'], cs, by rw [hbell]; rfl, by simp, .inl rfl, (Option.some.inj h).symm⟩
    · obtain ⟨rest, rfl⟩ := List.head?_eq_some_iff.1 hslash
      exact ⟨[], [introducer, '\\'], rest, by rw [hintroducer]; rfl, by simp, .inr rfl,
        (Option.some.inj h).symm⟩
    · obtain ⟨m, hm, rfl⟩ := Option.map_eq_some_iff.1 h
      obtain ⟨body, ending, rest, rfl, hbody, hending, rfl⟩ := ih hm
      refine ⟨c :: body, ending, rest, rfl, List.forall_mem_cons.2 ⟨⟨hbell, hintroducer⟩, hbody⟩,
        hending, ?_⟩
      rw [List.length_cons]
      omega

theorem IsSequence.sequenceLength?_append {s : List Char} (h : IsSequence (introducer :: s))
    (rest : List Char) : sequenceLength? (s ++ rest) = some s.length := by
  cases h with
  | @bracket parameters intermediates final hparameters hintermediates hfinal =>
    have hlength := bracketSequence?_eq (fun c hc => (isParameter_iff c).2 (hparameters c hc))
      (fun c hc => (isIntermediate_iff c).2 (hintermediates c hc)) ((isFinal_iff final).2 hfinal) rest
    simp only [List.cons_append, List.append_assoc, List.nil_append, sequenceLength?, hlength]
    simp [Nat.add_assoc]
  | @command body ending hbody hending =>
    rw [List.cons_append, List.append_assoc, sequenceLength?, commandSequence?_eq hbody hending]
    simp

theorem exists_of_sequenceLength? {text : List Char} {n : Nat} (h : sequenceLength? text = some n) :
    ∃ s rest, text = s ++ rest ∧ s.length = n ∧ IsSequence (introducer :: s) := by
  unfold sequenceLength? at h
  split at h
  · next text =>
    obtain ⟨m, hm, rfl⟩ := Option.map_eq_some_iff.1 h
    obtain ⟨parameters, intermediates, final, rest, rfl, hparameters, hintermediates, hfinal, rfl⟩ :=
      bracketSequence?_spec hm
    refine ⟨'[' :: (parameters ++ (intermediates ++ [final])), rest, by simp, by simp; omega,
      .bracket (fun c hc => (isParameter_iff c).1 (hparameters c hc))
        (fun c hc => (isIntermediate_iff c).1 (hintermediates c hc)) ((isFinal_iff final).1 hfinal)⟩
  · next text =>
    obtain ⟨m, hm, rfl⟩ := Option.map_eq_some_iff.1 h
    obtain ⟨body, ending, rest, rfl, hbody, hending, rfl⟩ := commandSequence?_spec hm
    exact ⟨']' :: (body ++ ending), rest, by simp, by simp, .command hbody hending⟩
  · contradiction

theorem introducer_notMem_bracket {parameters intermediates : List Char} {final : Char}
    (hparameters : ∀ c ∈ parameters, ('0' ≤ c ∧ c ≤ '9') ∨ c = ';' ∨ c = '?')
    (hintermediates : ∀ c ∈ intermediates, ' ' ≤ c ∧ c ≤ '/')
    (hfinal : '@' ≤ final ∧ final ≤ '~') :
    introducer ∉ '[' :: (parameters ++ (intermediates ++ [final])) := by
  simp only [List.mem_cons, List.mem_append, List.not_mem_nil, or_false]
  rintro (h | h | h | rfl)
  · exact absurd h (by decide)
  · exact absurd (hparameters _ h) (by decide)
  · exact absurd (hintermediates _ h) (by decide)
  · exact absurd hfinal (by decide)

/-- An escape character inside a complete sequence stands in front of its last character. -/
theorem IsSequence.behind_introducer {s front back : List Char} (h : IsSequence s)
    (hs : s = front ++ introducer :: back) (hfront : front ≠ []) : back = ['\\'] := by
  obtain ⟨first, front, rfl⟩ := List.exists_cons_of_ne_nil hfront
  cases h with
  | @bracket parameters intermediates final hparameters hintermediates hfinal =>
    refine absurd ?_ (introducer_notMem_bracket hparameters hintermediates hfinal)
    rw [(List.cons.inj hs).2]
    exact List.mem_append_right front List.mem_cons_self
  | @command body ending hbody hending =>
    have hbody : introducer ∉ ']' :: body := by
      rintro (_ | ⟨_, hm⟩)
      exact (hbody _ hm).2 rfl
    have htail : (']' :: body) ++ ending = front ++ introducer :: back := (List.cons.inj hs).2
    have hlast : ∀ more, ending = more ++ introducer :: back → back = ['\\'] := by
      rintro more he
      have hm : introducer ∈ ending := he ▸ List.mem_append_right more List.mem_cons_self
      rcases hending with rfl | rfl
      · exact absurd hm (by decide)
      · cases more with
        | nil => exact (List.cons.inj he).2.symm
        | cons c more =>
          have hm : introducer ∈ ['\\'] :=
            (List.cons.inj he).2 ▸ List.mem_append_right more List.mem_cons_self
          exact absurd hm (by decide)
    rcases List.append_eq_append_iff.1 htail with ⟨more, -, he⟩ | ⟨more, hmore, he⟩
    · exact hlast more he
    · cases more with
      | nil => exact hlast [] he.symm
      | cons c more =>
        obtain ⟨rfl, -⟩ := List.cons.inj he
        exact absurd (hmore ▸ List.mem_append_right front List.mem_cons_self) hbody

theorem IsSequence.exists_cons_cons {s : List Char} (h : IsSequence s) :
    ∃ c rest, s = introducer :: c :: rest ∧ c ≠ '\\' := by
  cases h with
  | bracket => exact ⟨'[', _, rfl, by decide⟩
  | command => exact ⟨']', _, rfl, by decide⟩

/-! ### One pass over a text -/

theorem stripFrom_eq (n : Nat) (text : List Char) : stripFrom n text = stripAnsi (text.drop n) := by
  induction n generalizing text with
  | zero => rfl
  | succ n ih =>
    cases text with
    | nil => rfl
    | cons c cs => exact ih cs

theorem stripAnsi_sequence_append {s : List Char} (h : IsSequence s) (rest : List Char) :
    stripAnsi (s ++ rest) = stripAnsi rest := by
  obtain ⟨c, tail, rfl, -⟩ := h.exists_cons_cons
  rw [stripAnsi, List.cons_append, stripFrom, if_pos rfl, h.sequenceLength?_append]
  dsimp only
  rw [stripFrom_eq, List.drop_left]

theorem stripAnsi_cons {c : Char} {cs : List Char} (h : NoneStarts (c :: cs)) :
    stripAnsi (c :: cs) = c :: stripAnsi cs := by
  have hnone : (if c = introducer then sequenceLength? cs else none) = none := by
    split_ifs with hc
    · cases hlength : sequenceLength? cs with
      | none => rfl
      | some n =>
        obtain ⟨s, rest, rfl, -, hs⟩ := exists_of_sequenceLength? hlength
        exact absurd ⟨rest, by rw [hc]; rfl⟩ (h _ hs)
    · rfl
  rw [stripAnsi, stripFrom, hnone]
  rfl

/-- Induction on what a pass does with a text: it deletes a sequence or keeps a character. -/
theorem sequence_induction {motive : List Char → Prop} (nil : motive [])
    (sequence : ∀ s rest, IsSequence s → motive rest → motive (s ++ rest))
    (char : ∀ c cs, NoneStarts (c :: cs) → motive cs → motive (c :: cs)) (text : List Char) :
    motive text := by
  by_cases h : NoneStarts text
  · match text, h with
    | [], _ => exact nil
    | c :: cs, h => exact char c cs h (sequence_induction nil sequence char cs)
  · simp only [NoneStarts, not_forall, not_not] at h
    obtain ⟨s, hs, rest, hrest⟩ := h
    rw [← hrest]
    exact sequence s rest hs (sequence_induction nil sequence char rest)
termination_by text.length
decreasing_by
  · simp
  · obtain ⟨c, tail, rfl, -⟩ := hs.exists_cons_cons
    simp [← hrest]
    omega

/-! ### What is deleted from a message -/

/-- Behind a text in which no sequence starts at the front, a sequence does not complete one. -/
theorem NoneStarts.append_sequence {text s : List Char} (h : NoneStarts text) (hne : text ≠ [])
    (hs : IsSequence s) (behind : List Char) : NoneStarts (text ++ (s ++ behind)) := by
  rintro t ht ⟨rest, hrest⟩
  rcases List.append_eq_append_iff.1 hrest with ⟨more, htext, -⟩ | ⟨more, htext, hmore⟩
  · exact h t ht ⟨more, htext.symm⟩
  · cases more with
    | nil => exact h t ht ⟨[], by simpa using htext⟩
    | cons d more =>
      -- the sequence would have to go on with the escape character of the one behind the text
      obtain ⟨c, tail, rfl, hc⟩ := hs.exists_cons_cons
      obtain ⟨rfl, hbehind⟩ := List.cons.inj hmore
      obtain rfl := ht.behind_introducer htext hne
      exact hc (List.cons.inj hbehind).1

/-- A complete sequence is deleted wherever it stands, and the texts around it do not notice each other. -/
theorem stripAnsi_append_sequence_append {s : List Char} (hs : IsSequence s)
    (before behind : List Char) :
    stripAnsi (before ++ (s ++ behind)) = stripAnsi before ++ stripAnsi behind := by
  induction before using sequence_induction with
  | nil => exact stripAnsi_sequence_append hs behind
  | sequence t rest ht ih =>
    rw [List.append_assoc, stripAnsi_sequence_append ht, stripAnsi_sequence_append ht, ih]
  | char c cs hnone ih =>
    have hkept : NoneStarts (c :: (cs ++ (s ++ behind))) :=
      hnone.append_sequence (List.cons_ne_nil c cs) hs behind
    rw [List.cons_append, stripAnsi_cons hkept, stripAnsi_cons hnone, ih, List.cons_append]

theorem stripAnsi_sublist (text : List Char) : (stripAnsi text).Sublist text := by
  induction text using sequence_induction with
  | nil => exact List.nil_sublist _
  | sequence s rest hs ih =>
    rw [stripAnsi_sequence_append hs]
    exact ih.trans (List.sublist_append_right s rest)
  | char c cs hnone ih =>
    rw [stripAnsi_cons hnone]
    exact ih.cons_cons c

theorem sequenceFree_cons_iff {c : Char} {cs : List Char} :
    SequenceFree (c :: cs) ↔ NoneStarts (c :: cs) ∧ SequenceFree cs := by
  simp only [SequenceFree, NoneStarts, List.infix_cons_iff, not_or]
  exact ⟨fun h => ⟨fun s hs => (h s hs).1, fun s hs => (h s hs).2⟩,
    fun h s hs => ⟨h.1 s hs, h.2 s hs⟩⟩

theorem sequenceFree_nil : SequenceFree [] := by
  intro s hs hinside
  obtain ⟨c, tail, rfl, -⟩ := hs.exists_cons_cons
  simp at hinside

/-- A pass leaves exactly the texts without complete sequences as they are. -/
theorem stripAnsi_eq_self_iff {text : List Char} : stripAnsi text = text ↔ SequenceFree text := by
  constructor
  · rintro h s hs ⟨before, behind, htext⟩
    have hlength := congrArg List.length h
    rw [← htext, List.append_assoc, stripAnsi_append_sequence_append hs] at hlength
    have hbefore := (stripAnsi_sublist before).length_le
    have hbehind := (stripAnsi_sublist behind).length_le
    obtain ⟨c, tail, rfl, -⟩ := hs.exists_cons_cons
    simp only [List.length_append, List.length_cons] at hlength
    omega
  · intro h
    induction text with
    | nil => rfl
    | cons c cs ih =>
      obtain ⟨hnone, hfree⟩ := sequenceFree_cons_iff.1 h
      rw [stripAnsi_cons hnone, ih hfree]

theorem SequenceFree.of_part {part text : List Char} (h : SequenceFree text) (hp : part <:+: text) :
    SequenceFree part := fun s hs hinside => h s hs (hinside.trans hp)

/-- A complete sequence is begun at the end of one text and goes on into another. -/
def Joins (front behind : List Char) : Prop :=
  ∃ u v, u ≠ [] ∧ v ≠ [] ∧ u <:+ front ∧ v <+: behind ∧ IsSequence (u ++ v)

theorem sequenceFree_append_iff {front behind : List Char} :
    SequenceFree (front ++ behind) ↔
      SequenceFree front ∧ SequenceFree behind ∧ ¬Joins front behind := by
  constructor
  · intro h
    refine ⟨h.of_part (List.prefix_append front behind).isInfix,
      h.of_part (List.suffix_append front behind).isInfix, ?_⟩
    rintro ⟨u, v, -, -, ⟨a, rfl⟩, ⟨b, rfl⟩, hs⟩
    exact h _ hs ⟨a, b, by simp only [List.append_assoc]⟩
  · rintro ⟨hfront, hbehind, hjoins⟩
    induction front with
    | nil => exact hbehind
    | cons c front ih =>
      have hlater : ¬Joins front behind := fun ⟨u, v, hu, hv, hsuffix, hbegins, hs⟩ =>
        hjoins ⟨u, v, hu, hv, hsuffix.trans (List.suffix_cons c front), hbegins, hs⟩
      refine sequenceFree_cons_iff.2 ⟨?_, ih (sequenceFree_cons_iff.1 hfront).2 hlater⟩
      rintro s hs ⟨rest, hrest⟩
      have hsplit : s ++ rest = (c :: front) ++ behind := hrest
      rcases List.append_eq_append_iff.1 hsplit with ⟨more, he, -⟩ | ⟨more, rfl, rfl⟩
      · exact hfront s hs ⟨[], more, he.symm⟩
      · by_cases hmore : more = []
        · subst hmore
          exact hfront _ hs (by simp)
        · exact hjoins ⟨c :: front, more, List.cons_ne_nil c front, hmore, List.suffix_rfl,
            List.prefix_append more rest, hs⟩

/-- A stretch of a message that is kept, and the complete sequence behind it. -/
structure Stretch where
  kept : List Char
  deleted : List Char
  complete : IsSequence deleted
  free : SequenceFree kept

def Stretch.whole (s : Stretch) : List Char := s.kept ++ s.deleted

/-- A message is cut into stretches that are kept and complete sequences between them. -/
theorem exists_stretches (message : List Char) :
    ∃ (stretches : List Stretch) (last : List Char), SequenceFree last ∧
      message = stretches.flatMap Stretch.whole ++ last ∧
      stripAnsi message = stretches.flatMap Stretch.kept ++ last := by
  induction message using sequence_induction with
  | nil => exact ⟨[], [], sequenceFree_nil, rfl, rfl⟩
  | sequence s rest hs ih =>
    obtain ⟨stretches, last, hlast, hwhole, hkept⟩ := ih
    refine ⟨⟨[], s, hs, sequenceFree_nil⟩ :: stretches, last, hlast, ?_, ?_⟩
    · rw [hwhole, List.flatMap_cons, Stretch.whole, List.nil_append, List.append_assoc]
    · rw [stripAnsi_sequence_append hs, hkept, List.flatMap_cons, List.nil_append]
  | char c cs hnone ih =>
    obtain ⟨stretches, last, hlast, hwhole, hkept⟩ := ih
    rw [stripAnsi_cons hnone, hkept]
    -- the character is put in front of the first stretch, and no sequence starts with it there
    cases stretches with
    | nil =>
      obtain rfl : cs = last := hwhole
      exact ⟨[], c :: cs, sequenceFree_cons_iff.2 ⟨hnone, hlast⟩, rfl, rfl⟩
    | cons first stretches =>
      rw [List.flatMap_cons, Stretch.whole, List.append_assoc, List.append_assoc] at hwhole
      have hstart : NoneStarts (c :: first.kept) := fun s hs hp =>
        hnone s hs (hp.trans (hwhole ▸ List.prefix_append (c :: first.kept) _))
      have hfree : SequenceFree (c :: first.kept) := sequenceFree_cons_iff.2 ⟨hstart, first.free⟩
      refine ⟨⟨c :: first.kept, first.deleted, first.complete, hfree⟩ :: stretches, last, hlast, ?_,
        ?_⟩
      · rw [hwhole]
        simp only [List.flatMap_cons, Stretch.whole, List.cons_append, List.append_assoc]
      · simp only [List.flatMap_cons, List.cons_append]

theorem sequenceFree_kept_iff {stretches : List Stretch} {last : List Char}
    (hlast : SequenceFree last) :
    SequenceFree (stretches.flatMap Stretch.kept ++ last) ↔
      ∀ front stretch rest, stretches = front ++ stretch :: rest →
        ¬Joins stretch.kept (rest.flatMap Stretch.kept ++ last) := by
  induction stretches with
  | nil => simpa using hlast
  | cons first stretches ih =>
    rw [List.flatMap_cons, List.append_assoc, sequenceFree_append_iff, ih]
    constructor
    · rintro ⟨-, hrest, hfirst⟩ front stretch rest he
      cases front with
      | nil =>
        obtain ⟨rfl, rfl⟩ := List.cons.inj he
        exact hfirst
      | cons _ front => exact hrest front stretch rest (List.cons.inj he).2
    · intro h
      exact ⟨first.free, fun front stretch rest he => h (first :: front) stretch rest (he ▸ rfl),
        h [] first stretches rfl⟩

/-- Every complete sequence of a message is deleted, and the texts in front of it and behind it are treated
each on its own. Nothing but complete sequences is deleted, and the rest is kept in order, in stretches
that hold none. The result holds one exactly when it was begun at the end of a kept stretch and goes on
behind the deleted sequence, and a second pass changes nothing exactly when the result holds none. -/
theorem stripAnsi_deletes_sequences (message : List Char) :
    (∀ before s behind, IsSequence s → message = before ++ (s ++ behind) →
      stripAnsi message = stripAnsi before ++ stripAnsi behind) ∧
    (∃ (stretches : List Stretch) (last : List Char), SequenceFree last ∧
      message = stretches.flatMap Stretch.whole ++ last ∧
      stripAnsi message = stretches.flatMap Stretch.kept ++ last ∧
      (SequenceFree (stripAnsi message) ↔ ∀ front stretch rest, stretches = front ++ stretch :: rest →
        ¬Joins stretch.kept (rest.flatMap Stretch.kept ++ last))) ∧
    (stripAnsi (stripAnsi message) = stripAnsi message ↔ SequenceFree (stripAnsi message)) := by
  refine ⟨?_, ?_, stripAnsi_eq_self_iff⟩
  · rintro before s behind hs rfl
    exact stripAnsi_append_sequence_append hs before behind
  · obtain ⟨stretches, last, hlast, hwhole, hkept⟩ := exists_stretches message
    exact ⟨stretches, last, hlast, hwhole, hkept, hkept ▸ sequenceFree_kept_iff hlast⟩

/-- A title inside another one that goes on behind it. -/
theorem stripAnsi_deletes_sequences_title :
    IsSequence "\x1b]t\x1b\\".toList ∧
    stripAnsi "\x1b]a\x1b]t\x1b\\b\x07".toList =
      stripAnsi "\x1b]a".toList ++ stripAnsi "b\x07".toList ∧
    stripAnsi "\x1b]a".toList ++ stripAnsi "b\x07".toList = "\x1b]ab\x07".toList := by
  have hs : IsSequence "\x1b]t\x1b\\".toList :=
    @IsSequence.command ['t'] [introducer, '\\'] (by simp [introducer]) (.inr rfl)
  have hmessage : "\x1b]a\x1b]t\x1b\\b\x07".toList =
      "\x1b]a".toList ++ ("\x1b]t\x1b\\".toList ++ "b\x07".toList) := by
    decide
  exact ⟨hs, (stripAnsi_deletes_sequences _).1 _ _ _ hs hmessage, by decide⟩

/-- What is kept around a sequence that stands inside a begun one is a complete sequence. -/
theorem stripAnsi_joins_parts :
    ¬SequenceFree (stripAnsi "\x1b\x1b[m[m".toList) ∧
    stripAnsi (stripAnsi "\x1b\x1b[m[m".toList) ≠ stripAnsi "\x1b\x1b[m[m".toList := by
  have hs : IsSequence "\x1b[m".toList := @IsSequence.bracket [] [] 'm' (by simp) (by simp) (by decide)
  exact ⟨fun h => h _ hs ⟨[], [], by decide⟩, by decide⟩

end LiveMarkup
