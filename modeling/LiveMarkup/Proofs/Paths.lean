import Mathlib
import LiveMarkup.Files.Path

/-! # The pieces of paths

A path is cut at its slashes and put together again from the pieces. Giving a file name an extension
that has a dot in it never gives the same name.
-/
namespace LiveMarkup.Path

theorem exists_pieces (s : List Char) : ∃ head tail, pieces s = head :: tail := by
  cases s with
  | nil => exact ⟨_, _, rfl⟩
  | cons c s =>
    by_cases hc : c = '/'
    · exact ⟨[], pieces s, by rw [pieces, if_pos hc]⟩
    · rw [pieces, if_neg hc]
      cases pieces s with
      | nil => exact ⟨_, _, rfl⟩
      | cons p more => exact ⟨_, _, rfl⟩

theorem pieces_of_notMem {s : List Char} (h : '/' ∉ s) : pieces s = [s] := by
  induction s with
  | nil => rfl
  | cons c s ih =>
    have hc : c ≠ '/' := (List.ne_of_not_mem_cons h).symm
    have hs : '/' ∉ s := List.not_mem_of_not_mem_cons h
    rw [pieces, if_neg hc, ih hs]

/-- A path is cut at each of its slashes. -/
theorem pieces_append (a b : List Char) : pieces (a ++ '/' :: b) = pieces a ++ pieces b := by
  induction a with
  | nil => simp [pieces]
  | cons c a ih =>
    obtain ⟨head, tail, ha⟩ := exists_pieces a
    rw [List.cons_append, pieces, pieces, ih, ha]
    split_ifs <;> rfl

theorem pieces_append_slash {s : List Char} (h : '/' ∉ s) (t : List Char) :
    pieces (s ++ '/' :: t) = s :: pieces t := by
  rw [pieces_append, pieces_of_notMem h, List.singleton_append]

theorem slash_notMem_pieces {s p : List Char} (h : p ∈ pieces s) : '/' ∉ p := by
  induction s generalizing p with
  | nil =>
    rw [List.mem_singleton.1 h]
    exact List.not_mem_nil
  | cons c s ih =>
    rw [pieces] at h
    by_cases hc : c = '/'
    · rw [if_pos hc] at h
      rcases List.mem_cons.1 h with rfl | h
      · exact List.not_mem_nil
      · exact ih h
    · obtain ⟨head, tail, hs⟩ := exists_pieces s
      rw [if_neg hc, hs] at h
      rcases List.mem_cons.1 h with rfl | h
      · intro m
        rcases List.mem_cons.1 m with e | m
        · exact hc e.symm
        · exact ih (hs ▸ List.mem_cons_self) m
      · exact ih (hs ▸ List.mem_cons_of_mem head h)

theorem pieces_ofPieces {ps : List (List Char)} (h : ∀ p ∈ ps, '/' ∉ p) (hne : ps ≠ []) :
    pieces (ofPieces ps).toList = ps := by
  rw [ofPieces, String.toList_ofList]
  induction ps with
  | nil => exact absurd rfl hne
  | cons p ps ih =>
    have hp : '/' ∉ p := h p List.mem_cons_self
    have hps : ∀ q ∈ ps, '/' ∉ q := fun q hq => h q (List.mem_cons_of_mem p hq)
    cases ps with
    | nil => simpa using pieces_of_notMem hp
    | cons q ps =>
      have hrest := ih hps (List.cons_ne_nil q ps)
      have hjoin : ['/'].intercalate (p :: q :: ps) = p ++ '/' :: ['/'].intercalate (q :: ps) := by
        simp
      rw [hjoin, pieces_append_slash hp, hrest]

theorem mem_iff_mem_pieces {c : Char} (hc : c ≠ '/') (s : List Char) :
    c ∈ s ↔ ∃ p ∈ pieces s, c ∈ p := by
  induction s with
  | nil => simp [pieces]
  | cons d s ih =>
    obtain ⟨head, tail, hs⟩ := exists_pieces s
    rw [hs] at ih
    rw [pieces, hs, List.mem_cons, ih]
    by_cases hd : d = '/'
    · have hne : c ≠ d := hd ▸ hc
      simp [hd, hc]
    · simp [hd, or_assoc]

theorem isAbsolute_iff {path : String} {front : List (List Char)} {name : List Char}
    (hp : pieces path.toList = front ++ [name]) (hn : name ≠ []) :
    isAbsolute path = true ↔ front.head? = some [] := by
  rw [isAbsolute, decide_eq_true_iff]
  generalize path.toList = s at hp
  cases s with
  | nil =>
    have hlast := congrArg List.getLast? hp
    simp [pieces, hn.symm] at hlast
  | cons c s =>
    obtain ⟨head, tail, hs⟩ := exists_pieces s
    rw [pieces, hs] at hp
    cases front with
    | nil =>
      by_cases hc : c = '/'
      · simp [hc] at hp
      · simp [hc]
    | cons first front =>
      by_cases hc : c = '/'
      · rw [if_pos hc] at hp
        have hfirst := (List.cons.inj hp).1
        simp [hc, ← hfirst]
      · rw [if_neg hc] at hp
        have hfirst := (List.cons.inj hp).1
        simp [hc, ← hfirst]

/-- A name under a directory is the last of the pieces, and those before it come from the directory. -/
theorem exists_pieces_join (directory : String) : ∃ front, ∀ name : String, '/' ∉ name.toList →
    pieces (join directory name).toList = front ++ [name.toList] := by
  have hrelative : ∀ name : String, '/' ∉ name.toList → isAbsolute name = false := by
    intro name hname
    refine decide_eq_false fun hhead => hname ?_
    exact List.mem_of_head? hhead
  by_cases hempty : directory = ""
  · refine ⟨[], fun name hname => ?_⟩
    simp [join, hrelative name hname, hempty, pieces_of_notMem hname]
  by_cases hslash : directory.toList.getLast? = some '/'
  · obtain ⟨a, ha⟩ := List.getLast?_eq_some_iff.1 hslash
    refine ⟨pieces a, fun name hname => ?_⟩
    have hjoin : (join directory name).toList = a ++ '/' :: name.toList := by
      simp [join, hrelative name hname, ha]
    rw [hjoin, pieces_append, pieces_of_notMem hname]
  · refine ⟨pieces directory.toList, fun name hname => ?_⟩
    have hjoin : (join directory name).toList = directory.toList ++ '/' :: name.toList := by
      simp [join, hrelative name hname, hempty, hslash]
    rw [hjoin, pieces_append, pieces_of_notMem hname]

theorem stem_spec (name : List Char) :
    stem name = name ∨ ∃ suffix, '.' ∉ suffix ∧ name = stem name ++ '.' :: suffix := by
  unfold stem
  by_cases h : '.' ∈ (name.drop 1).reverse
  · obtain ⟨behind, before, hr, hdot⟩ := List.eq_append_cons_of_mem h
    have hdrop : (name.drop 1).reverse.dropWhile (· ≠ '.') = '.' :: before := by
      rw [hr, List.dropWhile_append_of_pos]
      · simp
      · intro c hc
        have hne : c ≠ '.' := fun e => hdot (e ▸ hc)
        simpa using hne
    have hname : name.drop 1 = before.reverse ++ '.' :: behind.reverse := by
      have hrev := congrArg List.reverse hr
      simpa using hrev
    refine Or.inr ⟨behind.reverse, by simpa using hdot, ?_⟩
    rw [hdrop]
    calc name = name.take 1 ++ name.drop 1 := (List.take_append_drop 1 name).symm
      _ = name.take 1 ++ (before.reverse ++ '.' :: behind.reverse) := by rw [hname]
      _ = name.take 1 ++ before.reverse ++ '.' :: behind.reverse := (List.append_assoc ..).symm
  · have hdrop : (name.drop 1).reverse.dropWhile (· ≠ '.') = [] := by
      rw [List.dropWhile_eq_nil_iff]
      intro c hc
      have hne : c ≠ '.' := fun e => h (e ▸ hc)
      simpa using hne
    rw [hdrop]
    exact Or.inl rfl

theorem stem_append_ne {extension : List Char} (h : '.' ∈ extension) (name : List Char) :
    stem name ++ '.' :: extension ≠ name := by
  intro he
  rcases stem_spec name with hwhole | ⟨suffix, hdot, hname⟩
  · have hlen := congrArg List.length he
    simp [hwhole] at hlen
  · have hsame := List.append_cancel_left (he.trans hname)
    obtain ⟨-, rfl⟩ := List.cons.inj hsame
    exact hdot h

theorem slash_notMem_stem {name : List Char} (h : '/' ∉ name) : '/' ∉ stem name := by
  rcases stem_spec name with hwhole | ⟨suffix, -, hname⟩
  · rwa [hwhole]
  · intro m
    rw [hname] at h
    exact h (List.mem_append_left _ m)

/-- A piece that is a name and not a dot or two. -/
def IsName (piece : List Char) : Prop := piece ≠ [] ∧ piece ≠ ['.'] ∧ piece ≠ ['.', '.']

instance (piece : List Char) : Decidable (IsName piece) := inferInstanceAs (Decidable (_ ∧ _))

theorem IsName.stepOf {name : List Char} (h : IsName name) (first : Bool) :
    stepOf first name = some (.name (String.ofList name)) := by
  rw [Path.stepOf, if_neg h.1, if_neg h.2.1, if_neg h.2.2]

theorem isName_of_stepOf {first : Bool} {piece : List Char} {text : String}
    (h : stepOf first piece = some (.name text)) : IsName piece ∧ text = String.ofList piece := by
  unfold stepOf at h
  split_ifs at h with hempty hdot hfirst hdots
  · exact nomatch h
  · exact nomatch h
  · exact ⟨⟨hempty, hdot, hdots⟩, (PathStep.name.inj (Option.some.inj h)).symm⟩

/-- The last piece of a path gives the last of its steps. -/
theorem getLast?_steps {path : String} {front : List (List Char)} {last : List Char} {step : PathStep}
    (hp : pieces path.toList = front ++ [last]) (hs : ∀ first, stepOf first last = some step) :
    (steps path).getLast? = some step := by
  have hne : last ≠ [] := by
    rintro rfl
    exact nomatch hs true
  unfold steps
  rw [hp]
  cases front with
  | nil => simp [hne, hs]
  | cons head tail =>
    simp only [List.cons_append, List.filterMap_append, List.filterMap_cons, List.filterMap_nil, hs]
    split_ifs with hempty htail
    · simp at htail
    · rw [← List.cons_append, List.getLast?_append]
      rfl
    · split
      · rw [← List.cons_append, List.getLast?_append]
        rfl
      · rw [List.getLast?_append]
        rfl

theorem exists_piece_of_mem_steps {path text : String} (h : .name text ∈ steps path) :
    ∃ piece ∈ pieces path.toList, IsName piece ∧ text = String.ofList piece := by
  obtain ⟨head, tail, hp⟩ := exists_pieces path.toList
  have hlater : .name text ∈ tail.filterMap (stepOf false) →
      ∃ piece ∈ head :: tail, IsName piece ∧ text = String.ofList piece := by
    intro hmem
    obtain ⟨piece, hpiece, hstep⟩ := List.mem_filterMap.1 hmem
    exact ⟨piece, List.mem_cons_of_mem head hpiece, isName_of_stepOf hstep⟩
  unfold steps at h
  rw [hp] at h ⊢
  simp only at h
  split_ifs at h
  · exact absurd h List.not_mem_nil
  · rcases List.mem_cons.1 h with h | h
    · exact nomatch h
    · exact hlater h
  · split at h
    · rename_i step hstep
      rcases List.mem_cons.1 h with h | h
      · exact ⟨head, List.mem_cons_self, isName_of_stepOf (h ▸ hstep)⟩
      · exact hlater h
    · exact hlater h

theorem mem_pieces_of_mem_trimmedPieces {path : String} {p : List Char} (h : p ∈ trimmedPieces path) :
    p ∈ pieces path.toList := by
  unfold trimmedPieces at h
  simp only at h
  split_ifs at h
  · exact List.mem_of_mem_take h
  · exact List.mem_reverse.1 ((List.dropWhile_sublist _).subset (List.mem_reverse.1 h))

theorem fileName?_eq_some {path name : String} :
    fileName? path = some name ↔ (steps path).getLast? = some (.name name) := by
  unfold fileName?
  constructor
  · intro h
    split at h
    · rename_i hlast
      rw [hlast, Option.some.inj h]
    · exact nomatch h
  · intro h
    rw [h]

theorem isName_of_fileName? {path name : String} (h : fileName? path = some name) :
    IsName name.toList ∧ '/' ∉ name.toList := by
  obtain ⟨piece, hpiece, hname, rfl⟩ :=
    exists_piece_of_mem_steps (List.mem_of_getLast? (fileName?_eq_some.1 h))
  rw [String.toList_ofList]
  exact ⟨hname, slash_notMem_pieces hpiece⟩

/-- Another extension changes the file name of a path only, or it leaves the directory above. -/
theorem pieces_withExtension {path name extension : String} (h : fileName? path = some name)
    (he : '/' ∉ extension.toList) :
    ∃ last, pieces (withExtension path extension).toList = (trimmedPieces path).dropLast ++ [last] ∧
      (last = stem name.toList ++ '.' :: extension.toList ∨ last = ['.', '.']) := by
  have hfront : ∀ p ∈ (trimmedPieces path).dropLast, '/' ∉ p := fun p hp =>
    slash_notMem_pieces (mem_pieces_of_mem_trimmedPieces ((List.dropLast_sublist _).subset hp))
  have hjoined : ∀ last, '/' ∉ last → pieces (ofPieces ((trimmedPieces path).dropLast ++ [last])).toList =
      (trimmedPieces path).dropLast ++ [last] := by
    intro last hlast
    refine pieces_ofPieces (List.forall_mem_append.2 ⟨hfront, ?_⟩) (by simp)
    simpa using hlast
  unfold withExtension
  rw [h]
  simp only
  split_ifs
  · exact ⟨_, hjoined _ (by decide), Or.inr rfl⟩
  · refine ⟨_, hjoined _ ?_, Or.inl rfl⟩
    simp [slash_notMem_stem (isName_of_fileName? h).2, he]

theorem stem_ne_nil {name : List Char} (h : name ≠ []) : stem name ≠ [] := by
  unfold stem
  split
  · exact h
  · simp [h]

theorem isName_stem_append {extension name : List Char} (hn : name ≠ []) (he : extension ≠ []) :
    IsName (stem name ++ '.' :: extension) := by
  have hlength : 3 ≤ (stem name ++ '.' :: extension).length := by
    have hstem := List.length_pos_of_ne_nil (stem_ne_nil hn)
    have hextension := List.length_pos_of_ne_nil he
    rw [List.length_append, List.length_cons]
    omega
  refine ⟨?_, ?_, ?_⟩ <;> (intro h; rw [h] at hlength; exact absurd hlength (by decide))

/-- A path with another extension that has a dot in it does not end in the same step. -/
theorem getLast?_steps_withExtension_ne {path name extension : String}
    (h : fileName? path = some name) (hslash : '/' ∉ extension.toList)
    (hdot : '.' ∈ extension.toList) :
    (steps (withExtension path extension)).getLast? ≠ (steps path).getLast? := by
  obtain ⟨hname, -⟩ := isName_of_fileName? h
  obtain ⟨last, hpieces, rfl | rfl⟩ := pieces_withExtension h hslash
  · rw [fileName?_eq_some.1 h,
      getLast?_steps hpieces (isName_stem_append hname.1 (List.ne_nil_of_mem hdot)).stepOf]
    intro he
    have hsame := PathStep.name.inj (Option.some.inj he)
    exact stem_append_ne hdot name.toList (String.toList_ofList.symm.trans (congrArg String.toList hsame))
  · rw [fileName?_eq_some.1 h, getLast?_steps hpieces (fun first => rfl)]
    exact nofun

example : withExtension "a/..json" "json.tmp" = "a/.." := by decide +kernel

theorem fileName?_eq {path : String} {front : List (List Char)} {name : List Char}
    (hp : pieces path.toList = front ++ [name]) (hn : IsName name) :
    fileName? path = some (String.ofList name) :=
  fileName?_eq_some.2 (getLast?_steps hp hn.stepOf)

/-- A name that another extension does not turn into dots gets it in its place. -/
theorem pieces_withExtension_of_stem {path extension : String} {front : List (List Char)}
    {name : List Char} (hp : pieces path.toList = front ++ [name]) (hn : IsName name)
    (hstem : stem name ≠ ['.']) (he : '/' ∉ extension.toList) :
    pieces (withExtension path extension).toList =
      front ++ [stem name ++ '.' :: extension.toList] := by
  have htrimmed : trimmedPieces path = front ++ [name] := by
    unfold trimmedPieces
    rw [hp]
    simp [hn.1, hn.2.1]
  have hslash : ∀ p ∈ front ++ [name], '/' ∉ p := fun p h => slash_notMem_pieces (hp ▸ h)
  have hpieces : ∀ p ∈ front ++ [stem name ++ '.' :: extension.toList], '/' ∉ p := by
    refine List.forall_mem_append.2 ⟨fun p h => hslash p (List.mem_append_left _ h), ?_⟩
    have hname := slash_notMem_stem (hslash name (by simp))
    simp [hname, he]
  rw [withExtension, fileName?_eq hp hn]
  simp only [String.toList_ofList, hstem, false_and, if_false, htrimmed, List.dropLast_concat]
  exact pieces_ofPieces hpieces (by simp)

end LiveMarkup.Path
