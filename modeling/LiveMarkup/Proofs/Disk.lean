import LiveMarkup.Proofs.Paths
import LiveMarkup.Proofs.Results
import LiveMarkup.Proofs.Utf8RoundTrip
import LiveMarkup.Store

/-! # Files behind paths

A path that leads somewhere leads there as long as the directories on its way stay. So a file that was
written or moved is read back under its path, and a write that fails on its way leaves the file it was
to replace as it is.
-/
namespace LiveMarkup.FileTree

theorem node?_put_self (t : FileTree) {loc : Location} (h : loc ≠ []) (node : FileNode) :
    (t.put loc node).node? loc = some node := by
  simp [node?, put, h]

theorem find?_filter_ne (nodes : List (Location × FileNode)) {loc other : Location}
    (h : other ≠ loc) :
    (nodes.filter fun n => n.1 ≠ loc).find? (fun n => n.1 = other) =
      nodes.find? fun n => n.1 = other := by
  rw [List.find?_filter]
  congr 1
  funext n
  by_cases hn : n.1 = other <;> simp [hn, h]

theorem node?_put_of_ne (t : FileTree) {loc other : Location} (h : other ≠ loc) (node : FileNode) :
    (t.put loc node).node? other = t.node? other := by
  rw [node?, node?, put, List.find?_cons_of_neg (by simpa using h.symm), find?_filter_ne _ h]

theorem node?_erase_self (t : FileTree) {loc : Location} (h : loc ≠ []) :
    (t.erase loc).node? loc = none := by
  simp [node?, erase, h]

theorem node?_erase_of_ne (t : FileTree) {loc other : Location} (h : other ≠ loc) :
    (t.erase loc).node? other = t.node? other := by
  rw [node?, node?, erase, find?_filter_ne _ h]

/-- Every directory of one tree stands in another, and relative paths start at the same place. -/
structure KeepsDirectories (t t' : FileTree) : Prop where
  home : t'.home = t.home
  directory : ∀ loc, t.node? loc = some .directory → t'.node? loc = some .directory

theorem KeepsDirectories.trans {t t' t'' : FileTree} (h : t.KeepsDirectories t')
    (h' : t'.KeepsDirectories t'') : t.KeepsDirectories t'' :=
  ⟨h'.home.trans h.home, fun loc hloc => h'.directory loc (h.directory loc hloc)⟩

theorem keepsDirectories_put {t : FileTree} {loc : Location}
    (h : t.node? loc ≠ some .directory) (node : FileNode) : t.KeepsDirectories (t.put loc node) := by
  refine ⟨rfl, fun other ho => ?_⟩
  have hne : other ≠ loc := fun e => h (e ▸ ho)
  rwa [node?_put_of_ne t hne]

theorem keepsDirectories_erase {t : FileTree} {loc : Location}
    (h : t.node? loc ≠ some .directory) : t.KeepsDirectories (t.erase loc) := by
  refine ⟨rfl, fun other ho => ?_⟩
  have hne : other ≠ loc := fun e => h (e ▸ ho)
  rwa [node?_erase_of_ne t hne]

section
variable {t t' : FileTree} (hk : t.KeepsDirectories t')
include hk

theorem KeepsDirectories.walk {ps : List (List Char)} {loc found : Location}
    (h : t.walk loc ps = .ok found) : t'.walk loc ps = .ok found := by
  induction ps generalizing loc with
  | nil => exact h
  | cons piece ps ih =>
    rw [FileTree.walk] at h ⊢
    split_ifs at h ⊢
    · exact ih h
    · exact ih h
    · dsimp only at h ⊢
      split at h
      · rename_i hnode
        rw [hk.directory _ hnode]
        exact ih h
      · exact nomatch h
      · exact nomatch h

theorem KeepsDirectories.locate {path : String} {found : Location × Bool}
    (h : t.locate path = .ok found) : t'.locate path = .ok found := by
  unfold FileTree.locate at h ⊢
  simp only [hk.home] at h ⊢
  generalize (if Path.isAbsolute path = true then [] else t.home) = start at h ⊢
  split_ifs at h ⊢ with hempty hnul hlong
  split at h
  · exact h
  · split_ifs at h ⊢
    · obtain ⟨loc, hwalk, h⟩ := bind_eq_ok.1 h
      exact bind_eq_ok.2 ⟨loc, hk.walk hwalk, h⟩
    · obtain ⟨loc, hwalk, h⟩ := bind_eq_ok.1 h
      exact bind_eq_ok.2 ⟨loc, hk.walk hwalk, h⟩

end

theorem readBytes_eq_ok {t : FileTree} {path : String} {bytes : List UInt8} :
    t.readBytes path = .ok bytes ↔
      ∃ loc, t.locate path = .ok (loc, false) ∧ t.node? loc = some (.file bytes) := by
  unfold readBytes lookup
  constructor
  · intro h
    obtain ⟨node, hlookup, h⟩ := bind_eq_ok.1 h
    obtain ⟨⟨loc, directoryOnly⟩, hlocate, hlookup⟩ := bind_eq_ok.1 hlookup
    dsimp only at hlookup
    cases hnode : t.node? loc with
    | none =>
      rw [hnode] at hlookup
      exact nomatch hlookup
    | some found =>
      rw [hnode] at hlookup
      cases found with
      | directory =>
        obtain rfl := Except.ok.inj hlookup
        exact nomatch h
      | file held =>
        cases directoryOnly with
        | true => exact nomatch hlookup
        | false =>
          obtain rfl := Except.ok.inj hlookup
          obtain rfl := Except.ok.inj h
          exact ⟨loc, hlocate, hnode⟩
  · rintro ⟨loc, hlocate, hnode⟩
    simp only [hlocate, hnode, bind, Except.bind, Bool.false_eq_true, if_false]

/-- A file is read back in every tree that has it and the directories on its way. -/
theorem readBytes_of_keepsDirectories {t t' : FileTree} (hk : t.KeepsDirectories t') {path : String}
    {loc : Location} {bytes : List UInt8} (hlocate : t.locate path = .ok (loc, false))
    (hnode : t'.node? loc = some (.file bytes)) : t'.readBytes path = .ok bytes :=
  readBytes_eq_ok.2 ⟨loc, hk.locate hlocate, hnode⟩

theorem writeBytes_spec {t t' : FileTree} {path : String} {bytes : List UInt8}
    (h : t.writeBytes path bytes = .ok t') :
    ∃ loc, t.locate path = .ok (loc, false) ∧ t.node? loc ≠ some .directory ∧
      t' = t.put loc (.file bytes) := by
  obtain ⟨⟨loc, directoryOnly⟩, hlocate, h⟩ := bind_eq_ok.1 h
  dsimp only at h
  split at h
  · exact nomatch h
  · rename_i held hnode
    cases directoryOnly with
    | true => exact nomatch h
    | false => exact ⟨loc, hlocate, by rw [hnode]; exact nofun, (Except.ok.inj h).symm⟩
  · rename_i hnode
    cases directoryOnly with
    | true => exact nomatch h
    | false => exact ⟨loc, hlocate, by rw [hnode]; exact nofun, (Except.ok.inj h).symm⟩

theorem ne_nil_of_node? {t : FileTree} {loc : Location} (h : t.node? loc ≠ some .directory) :
    loc ≠ [] := by
  rintro rfl
  exact h (if_pos rfl)

theorem readBytes_writeBytes {t t' : FileTree} {path : String} {bytes : List UInt8}
    (h : t.writeBytes path bytes = .ok t') : t'.readBytes path = .ok bytes := by
  obtain ⟨loc, hlocate, hnode, rfl⟩ := writeBytes_spec h
  exact readBytes_of_keepsDirectories (keepsDirectories_put hnode _) hlocate
    (node?_put_self t (ne_nil_of_node? hnode) _)

theorem rename_spec {t t' : FileTree} {source target : String} (h : t.rename source target = .ok t') :
    ∃ old new bytes, t.locate source = .ok (old, false) ∧ t.node? old = some (.file bytes) ∧
      t.locate target = .ok (new, false) ∧ t.node? new ≠ some .directory ∧
      t' = (t.erase old).put new (.file bytes) := by
  obtain ⟨bytes, hread, h⟩ := bind_eq_ok.1 h
  obtain ⟨⟨old, _⟩, hold, h⟩ := bind_eq_ok.1 h
  obtain ⟨⟨new, directoryOnly⟩, hnew, h⟩ := bind_eq_ok.1 h
  obtain ⟨loc, hlocate, hfile⟩ := readBytes_eq_ok.1 hread
  obtain ⟨rfl, -⟩ := Prod.mk.inj (Except.ok.inj (hold.symm.trans hlocate))
  dsimp only at h
  split at h
  · exact nomatch h
  · rename_i hnode
    cases directoryOnly with
    | true => exact nomatch h
    | false => exact ⟨old, new, bytes, hlocate, hfile, hnew, hnode, (Except.ok.inj h).symm⟩

/-- Moving a file leaves the directories, and it does not put one in place of the target. -/
theorem keepsDirectories_rename {t : FileTree} {old new : Location} {bytes : List UInt8}
    (hfile : t.node? old = some (.file bytes)) (hnode : t.node? new ≠ some .directory) :
    t.KeepsDirectories ((t.erase old).put new (.file bytes)) ∧
      ((t.erase old).put new (.file bytes)).node? new = some (.file bytes) := by
  have hold : t.node? old ≠ some .directory := by
    rw [hfile]
    exact nofun
  have hfree : (t.erase old).node? new ≠ some .directory := by
    by_cases heq : new = old
    · rw [heq, node?_erase_self t (ne_nil_of_node? hold)]
      exact nofun
    · rwa [node?_erase_of_ne t heq]
  exact ⟨(keepsDirectories_erase hold).trans (keepsDirectories_put hfree _),
    node?_put_self _ (ne_nil_of_node? hfree) _⟩

theorem readBytes_rename {t t' : FileTree} {source target : String} {bytes : List UInt8}
    (hread : t.readBytes source = .ok bytes) (h : t.rename source target = .ok t') :
    t'.readBytes target = .ok bytes := by
  obtain ⟨old, new, found, hold, hfile, hnew, hnode, rfl⟩ := rename_spec h
  obtain rfl := Except.ok.inj (hread.symm.trans (readBytes_eq_ok.2 ⟨old, hold, hfile⟩))
  obtain ⟨hkeeps, hmoved⟩ := keepsDirectories_rename hfile hnode
  exact readBytes_of_keepsDirectories hkeeps hnew hmoved

/-- Everything in one tree stands in another, and relative paths start at the same place. -/
structure Extends (t t' : FileTree) : Prop where
  home : t'.home = t.home
  node : ∀ loc node, t.node? loc = some node → t'.node? loc = some node

theorem Extends.refl (t : FileTree) : t.Extends t := ⟨rfl, fun _ _ h => h⟩

theorem Extends.readBytes {t t' : FileTree} (h : t.Extends t') {path : String}
    {bytes : List UInt8} (hread : t.readBytes path = .ok bytes) : t'.readBytes path = .ok bytes := by
  obtain ⟨loc, hlocate, hnode⟩ := readBytes_eq_ok.1 hread
  exact readBytes_of_keepsDirectories ⟨h.home, fun loc => h.node loc .directory⟩ hlocate
    (h.node loc _ hnode)

/-- One tree has the files of another, and more directories at most. -/
structure AddsDirectories (t t' : FileTree) : Prop where
  home : t'.home = t.home
  node : ∀ loc, t'.node? loc = t.node? loc ∨ t.node? loc = none ∧ t'.node? loc = some .directory

theorem AddsDirectories.refl (t : FileTree) : t.AddsDirectories t := ⟨rfl, fun _ => Or.inl rfl⟩

theorem AddsDirectories.trans {t t' t'' : FileTree} (h : t.AddsDirectories t')
    (h' : t'.AddsDirectories t'') : t.AddsDirectories t'' := by
  refine ⟨h'.home.trans h.home, fun loc => ?_⟩
  rcases h.node loc with hloc | ⟨hfree, hmade⟩
  · exact hloc ▸ h'.node loc
  · rcases h'.node loc with hloc | ⟨hfree', -⟩
    · exact Or.inr ⟨hfree, hloc.trans hmade⟩
    · rw [hmade] at hfree'
      exact nomatch hfree'

theorem AddsDirectories.extends {t t' : FileTree} (h : t.AddsDirectories t') : t.Extends t' := by
  refine ⟨h.home, fun loc node hnode => ?_⟩
  rcases h.node loc with hloc | ⟨hfree, -⟩
  · exact hloc.trans hnode
  · rw [hnode] at hfree
    exact nomatch hfree

theorem makeDirectory_adds {t t' : FileTree} {path : String} (h : t.makeDirectory path = .ok t') :
    t.AddsDirectories t' := by
  obtain ⟨⟨loc, _⟩, -, h⟩ := bind_eq_ok.1 h
  dsimp only at h
  split at h
  · exact nomatch h
  · rename_i hfree
    obtain rfl := Except.ok.inj h
    refine ⟨rfl, fun other => ?_⟩
    by_cases hne : other = loc
    · subst hne
      refine Or.inr ⟨hfree, node?_put_self t ?_ _⟩
      rintro rfl
      exact nomatch hfree
    · exact Or.inl (node?_put_of_ne t hne _)

/-- The trees on the way to a directory and those above it, the first one being as it was. -/
def directoryStatesWithin (t : FileTree) : Nat → String → List FileTree
  | 0, _ => [t]
  | fuel + 1, path =>
    if path = "" then [t]
    else match t.makeDirectory path with
      | .ok made => [t, made]
      | .error e =>
        if e = .notFound then
          match Path.parent? path with
          | none => [t]
          | some parent =>
            let made := do (← t.makeDirectoriesWithin fuel parent).makeDirectory path
            directoryStatesWithin t fuel parent ++ made.toOption.toList
        else [t]

def directoryStates (t : FileTree) (path : String) : List FileTree :=
  t.directoryStatesWithin (path.length + 1) path

theorem self_mem_directoryStates (t : FileTree) (path : String) : t ∈ t.directoryStates path := by
  unfold directoryStates
  generalize path.length + 1 = fuel
  induction fuel generalizing path with
  | zero => exact List.mem_singleton_self t
  | succ fuel ih =>
    rw [directoryStatesWithin]
    split_ifs
    · exact List.mem_singleton_self t
    · split
      · exact List.mem_cons_self
      · split_ifs
        · split
          · exact List.mem_singleton_self t
          · exact List.mem_append_left _ (ih _)
        · exact List.mem_singleton_self t

theorem mem_directoryStatesWithin {t t' : FileTree} {fuel : Nat} {path : String}
    (h : t.makeDirectoriesWithin fuel path = .ok t') : t' ∈ t.directoryStatesWithin fuel path := by
  induction fuel generalizing t' path with
  | zero => exact nomatch h
  | succ fuel ih =>
    rw [makeDirectoriesWithin] at h
    rw [directoryStatesWithin]
    by_cases hempty : path = ""
    · rw [if_pos hempty] at h ⊢
      exact List.mem_singleton.2 (Except.ok.inj h).symm
    rw [if_neg hempty] at h ⊢
    cases hmade : t.makeDirectory path with
    | ok made =>
      rw [hmade] at h
      obtain rfl := Except.ok.inj h
      exact List.mem_cons_of_mem t List.mem_cons_self
    | error e =>
      rw [hmade] at h
      dsimp only at h ⊢
      by_cases hmissing : e = .notFound
      · rw [if_pos hmissing] at h ⊢
        cases hparent : Path.parent? path with
        | none =>
          rw [hparent] at h
          exact nomatch h
        | some parent =>
          rw [hparent] at h
          obtain ⟨above, habove, h⟩ := bind_eq_ok.1 h
          dsimp only
          rw [List.mem_append, mem_toList_toOption, bind_of_ok habove]
          cases hagain : above.makeDirectory path with
          | ok made =>
            rw [hagain] at h
            exact Or.inr h
          | error e =>
            rw [hagain] at h
            dsimp only at h
            split_ifs at h
            obtain rfl := Except.ok.inj h
            exact Or.inl (ih habove)
      · rw [if_neg hmissing] at h ⊢
        split_ifs at h
        exact List.mem_singleton.2 (Except.ok.inj h).symm

theorem adds_of_mem_directoryStatesWithin {t d : FileTree} {fuel : Nat} {path : String}
    (h : d ∈ t.directoryStatesWithin fuel path) : t.AddsDirectories d := by
  have hself : ∀ {d}, d ∈ [t] → t.AddsDirectories d := fun h => List.mem_singleton.1 h ▸ .refl t
  induction fuel generalizing d path with
  | zero => exact hself h
  | succ fuel ih =>
    rw [directoryStatesWithin] at h
    by_cases hempty : path = ""
    · rw [if_pos hempty] at h
      exact hself h
    rw [if_neg hempty] at h
    split at h
    · rename_i made hmade
      rcases List.mem_cons.1 h with rfl | h
      · exact .refl d
      · exact List.mem_singleton.1 h ▸ makeDirectory_adds hmade
    · split_ifs at h
      · split at h
        · exact hself h
        · rcases List.mem_append.1 h with h | h
          · exact ih h
          · obtain ⟨above, habove, hmade⟩ := bind_eq_ok.1 (mem_toList_toOption.1 h)
            exact (ih (mem_directoryStatesWithin habove)).trans (makeDirectory_adds hmade)
      · exact hself h

theorem makeDirectories_adds {t t' : FileTree} {path : String}
    (h : t.makeDirectories path = .ok t') : t.AddsDirectories t' :=
  adds_of_mem_directoryStatesWithin (mem_directoryStatesWithin h)

/-- A path that can name a file ends in a name, which is the last part of its location. -/
theorem locate_file {t : FileTree} {path : String} {loc : Location}
    (h : t.locate path = .ok (loc, false)) :
    ∃ front name above, Path.pieces path.toList = front ++ [name] ∧ Path.IsName name ∧
      loc = above ++ [String.ofList name] := by
  unfold locate at h
  generalize Path.pieces path.toList = ps at h ⊢
  generalize hstart : (if Path.isAbsolute path = true then [] else t.home) = start at h
  simp only at h
  split_ifs at h
  have hsuffix : ps.reverse.dropWhile (· = []) <:+ ps.reverse := List.dropWhile_suffix _
  generalize hkept : ps.reverse.dropWhile (· = []) = kept at h hsuffix
  split at h
  · exact nomatch h
  · rename_i name hlast
    split_ifs at h with hdots
    · obtain ⟨_, -, h⟩ := bind_eq_ok.1 h
      exact nomatch h
    · obtain ⟨above, -, h⟩ := bind_eq_ok.1 h
      obtain ⟨rfl, hlen⟩ := Prod.mk.inj (Except.ok.inj h)
      -- no slash at the end, so nothing was dropped
      have hall : kept = ps.reverse := by
        refine hsuffix.eq_of_length (Nat.le_antisymm hsuffix.length_le ?_)
        simpa using hlen
      obtain ⟨front, hps⟩ : ∃ front, ps = front ++ [name] := by
        rw [hall, List.reverse_reverse] at hlast
        exact List.getLast?_eq_some_iff.1 hlast
      refine ⟨front, name, above, hps, ⟨?_, ?_, ?_⟩, rfl⟩
      · rintro rfl
        rw [hall, hps, List.reverse_append, List.reverse_singleton, List.singleton_append,
          List.dropWhile_cons_of_pos (by simp)] at hkept
        have hle := (List.dropWhile_suffix (l := front.reverse) (p := (· = []))).length_le
        rw [hkept, List.length_cons] at hle
        exact Nat.not_succ_le_self _ hle
      · exact fun e => hdots (Or.inl e)
      · exact fun e => hdots (Or.inr e)

/-- Under another extension with a dot in it a path leads to another location. -/
theorem locate_withExtension_ne {t t' : FileTree} {path extension : String} {loc loc' : Location}
    (hdot : '.' ∈ extension.toList) (hslash : '/' ∉ extension.toList)
    (h : t.locate path = .ok (loc, false))
    (h' : t'.locate (Path.withExtension path extension) = .ok (loc', false)) : loc' ≠ loc := by
  obtain ⟨front, name, above, hp, hn, rfl⟩ := locate_file h
  obtain ⟨front', name', above', hp', hn', rfl⟩ := locate_file h'
  obtain ⟨last, hlast, hcases⟩ := Path.pieces_withExtension (Path.fileName?_eq hp hn) hslash
  obtain ⟨-, hname⟩ := List.append_inj' (hlast.symm.trans hp') rfl
  obtain rfl := List.singleton_inj.1 hname
  intro he
  obtain ⟨-, hsame⟩ := List.append_inj' he rfl
  rcases hcases with rfl | rfl
  · rw [String.toList_ofList] at hsame
    exact Path.stem_append_ne hdot name (String.ofList_injective (List.singleton_inj.1 hsame))
  · exact hn'.2.2 rfl

theorem readText_of_readBytes {t t' : FileTree} {path text : String}
    (h : ∀ bytes, t.readBytes path = .ok bytes → t'.readBytes path = .ok bytes)
    (hread : t.readText path = .ok text) : t'.readText path = .ok text := by
  obtain ⟨bytes, hbytes, hread⟩ := bind_eq_ok.1 hread
  exact bind_eq_ok.2 ⟨bytes, h bytes hbytes, hread⟩

theorem readText_of_encoded {t : FileTree} {path text : String}
    (h : t.readBytes path = .ok (encodeUtf8 text.toList)) : t.readText path = .ok text := by
  rw [readText, bind_of_ok h, decodeUtf8_encodeUtf8]
  exact congrArg Except.ok String.ofList_toList

section
variable {t : FileTree} {temporary path text : String} {fault : WriteFault}

/-- A replacement fails at once, or it writes the temporary file; then it fails, or it has written all
of the text and moves the file into place. -/
theorem replaceFile_spec (t : FileTree) (temporary path text : String) (fault : WriteFault) :
    let done := t.replaceFile temporary path text fault
    (done.tree = t ∧ done.result ≠ .ok ()) ∨
      ∃ written made, t.writeBytes temporary written = .ok made ∧
        ((done.tree = made ∧ done.result ≠ .ok ()) ∨
          (written = encodeUtf8 text.toList ∧ made.rename temporary path = .ok done.tree ∧
            done.result = .ok ())) := by
  obtain ⟨directory, failure, move⟩ := fault
  cases failure with
  | some failure =>
    obtain ⟨e, count⟩ := failure
    dsimp only [replaceFile]
    cases hmade : t.writeBytes temporary ((encodeUtf8 text.toList).take count) with
    | error e => exact Or.inl ⟨rfl, nofun⟩
    | ok made => exact Or.inr ⟨_, made, hmade, Or.inl ⟨rfl, nofun⟩⟩
  | none =>
    dsimp only [replaceFile]
    cases hmade : t.writeBytes temporary (encodeUtf8 text.toList) with
    | error e => exact Or.inl ⟨rfl, nofun⟩
    | ok made =>
      refine Or.inr ⟨_, made, hmade, ?_⟩
      cases move with
      | some e => exact Or.inl ⟨rfl, nofun⟩
      | none =>
        dsimp only
        cases hmoved : made.rename temporary path with
        | error e => exact Or.inl ⟨rfl, nofun⟩
        | ok moved => exact Or.inr ⟨rfl, rfl, rfl⟩

theorem readText_replaceFile (h : (t.replaceFile temporary path text fault).result = .ok ()) :
    (t.replaceFile temporary path text fault).tree.readText path = .ok text := by
  rcases replaceFile_spec t temporary path text fault with
    ⟨-, hfail⟩ | ⟨written, made, hmade, ⟨-, hfail⟩ | ⟨rfl, hmoved, -⟩⟩
  · exact absurd h hfail
  · exact absurd h hfail
  · exact readText_of_encoded (readBytes_rename (readBytes_writeBytes hmade) hmoved)

/-- A file that could not be replaced holds what it held, unless it is the temporary file itself. -/
theorem readBytes_replaceFile_of_ne_ok
    (hother : ∀ loc loc', t.locate path = .ok (loc, false) →
      t.locate temporary = .ok (loc', false) → loc' ≠ loc)
    (h : (t.replaceFile temporary path text fault).result ≠ .ok ()) {bytes : List UInt8}
    (hread : t.readBytes path = .ok bytes) :
    (t.replaceFile temporary path text fault).tree.readBytes path = .ok bytes := by
  rcases replaceFile_spec t temporary path text fault with
    ⟨htree, -⟩ | ⟨written, made, hmade, ⟨htree, -⟩ | ⟨-, -, hok⟩⟩
  · rwa [htree]
  · obtain ⟨loc, hlocate, hnode⟩ := readBytes_eq_ok.1 hread
    obtain ⟨loc', hlocate', hfree, rfl⟩ := writeBytes_spec hmade
    have hne : loc' ≠ loc := hother loc loc' hlocate hlocate'
    rw [htree]
    refine readBytes_of_keepsDirectories (keepsDirectories_put hfree _) hlocate ?_
    rwa [node?_put_of_ne t hne.symm]
  · exact absurd hok h

end

end LiveMarkup.FileTree

namespace LiveMarkup.FileStore

theorem temporaryPath_ne (s : FileStore) (t : FileTree) (loc loc' : Location)
    (h : t.locate s.path = .ok (loc, false)) (h' : t.locate s.temporaryPath = .ok (loc', false)) :
    loc' ≠ loc :=
  FileTree.locate_withExtension_ne (by decide) (by decide) h h'

/-- A flush fails before it writes anything, or it replaces the file in a tree that has more
directories. -/
theorem flush_spec (s : FileStore) (t : FileTree) (fault : WriteFault) :
    ((s.flush t fault).tree = t ∧ (s.flush t fault).result ≠ .ok ()) ∨
      ∃ made, t.Extends made ∧
        s.flush t fault = made.replaceFile s.temporaryPath s.path s.entries.toText fault := by
  unfold flush
  dsimp only
  split
  · exact Or.inl ⟨rfl, nofun⟩
  · rename_i made hmade
    refine Or.inr ⟨made, ?_, rfl⟩
    split at hmade
    · exact Except.ok.inj hmade ▸ .refl t
    · exact Except.ok.inj hmade ▸ .refl t
    · split at hmade
      · exact nomatch hmade
      · exact (FileTree.makeDirectories_adds hmade).extends

theorem readText_flush {s : FileStore} {t : FileTree} {fault : WriteFault}
    (h : (s.flush t fault).result = .ok ()) :
    (s.flush t fault).tree.readText s.path = .ok s.entries.toText := by
  rcases s.flush_spec t fault with ⟨-, hfail⟩ | ⟨made, -, heq⟩
  · exact absurd h hfail
  · rw [heq] at h ⊢
    exact FileTree.readText_replaceFile h

theorem readText_flush_of_ne_ok {s : FileStore} {t : FileTree} {fault : WriteFault}
    (h : (s.flush t fault).result ≠ .ok ()) {text : String}
    (hread : t.readText s.path = .ok text) :
    (s.flush t fault).tree.readText s.path = .ok text := by
  refine FileTree.readText_of_readBytes (fun bytes hbytes => ?_) hread
  rcases s.flush_spec t fault with ⟨htree, -⟩ | ⟨made, hextends, heq⟩
  · rwa [htree]
  · rw [heq] at h ⊢
    exact FileTree.readBytes_replaceFile_of_ne_ok (s.temporaryPath_ne made) h
      (hextends.readBytes hbytes)

end LiveMarkup.FileStore
