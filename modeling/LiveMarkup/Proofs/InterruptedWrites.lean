import LiveMarkup.Proofs.Disk

/-! # Interrupted writes

A change of a store takes the disk through a row of states: directories are made, the temporary file
grows byte by byte, and at last it is moved into place. Whether a change is cut short or a step of it
fails, the disk is left in one of these states. The main statement says of each of them that the file of
the store holds what it held before or the whole of the new text, and that apart from the temporary file
no other one is touched.
-/
namespace LiveMarkup
namespace FileTree

/-- What the file at a location holds. -/
def bytesAt? (t : FileTree) (loc : Location) : Option (List UInt8) :=
  match t.node? loc with
  | some (.file bytes) => some bytes
  | _ => none

theorem bytesAt?_of_node? {t : FileTree} {loc : Location} {bytes : List UInt8}
    (h : t.node? loc = some (.file bytes)) : t.bytesAt? loc = some bytes := by
  rw [bytesAt?, h]

theorem bytesAt?_eq_some {t : FileTree} {loc : Location} {bytes : List UInt8} :
    t.bytesAt? loc = some bytes ↔ t.node? loc = some (.file bytes) := by
  refine ⟨fun h => ?_, bytesAt?_of_node?⟩
  unfold bytesAt? at h
  split at h
  · rename_i hnode
    rw [hnode, Option.some.inj h]
  · exact nomatch h

theorem bytesAt?_congr {t t' : FileTree} {loc : Location} (h : t'.node? loc = t.node? loc) :
    t'.bytesAt? loc = t.bytesAt? loc := by
  rw [bytesAt?, bytesAt?, h]

theorem AddsDirectories.bytesAt? {t t' : FileTree} (h : t.AddsDirectories t') (loc : Location) :
    t'.bytesAt? loc = t.bytesAt? loc := by
  rcases h.node loc with hsame | ⟨hfree, hmade⟩
  · exact bytesAt?_congr hsame
  · rw [FileTree.bytesAt?, FileTree.bytesAt?, hfree, hmade]

/-! ## The states of a replacement -/

/-- The trees that the replacement of a file goes through, the first one being as it was. -/
def replaceStates (t : FileTree) (temporary path text : String) : List FileTree :=
  let bytes := encodeUtf8 text.toList
  let written := bytes.inits.filterMap fun part => (t.writeBytes temporary part).toOption
  let moved := do (← t.writeBytes temporary bytes).rename temporary path
  t :: (written ++ moved.toOption.toList)

section
variable {t d : FileTree} {temporary path text : String}

theorem mem_replaceStates :
    d ∈ t.replaceStates temporary path text ↔
      d = t ∨
      (∃ part, part <+: encodeUtf8 text.toList ∧ t.writeBytes temporary part = .ok d) ∨
      ∃ made, t.writeBytes temporary (encodeUtf8 text.toList) = .ok made ∧
        made.rename temporary path = .ok d := by
  simp only [replaceStates, List.mem_cons, List.mem_append, List.mem_filterMap, List.mem_inits,
    mem_toList_toOption, bind_eq_ok, ← Option.mem_toList]

theorem self_mem_replaceStates : t ∈ t.replaceStates temporary path text :=
  mem_replaceStates.2 (Or.inl rfl)

/-- A replacement that fails ends in a state on its way. -/
theorem replaceFile_mem_replaceStates (fault : WriteFault) :
    (t.replaceFile temporary path text fault).tree ∈ t.replaceStates temporary path text := by
  obtain ⟨directory, failure, move⟩ := fault
  cases failure with
  | some failure =>
    obtain ⟨e, count⟩ := failure
    dsimp only [replaceFile]
    cases hmade : t.writeBytes temporary ((encodeUtf8 text.toList).take count) with
    | error e => exact self_mem_replaceStates
    | ok made => exact mem_replaceStates.2 (Or.inr (Or.inl ⟨_, List.take_prefix _ _, hmade⟩))
  | none =>
    dsimp only [replaceFile]
    cases hmade : t.writeBytes temporary (encodeUtf8 text.toList) with
    | error e => exact self_mem_replaceStates
    | ok made =>
      have hwhole : made ∈ t.replaceStates temporary path text :=
        mem_replaceStates.2 (Or.inr (Or.inl ⟨_, List.prefix_rfl, hmade⟩))
      cases move with
      | some e => exact hwhole
      | none =>
        dsimp only
        cases hmoved : made.rename temporary path with
        | error e => exact hwhole
        | ok moved => exact mem_replaceStates.2 (Or.inr (Or.inr ⟨made, hmade, hmoved⟩))

end

/-- A tree on the way from another one: at a path a file has been replaced by some bytes or not, and
beside it only the file at the temporary path has changed. -/
structure OnTheWay (t d : FileTree) (temporary path : String) (bytes : List UInt8) : Prop where
  directories : t.KeepsDirectories d
  target : ∀ loc, d.locate path = .ok (loc, false) →
    d.bytesAt? loc = t.bytesAt? loc ∨ d.bytesAt? loc = some bytes
  others : ∀ loc, d.bytesAt? loc ≠ t.bytesAt? loc →
    d.locate path = .ok (loc, false) ∨ d.locate temporary = .ok (loc, false)

section
variable {t made d : FileTree} {temporary path text : String}

theorem OnTheWay.of_adds {bytes : List UInt8} (hadds : t.AddsDirectories made)
    (h : made.OnTheWay d temporary path bytes) : t.OnTheWay d temporary path bytes where
  directories :=
    KeepsDirectories.trans ⟨hadds.home, fun loc => hadds.extends.node loc .directory⟩ h.directories
  target loc hloc := hadds.bytesAt? loc ▸ h.target loc hloc
  others loc hloc := h.others loc (hadds.bytesAt? loc ▸ hloc)

/-- Who reads the path finds the old bytes or the new ones. -/
theorem OnTheWay.readBytes {bytes held : List UInt8} (h : t.OnTheWay d temporary path bytes)
    (hread : t.readBytes path = .ok held) :
    d.readBytes path = .ok held ∨ d.readBytes path = .ok bytes := by
  obtain ⟨loc, hlocate, hnode⟩ := readBytes_eq_ok.1 hread
  have hloc := h.directories.locate hlocate
  rcases h.target loc hloc with hsame | hnew
  · rw [bytesAt?_of_node? hnode] at hsame
    exact Or.inl (readBytes_eq_ok.2 ⟨loc, hloc, bytesAt?_eq_some.1 hsame⟩)
  · exact Or.inr (readBytes_eq_ok.2 ⟨loc, hloc, bytesAt?_eq_some.1 hnew⟩)

theorem onTheWay_of_mem_replaceStates
    (hother : ∀ (d : FileTree) loc loc', d.locate path = .ok (loc, false) →
      d.locate temporary = .ok (loc', false) → loc' ≠ loc)
    (h : d ∈ t.replaceStates temporary path text) :
    t.OnTheWay d temporary path (encodeUtf8 text.toList) := by
  rcases mem_replaceStates.1 h with rfl | ⟨part, -, hwrite⟩ | ⟨made, hwrite, hmove⟩
  · exact ⟨⟨rfl, fun _ h => h⟩, fun _ _ => Or.inl rfl, fun _ h => absurd rfl h⟩
  · -- the temporary file grows, and it is not the one at the path
    obtain ⟨loc', hlocate, hfree, rfl⟩ := writeBytes_spec hwrite
    have hkeeps := keepsDirectories_put hfree (.file part)
    refine ⟨hkeeps, fun loc hloc => ?_, fun loc hloc => ?_⟩
    · have hne : loc' ≠ loc := hother _ loc loc' hloc (hkeeps.locate hlocate)
      exact Or.inl (bytesAt?_congr (node?_put_of_ne t hne.symm _))
    · by_cases hne : loc = loc'
      · rw [hne]
        exact Or.inr (hkeeps.locate hlocate)
      · exact absurd (bytesAt?_congr (node?_put_of_ne t hne _)) hloc
  · -- the temporary file is complete when it is moved
    obtain ⟨loc', hlocate, hfree, rfl⟩ := writeBytes_spec hwrite
    obtain ⟨old, new, bytes, hold, hfile, hnew, hnode, rfl⟩ := rename_spec hmove
    have hkeeps := keepsDirectories_put hfree (.file (encodeUtf8 text.toList))
    obtain ⟨hkeeps', hmoved⟩ := keepsDirectories_rename hfile hnode
    obtain ⟨rfl, -⟩ := Prod.mk.inj (Except.ok.inj (hold.symm.trans (hkeeps.locate hlocate)))
    rw [node?_put_self t (ne_nil_of_node? hfree)] at hfile
    obtain rfl := FileNode.file.inj (Option.some.inj hfile)
    refine ⟨hkeeps.trans hkeeps', fun loc hloc => ?_, fun loc hloc => ?_⟩
    · obtain ⟨rfl, -⟩ := Prod.mk.inj (Except.ok.inj (hloc.symm.trans (hkeeps'.locate hnew)))
      exact Or.inr (bytesAt?_of_node? hmoved)
    · by_cases hne : loc = new
      · rw [hne]
        exact Or.inl (hkeeps'.locate hnew)
      by_cases hne' : loc = old
      · rw [hne']
        exact Or.inr (hkeeps'.locate hold)
      refine absurd (bytesAt?_congr ?_) hloc
      rw [node?_put_of_ne _ hne, node?_erase_of_ne _ hne', node?_put_of_ne t hne']

end

end FileTree

namespace FileStore

/-- The trees that writing all entries goes through. -/
def flushStates (s : FileStore) (t : FileTree) : List FileTree :=
  match Path.parent? s.path with
  | none | some "" => t.replaceStates s.temporaryPath s.path s.entries.toText
  | some parent =>
    t.directoryStates parent ++
      match t.makeDirectories parent with
      | .ok made => made.replaceStates s.temporaryPath s.path s.entries.toText
      | .error _ => []

/-- The trees that setting a value goes through. -/
def setStates (s : FileStore) (t : FileTree) (key value : String) : List FileTree :=
  if s.get? key = some value then [t]
  else { s with entries := s.entries.set key value }.flushStates t

theorem flush_mem_flushStates (s : FileStore) (t : FileTree) (fault : WriteFault) :
    (s.flush t fault).tree ∈ s.flushStates t := by
  unfold flush flushStates
  cases hparent : Path.parent? s.path with
  | none => exact FileTree.replaceFile_mem_replaceStates fault
  | some parent =>
    by_cases hempty : parent = ""
    · subst hempty
      exact FileTree.replaceFile_mem_replaceStates fault
    · have hself := t.self_mem_directoryStates parent
      simp only
      cases hdirectory : fault.directory with
      | some e => exact List.mem_append_left _ hself
      | none =>
        dsimp only
        cases hmade : t.makeDirectories parent with
        | error e => exact List.mem_append_left _ hself
        | ok made => exact List.mem_append_right _ (FileTree.replaceFile_mem_replaceStates fault)

theorem set_mem_setStates (s : FileStore) (t : FileTree) (key value : String) (fault : WriteFault) :
    (s.set t key value fault).tree ∈ s.setStates t key value := by
  unfold set setStates
  split_ifs
  · exact List.mem_singleton_self t
  · exact flush_mem_flushStates _ t fault

theorem exists_of_mem_flushStates {s : FileStore} {t d : FileTree} (h : d ∈ s.flushStates t) :
    ∃ made, t.AddsDirectories made ∧
      d ∈ made.replaceStates s.temporaryPath s.path s.entries.toText := by
  unfold flushStates at h
  split at h
  · exact ⟨t, .refl t, h⟩
  · exact ⟨t, .refl t, h⟩
  · rcases List.mem_append.1 h with h | h
    · exact ⟨d, FileTree.adds_of_mem_directoryStatesWithin h, FileTree.self_mem_replaceStates⟩
    · split at h
      · rename_i made hmade
        exact ⟨made, FileTree.makeDirectories_adds hmade, h⟩
      · exact absurd h List.not_mem_nil

theorem onTheWay_of_mem_setStates {s : FileStore} {t d : FileTree} {key value : String}
    (h : d ∈ s.setStates t key value) :
    t.OnTheWay d s.temporaryPath s.path (encodeUtf8 (s.entries.set key value).toText.toList) := by
  unfold setStates at h
  split_ifs at h
  · rw [List.mem_singleton.1 h]
    exact FileTree.onTheWay_of_mem_replaceStates s.temporaryPath_ne FileTree.self_mem_replaceStates
  · obtain ⟨made, hadds, hmem⟩ := exists_of_mem_flushStates h
    exact (FileTree.onTheWay_of_mem_replaceStates (fun d => temporaryPath_ne _ d) hmem).of_adds hadds

theorem temporaryPath_not_same {s : FileStore} {name : String}
    (h : Path.fileName? s.path = some name) : Path.same s.temporaryPath s.path = false := by
  refine decide_eq_false fun hsame => ?_
  exact Path.getLast?_steps_withExtension_ne h (by decide) (by decide) (congrArg List.getLast? hsame)

/-- The temporary path of a store whose path has a file name is another path and leads to another file.
Every failure leaves a state that setting the value goes through. In each of these states the file of the
store holds what it held before or the whole text of the new entries, who reads it finds one of the two if
it was there before, and no file but this one and the temporary one has changed. -/
theorem never_torn {s : FileStore} {name : String} (hname : Path.fileName? s.path = some name)
    (t : FileTree) (key value : String) :
    let complete := encodeUtf8 (s.entries.set key value).toText.toList
    Path.same s.temporaryPath s.path = false ∧
    (∀ (d : FileTree) loc loc', d.locate s.path = .ok (loc, false) →
      d.locate s.temporaryPath = .ok (loc', false) → loc' ≠ loc) ∧
    (∀ fault, (s.set t key value fault).tree ∈ s.setStates t key value) ∧
    ∀ d ∈ s.setStates t key value,
      (∀ loc, d.locate s.path = .ok (loc, false) →
        d.bytesAt? loc = t.bytesAt? loc ∨ d.bytesAt? loc = some complete) ∧
      (∀ held, t.readBytes s.path = .ok held →
        d.readBytes s.path = .ok held ∨ d.readBytes s.path = .ok complete) ∧
      ∀ loc, d.bytesAt? loc ≠ t.bytesAt? loc →
        d.locate s.path = .ok (loc, false) ∨ d.locate s.temporaryPath = .ok (loc, false) := by
  intro complete
  refine ⟨temporaryPath_not_same hname, s.temporaryPath_ne, s.set_mem_setStates t key value, ?_⟩
  intro d hd
  have hway := onTheWay_of_mem_setStates hd
  exact ⟨hway.target, fun held => hway.readBytes, hway.others⟩

/-- A store with a hidden name that ends like the names of temporary files. The disk is full after three
bytes of the temporary file. -/
theorem never_torn_hidden_name :
    let s : FileStore := ⟨"d/.s.json.tmp", [("k", "old")]⟩
    let held := encodeUtf8 s.entries.toText.toList
    let t : FileTree := { nodes := [(["d"], .directory), (["d", ".s.json.tmp"], .file held)] }
    let cut := (s.set t "k" "new" { temporary := some (.os 28, 3) }).tree
    Path.fileName? s.path = some ".s.json.tmp" ∧ s.temporaryPath = "d/.s.json.json.tmp" ∧
      Path.same s.temporaryPath s.path = false ∧
      cut.bytesAt? ["d", ".s.json.json.tmp"] = some (held.take 3) ∧
      cut.readBytes s.path = .ok held := by
  intro s held t cut
  have hname : Path.fileName? s.path = some ".s.json.tmp" := by decide +kernel
  obtain ⟨hsame, -, hmem, hstates⟩ := never_torn hname t "k" "new"
  obtain ⟨-, hread, -⟩ := hstates cut (hmem _)
  refine ⟨hname, by decide +kernel, hsame, by decide +kernel, ?_⟩
  exact (hread held (by decide +kernel)).resolve_right (by decide +kernel)

end FileStore
end LiveMarkup
