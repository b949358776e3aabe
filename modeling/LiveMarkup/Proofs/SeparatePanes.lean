import LiveMarkup.Output.Sink
import LiveMarkup.Proofs.Siblings

/-! # Panes in files of their own

The files of all panes and the temporary files beside them are in one directory, and no two of them have
the same name. Calls of a directory sink may fail before the temporary file is opened, while it is written,
or when it is moved. Over any row of such calls each pane keeps what was shown in it last, and nothing but
its own two files is touched.
-/
namespace LiveMarkup

namespace Pane

def temporaryName (p : Pane) : String := p.fileName ++ ".tmp"

theorem fileName_injective {p q : Pane} (h : p.fileName = q.fileName) : p = q := by
  cases p <;> cases q <;> first | rfl | exact absurd h (by decide)

/-- No temporary file has the name of a pane's file. -/
theorem temporaryName_ne_fileName (p q : Pane) : p.temporaryName ≠ q.fileName := by
  cases p <;> cases q <;> decide

theorem temporaryName_injective {p q : Pane} (h : p.temporaryName = q.temporaryName) : p = q := by
  have hlists := congrArg String.toList h
  rw [temporaryName, temporaryName, String.toList_append, String.toList_append] at hlists
  exact fileName_injective (String.toList_injective (List.append_cancel_right hlists))

theorem fileName_usable (p : Pane) :
    Path.IsName p.fileName.toList ∧ FileTree.Usable p.fileName.toList := by
  cases p <;> decide +kernel

theorem temporaryName_usable (p : Pane) :
    Path.IsName p.temporaryName.toList ∧ FileTree.Usable p.temporaryName.toList := by
  cases p <;> decide +kernel

theorem stem_fileName (p : Pane) : Path.stem p.fileName.toList ≠ ['.'] ∧
    Path.stem p.fileName.toList ++ '.' :: "html.tmp".toList = p.temporaryName.toList := by
  cases p <;> decide +kernel

end Pane

namespace DirectorySink
variable (s : DirectorySink)

def temporaryPath (p : Pane) : String := Path.withExtension (s.pathOf p) "html.tmp"

theorem exists_pieces : ∃ front, ∀ p : Pane,
    Path.pieces (s.pathOf p).toList = front ++ [p.fileName.toList] ∧
      Path.pieces (s.temporaryPath p).toList = front ++ [p.temporaryName.toList] := by
  obtain ⟨front, hfront⟩ := Path.exists_pieces_join s.directory
  refine ⟨front, fun p => ?_⟩
  have hfile : Path.pieces (s.pathOf p).toList = front ++ [p.fileName.toList] :=
    hfront p.fileName (by cases p <;> decide)
  obtain ⟨hstem, hname⟩ := p.stem_fileName
  refine ⟨hfile, ?_⟩
  rw [temporaryPath, Path.pieces_withExtension_of_stem hfile p.fileName_usable.1 hstem (by decide), hname]

/-- The files of all panes and their temporary files are in one directory. -/
def HoldsPanes (t : FileTree) (folder : Location) : Prop :=
  ∀ p : Pane, t.locate (s.pathOf p) = .ok (folder ++ [p.fileName], false) ∧
    t.locate (s.temporaryPath p) = .ok (folder ++ [p.temporaryName], false)

/-- No directory stands in place of a pane's file or of its temporary file. -/
def HasRoom (t : FileTree) (folder : Location) (p : Pane) : Prop :=
  t.node? (folder ++ [p.fileName]) ≠ some .directory ∧
    t.node? (folder ++ [p.temporaryName]) ≠ some .directory

variable {s} {t t' : FileTree} {folder : Location}

theorem HoldsPanes.of_keepsDirectories (h : s.HoldsPanes t folder) (hk : t.KeepsDirectories t') :
    s.HoldsPanes t' folder := fun p => ⟨hk.locate (h p).1, hk.locate (h p).2⟩

/-- Where one temporary file can be, there can be the files of all panes. -/
theorem holdsPanes_of_locate {p : Pane} {loc : Location}
    (h : t.locate (s.temporaryPath p) = .ok (loc, false)) : ∃ folder, s.HoldsPanes t folder := by
  obtain ⟨front, hfront⟩ := s.exists_pieces
  obtain ⟨-, folder, -, hfound⟩ :=
    (FileTree.locate_eq_ok (hfront p).2 p.temporaryName_usable.1).1 h
  rw [hfound] at h
  refine ⟨folder, fun q => ?_⟩
  have hfile := FileTree.locate_beside (hfront p).2 (hfront q).1 p.temporaryName_usable.1
    q.fileName_usable.1 q.fileName_usable.2 h
  have htemporary := FileTree.locate_beside (hfront p).2 (hfront q).2 p.temporaryName_usable.1
    q.temporaryName_usable.1 q.temporaryName_usable.2 h
  rw [String.ofList_toList] at hfile htemporary
  exact ⟨hfile, htemporary⟩

end DirectorySink

/-- A call of a directory sink, and what goes wrong in it. -/
structure ShowCall where
  pane : Pane
  document : String
  /-- The temporary file is not even opened. -/
  refused : Option IoError := none
  fault : WriteFault := {}

def ShowCall.perform (s : DirectorySink) (t : FileTree) (c : ShowCall) : DiskOutcome :=
  match c.refused with
  | some e => ⟨t, .error e⟩
  | none => s.show t c.pane c.document c.fault

namespace DirectorySink
variable (s : DirectorySink)

/-- The tree that calls leave, whether they work or fail. -/
def treeAfter (t : FileTree) (calls : List ShowCall) : FileTree :=
  calls.foldl (fun t c => (c.perform s t).tree) t

/-- The document of the last call for a pane that worked. -/
def lastShown (t : FileTree) (p : Pane) : List ShowCall → Option String
  | [] => none
  | c :: calls =>
    let done := c.perform s t
    let shown := if c.pane = p ∧ done.result.isOk then some c.document else none
    lastShown done.tree p calls <|> shown

variable {s} {t : FileTree} {folder : Location}

theorem perform_of_not_held (h : ∀ folder, ¬ s.HoldsPanes t folder) (c : ShowCall) :
    (c.perform s t).tree = t ∧ (c.perform s t).result ≠ .ok () := by
  have hlocate : ∀ loc, t.locate (s.temporaryPath c.pane) ≠ .ok (loc, false) := by
    intro loc hloc
    obtain ⟨folder, hfolder⟩ := holdsPanes_of_locate hloc
    exact h folder hfolder
  unfold ShowCall.perform
  cases c.refused with
  | some e => exact ⟨rfl, nofun⟩
  | none => exact FileTree.replaceFile_of_not_located hlocate _ _ _

/-- A call touches the file of its pane and its temporary file. -/
theorem perform_nodes (h : s.HoldsPanes t folder) (c : ShowCall) :
    let done := c.perform s t
    t.KeepsDirectories done.tree ∧
    (∀ loc, loc ≠ folder ++ [c.pane.temporaryName] → loc ≠ folder ++ [c.pane.fileName] →
      done.tree.node? loc = t.node? loc) ∧
    (done.result = .ok () →
      done.tree.node? (folder ++ [c.pane.fileName]) = some (.file (encodeUtf8 c.document.toList)) ∧
      done.tree.node? (folder ++ [c.pane.temporaryName]) = none) ∧
    (done.result ≠ .ok () →
      done.tree.node? (folder ++ [c.pane.fileName]) = t.node? (folder ++ [c.pane.fileName]) ∧
      (done.tree.node? (folder ++ [c.pane.temporaryName]) =
          t.node? (folder ++ [c.pane.temporaryName]) ∨
        ∃ bytes, done.tree.node? (folder ++ [c.pane.temporaryName]) = some (.file bytes))) := by
  unfold ShowCall.perform
  cases c.refused with
  | some e =>
    exact ⟨⟨rfl, fun _ h => h⟩, fun _ _ _ => rfl, nofun, fun _ => ⟨rfl, Or.inl rfl⟩⟩
  | none =>
    have hne : folder ++ [c.pane.temporaryName] ≠ folder ++ [c.pane.fileName] := by
      simpa using c.pane.temporaryName_ne_fileName c.pane
    exact FileTree.replaceFile_nodes (h c.pane).2 (h c.pane).1 hne c.document c.fault

/-- A call in which nothing goes wrong works. -/
theorem perform_ok (h : s.HoldsPanes t folder) {p : Pane} (hroom : HasRoom t folder p)
    (document : String) : (ShowCall.perform s t { pane := p, document }).result = .ok () := by
  have hne : folder ++ [p.temporaryName] ≠ folder ++ [p.fileName] := by
    simpa using p.temporaryName_ne_fileName p
  exact FileTree.replaceFile_ok (h p).2 (h p).1 hne hroom.2 hroom.1 document

/-- A call leaves the files of the other panes and their temporary files. -/
theorem node?_perform_of_ne (h : s.HoldsPanes t folder) {c : ShowCall} {p : Pane} (hp : p ≠ c.pane) :
    (c.perform s t).tree.node? (folder ++ [p.fileName]) = t.node? (folder ++ [p.fileName]) ∧
      (c.perform s t).tree.node? (folder ++ [p.temporaryName]) =
        t.node? (folder ++ [p.temporaryName]) := by
  obtain ⟨-, hframe, -, -⟩ := perform_nodes h c
  constructor
  · refine hframe _ ?_ ?_
    · simpa using (c.pane.temporaryName_ne_fileName p).symm
    · simpa using fun hname => hp (Pane.fileName_injective hname)
  · refine hframe _ ?_ ?_
    · simpa using fun hname => hp (Pane.temporaryName_injective hname)
    · simpa using p.temporaryName_ne_fileName c.pane

/-- No call puts a directory in the way of another one. -/
theorem HasRoom.perform {p : Pane} (hroom : HasRoom t folder p) (h : s.HoldsPanes t folder)
    (c : ShowCall) : HasRoom (c.perform s t).tree folder p := by
  by_cases hp : p = c.pane
  · subst hp
    obtain ⟨-, -, hshown, hfailed⟩ := perform_nodes h c
    by_cases hok : (c.perform s t).result = .ok ()
    · obtain ⟨hfile, hgone⟩ := hshown hok
      exact ⟨by rw [hfile]; exact nofun, by rw [hgone]; exact nofun⟩
    · obtain ⟨hfile, htemporary | ⟨bytes, htemporary⟩⟩ := hfailed hok
      · exact ⟨by rw [hfile]; exact hroom.1, by rw [htemporary]; exact hroom.2⟩
      · exact ⟨by rw [hfile]; exact hroom.1, by rw [htemporary]; exact nofun⟩
  · obtain ⟨hfile, htemporary⟩ := node?_perform_of_ne h hp
    exact ⟨by rw [hfile]; exact hroom.1, by rw [htemporary]; exact hroom.2⟩

theorem HoldsPanes.treeAfter (h : s.HoldsPanes t folder) (calls : List ShowCall) :
    s.HoldsPanes (s.treeAfter t calls) folder := by
  induction calls generalizing t with
  | nil => exact h
  | cons c calls ih => exact ih (h.of_keepsDirectories (perform_nodes h c).1)

theorem HasRoom.treeAfter {p : Pane} (hroom : HasRoom t folder p) (h : s.HoldsPanes t folder)
    (calls : List ShowCall) : HasRoom (s.treeAfter t calls) folder p := by
  induction calls generalizing t with
  | nil => exact hroom
  | cons c calls ih =>
    exact ih (hroom.perform h c) (h.of_keepsDirectories (perform_nodes h c).1)

/-- What is in the place of a pane's file after calls: the last document that was shown there. -/
theorem node?_treeAfter (h : s.HoldsPanes t folder) (p : Pane) (calls : List ShowCall) :
    (s.treeAfter t calls).node? (folder ++ [p.fileName]) =
      match s.lastShown t p calls with
      | some document => some (.file (encodeUtf8 document.toList))
      | none => t.node? (folder ++ [p.fileName]) := by
  induction calls generalizing t with
  | nil => rfl
  | cons c calls ih =>
    obtain ⟨hkeeps, -, hshown, hfailed⟩ := perform_nodes h c
    rw [DirectorySink.treeAfter, List.foldl_cons, ← DirectorySink.treeAfter,
      ih (h.of_keepsDirectories hkeeps), lastShown]
    cases s.lastShown (c.perform s t).tree p calls with
    | some document => rfl
    | none =>
      by_cases hp : p = c.pane
      · subst hp
        cases hresult : (c.perform s t).result with
        | ok => simpa [hresult, Except.isOk, Except.toBool] using (hshown hresult).1
        | error e =>
          have hsame := (hfailed (by rw [hresult]; exact nofun)).1
          simpa [hresult, Except.isOk, Except.toBool] using hsame
      · simpa [Ne.symm hp] using (node?_perform_of_ne h hp).1

theorem treeAfter_of_not_held (h : ∀ folder, ¬ s.HoldsPanes t folder) (p : Pane)
    (calls : List ShowCall) : s.treeAfter t calls = t ∧ s.lastShown t p calls = none := by
  induction calls with
  | nil => exact ⟨rfl, rfl⟩
  | cons c calls ih =>
    obtain ⟨htree, hfail⟩ := perform_of_not_held h c
    have hresult : (c.perform s t).result.isOk = false := by
      cases hr : (c.perform s t).result with
      | ok => exact absurd hr hfail
      | error => rfl
    refine ⟨?_, ?_⟩
    · rw [DirectorySink.treeAfter, List.foldl_cons, htree]
      exact ih.1
    · rw [lastShown, htree, ih.2]
      simp [hresult]

/-- The file of a pane reads as the last document that was shown there, or as it did at first. -/
theorem readBytes_treeAfter (s : DirectorySink) (t : FileTree) (p : Pane) (calls : List ShowCall) :
    (s.treeAfter t calls).readBytes (s.pathOf p) =
      match s.lastShown t p calls with
      | some document => .ok (encodeUtf8 document.toList)
      | none => t.readBytes (s.pathOf p) := by
  by_cases hheld : ∃ folder, s.HoldsPanes t folder
  · obtain ⟨folder, hfolder⟩ := hheld
    have hafter := hfolder.treeAfter calls
    have hnode := node?_treeAfter hfolder p calls
    cases hlast : s.lastShown t p calls with
    | some document =>
      rw [hlast] at hnode
      exact FileTree.readBytes_eq_ok.2 ⟨_, (hafter p).1, hnode⟩
    | none =>
      rw [hlast] at hnode
      exact FileTree.readBytes_congr (hfolder p).1 (hafter p).1 hnode
  · obtain ⟨htree, hlast⟩ := treeAfter_of_not_held (not_exists.1 hheld) p calls
    rw [htree, hlast]

/-- A call that has changed something, or has worked, found the directory of the panes. -/
theorem exists_holdsPanes {c : ShowCall}
    (h : (c.perform s t).tree ≠ t ∨ (c.perform s t).result = .ok ()) :
    ∃ folder, s.HoldsPanes t folder := by
  by_contra hheld
  obtain ⟨htree, hfail⟩ := perform_of_not_held (not_exists.1 hheld) c
  rcases h with hchanged | hok
  · exact hchanged htree
  · exact hfail hok

/-- After any calls, of which some may have failed, the file of each pane reads as the last document that
was shown there, and as it did at first if none was. A further call changes nothing on the disk but the
file of its pane and the temporary file beside it; those of the other panes read as before. If it works,
the file of its pane reads as its document, and the temporary file is gone. It works if nothing goes wrong
in it, whatever went wrong before, unless the directory of the panes was missing at first or had other
directories in place of the pane's files. -/
theorem panes_stay_apart (s : DirectorySink) (t : FileTree) (calls : List ShowCall) :
    let before := s.treeAfter t calls
    (∀ p : Pane, before.readBytes (s.pathOf p) =
      match s.lastShown t p calls with
      | some document => .ok (encodeUtf8 document.toList)
      | none => t.readBytes (s.pathOf p)) ∧
    (∀ c : ShowCall, let after := (c.perform s before).tree
      (∀ loc, after.node? loc ≠ before.node? loc → ∃ folder, s.HoldsPanes before folder ∧
        (loc = folder ++ [c.pane.fileName] ∨ loc = folder ++ [c.pane.temporaryName])) ∧
      (∀ p ≠ c.pane, after.readBytes (s.pathOf p) = before.readBytes (s.pathOf p) ∧
        after.readBytes (s.temporaryPath p) = before.readBytes (s.temporaryPath p)) ∧
      ((c.perform s before).result = .ok () →
        after.readBytes (s.pathOf c.pane) = .ok (encodeUtf8 c.document.toList) ∧
        ∃ folder, s.HoldsPanes after folder ∧
          after.node? (folder ++ [c.pane.temporaryName]) = none)) ∧
    ∀ folder, s.HoldsPanes t folder → ∀ p : Pane, HasRoom t folder p → ∀ document : String,
      (ShowCall.perform s before { pane := p, document }).result = .ok () := by
  intro before
  refine ⟨fun p => readBytes_treeAfter s t p calls, fun c => ?_,
    fun folder hfolder p hroom document =>
      perform_ok (hfolder.treeAfter calls) (hroom.treeAfter hfolder calls) document⟩
  intro after
  refine ⟨fun loc hloc => ?_, fun p hp => ?_, fun hok => ?_⟩
  · have hchanged : after ≠ before := fun he => hloc (by rw [he])
    obtain ⟨folder, hfolder⟩ := exists_holdsPanes (Or.inl hchanged)
    obtain ⟨-, hframe, -, -⟩ := perform_nodes hfolder c
    refine ⟨folder, hfolder, ?_⟩
    by_contra hother
    rw [not_or] at hother
    exact hloc (hframe loc hother.2 hother.1)
  · by_cases hchanged : after = before
    · rw [hchanged]
      exact ⟨rfl, rfl⟩
    · obtain ⟨folder, hfolder⟩ := exists_holdsPanes (Or.inl hchanged)
      have hafter := hfolder.of_keepsDirectories (perform_nodes hfolder c).1
      obtain ⟨hfile, htemporary⟩ := node?_perform_of_ne hfolder hp
      exact ⟨FileTree.readBytes_congr (hfolder p).1 (hafter p).1 hfile,
        FileTree.readBytes_congr (hfolder p).2 (hafter p).2 htemporary⟩
  · obtain ⟨folder, hfolder⟩ := exists_holdsPanes (Or.inr hok)
    obtain ⟨hkeeps, -, hshown, -⟩ := perform_nodes hfolder c
    have hafter := hfolder.of_keepsDirectories hkeeps
    obtain ⟨hfile, hgone⟩ := hshown hok
    exact ⟨FileTree.readBytes_eq_ok.2 ⟨_, (hafter c.pane).1, hfile⟩, folder, hafter, hgone⟩

/-- The second document cannot be moved into place; it is left in the temporary file. The third one is
shown all the same, and the temporary file is gone. -/
theorem panes_stay_apart_retried :
    let s : DirectorySink := ⟨"out/"⟩
    let t : FileTree := { nodes := [(["out"], .directory)] }
    let denied : WriteFault := { move := some .permissionDenied }
    let before := s.treeAfter t
      [{ pane := .ast, document := "1" }, { pane := .ast, document := "2", fault := denied }]
    let shown := ShowCall.perform s before { pane := .ast, document := "3" }
    before.readText (s.pathOf .ast) = .ok "1" ∧ before.readText (s.temporaryPath .ast) = .ok "2" ∧
      shown.result = .ok () ∧ shown.tree.readBytes (s.pathOf .ast) = .ok (encodeUtf8 "3".toList) ∧
      ∃ folder, s.HoldsPanes shown.tree folder ∧
        shown.tree.node? (folder ++ [Pane.ast.temporaryName]) = none := by
  intro s t denied before shown
  obtain ⟨-, hcall, hworks⟩ := panes_stay_apart s t
    [{ pane := .ast, document := "1" }, { pane := .ast, document := "2", fault := denied }]
  have hfolder : s.HoldsPanes t ["out"] := fun p => by cases p <;> decide +kernel
  have hroom : HasRoom t ["out"] .ast := by
    constructor <;> decide +kernel
  have hok : shown.result = .ok () := hworks ["out"] hfolder .ast hroom "3"
  exact ⟨by decide +kernel, by decide +kernel, hok,
    (hcall { pane := .ast, document := "3" }).2.2 hok⟩

end DirectorySink
end LiveMarkup
