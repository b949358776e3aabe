import LiveMarkup.Proofs.Disk

/-! # Files beside each other

A path that ends in a name leads to a place of that name in a directory, and paths that differ in the
name lead to places beside each other. So it can be said of a replacement which places it touches, and what
stands there after it, whether it works or fails.
-/
namespace LiveMarkup.FileTree

/-- A piece of a path that may stand in a file name. -/
def Usable (piece : List Char) : Prop :=
  '\x00' ∉ piece ∧ (String.ofList piece).utf8ByteSize ≤ longestName

instance (piece : List Char) : Decidable (Usable piece) := inferInstanceAs (Decidable (_ ∧ _))

/-- A path that ends in a name leads to a place of that name, in the directory that the pieces before it
lead to. -/
theorem locate_eq_ok {t : FileTree} {path : String} {front : List (List Char)} {name : List Char}
    (hp : Path.pieces path.toList = front ++ [name]) (hn : Path.IsName name)
    {found : Location × Bool} :
    t.locate path = .ok found ↔ (∀ p ∈ front ++ [name], Usable p) ∧
      ∃ folder, t.walk (if front.head? = some [] then [] else t.home) front = .ok folder ∧
        found = (folder ++ [String.ofList name], false) := by
  have hempty : path ≠ "" := by
    rintro rfl
    have hlast := congrArg List.getLast? hp
    simp [Path.pieces, hn.1.symm] at hlast
  have hnul : path.toList.contains '\x00' = true ↔ ∃ p ∈ front ++ [name], '\x00' ∈ p := by
    rw [List.contains_iff_mem, Path.mem_iff_mem_pieces (by decide), hp]
  have hlong : ((front ++ [name]).any fun p => longestName < (String.ofList p).utf8ByteSize) = true ↔
      ∃ p ∈ front ++ [name], longestName < (String.ofList p).utf8ByteSize := by
    simp only [List.any_eq_true, decide_eq_true_iff]
  have hkept : ((front ++ [name]).reverse.dropWhile (· = [])).reverse = front ++ [name] := by
    simp [hn.1]
  have hstart : (if Path.isAbsolute path = true then [] else t.home) =
      if front.head? = some [] then [] else t.home := by
    simp only [Path.isAbsolute_iff hp hn.1]
  unfold locate
  rw [hp]
  simp only [hstart, hkept, List.getLast?_concat, List.dropLast_concat, lt_irrefl, decide_false]
  rw [if_neg hempty]
  by_cases h0 : ∃ p ∈ front ++ [name], '\x00' ∈ p
  · rw [if_pos (hnul.2 h0)]
    obtain ⟨p, hp, hc⟩ := h0
    exact ⟨fun h => (by cases h), fun h => absurd hc (h.1 p hp).1⟩
  rw [if_neg (mt hnul.1 h0)]
  by_cases h1 : ∃ p ∈ front ++ [name], longestName < (String.ofList p).utf8ByteSize
  · rw [if_pos (hlong.2 h1)]
    obtain ⟨p, hp, hc⟩ := h1
    exact ⟨fun h => (by cases h), fun h => absurd hc (Nat.not_lt.2 (h.1 p hp).2)⟩
  rw [if_neg (mt hlong.1 h1), if_neg (not_or.2 hn.2)]
  have husable : ∀ p ∈ front ++ [name], Usable p :=
    fun p hp => ⟨fun h => h0 ⟨p, hp, h⟩, Nat.not_lt.1 fun h => h1 ⟨p, hp, h⟩⟩
  constructor
  · intro h
    obtain ⟨folder, hwalk, h⟩ := bind_eq_ok.1 h
    exact ⟨husable, folder, hwalk, (Except.ok.inj h).symm⟩
  · rintro ⟨-, folder, hwalk, rfl⟩
    exact bind_eq_ok.2 ⟨folder, hwalk, rfl⟩

/-- Beside a file that a path leads to stand the files of all other names. -/
theorem locate_beside {t : FileTree} {path other : String} {front : List (List Char)}
    {name name' : List Char} (hp : Path.pieces path.toList = front ++ [name])
    (ho : Path.pieces other.toList = front ++ [name']) (hn : Path.IsName name)
    (hn' : Path.IsName name') (husable : Usable name') {folder : Location}
    (h : t.locate path = .ok (folder ++ [String.ofList name], false)) :
    t.locate other = .ok (folder ++ [String.ofList name'], false) := by
  obtain ⟨hall, found, hwalk, hfound⟩ := (locate_eq_ok hp hn).1 h
  obtain ⟨rfl, -⟩ := List.append_inj' (Prod.mk.inj hfound).1 rfl
  refine (locate_eq_ok ho hn').2 ⟨?_, folder, hwalk, rfl⟩
  refine List.forall_mem_append.2 ⟨fun p hp => hall p (List.mem_append_left _ hp), ?_⟩
  simpa using husable

/-- Files that a path leads to in two trees are read alike if they stand there alike. -/
theorem readBytes_congr {t t' : FileTree} {path : String} {loc : Location}
    (h : t.locate path = .ok (loc, false)) (h' : t'.locate path = .ok (loc, false))
    (hnode : t'.node? loc = t.node? loc) : t'.readBytes path = t.readBytes path := by
  rw [readBytes, readBytes, lookup, lookup, bind_of_ok h, bind_of_ok h']
  simp only [hnode]

theorem writeBytes_of_located {t : FileTree} {path : String} {loc : Location}
    (h : t.locate path = .ok (loc, false)) (hfree : t.node? loc ≠ some .directory)
    (bytes : List UInt8) : t.writeBytes path bytes = .ok (t.put loc (.file bytes)) := by
  rw [writeBytes, bind_of_ok h]
  dsimp only
  cases hnode : t.node? loc with
  | none => rfl
  | some node =>
    cases node with
    | directory => exact absurd hnode hfree
    | file => rfl

theorem rename_of_located {t : FileTree} {source target : String} {old new : Location}
    {bytes : List UInt8} (hold : t.locate source = .ok (old, false))
    (hfile : t.node? old = some (.file bytes)) (hnew : t.locate target = .ok (new, false))
    (hfree : t.node? new ≠ some .directory) :
    t.rename source target = .ok ((t.erase old).put new (.file bytes)) := by
  rw [rename, bind_of_ok (readBytes_eq_ok.2 ⟨old, hold, hfile⟩), bind_of_ok hold]
  dsimp only
  rw [bind_of_ok hnew]
  dsimp only
  cases hnode : t.node? new with
  | none => rfl
  | some node =>
    cases node with
    | directory => exact absurd hnode hfree
    | file => rfl

/-- Where no temporary file can be, nothing is replaced. -/
theorem replaceFile_of_not_located {t : FileTree} {temporary : String}
    (h : ∀ loc, t.locate temporary ≠ .ok (loc, false)) (path text : String) (fault : WriteFault) :
    (t.replaceFile temporary path text fault).tree = t ∧
      (t.replaceFile temporary path text fault).result ≠ .ok () := by
  rcases replaceFile_spec t temporary path text fault with hfailed | ⟨written, made, hmade, -⟩
  · exact hfailed
  · obtain ⟨loc, hlocate, -⟩ := writeBytes_spec hmade
    exact absurd hlocate (h loc)

section
variable {t : FileTree} {temporary path : String} {old new : Location}
  (hold : t.locate temporary = .ok (old, false)) (hnew : t.locate path = .ok (new, false))
  (hne : old ≠ new)
include hold hnew hne

/-- A replacement touches two files. If it works, one of them holds all of the text and the other one
is gone; and if it fails, the first one stands as it did, and in place of the other one there may be a new
file. -/
theorem replaceFile_nodes (text : String) (fault : WriteFault) :
    let done := t.replaceFile temporary path text fault
    t.KeepsDirectories done.tree ∧
    (∀ loc, loc ≠ old → loc ≠ new → done.tree.node? loc = t.node? loc) ∧
    (done.result = .ok () → done.tree.node? new = some (.file (encodeUtf8 text.toList)) ∧
      done.tree.node? old = none) ∧
    (done.result ≠ .ok () → done.tree.node? new = t.node? new ∧
      (done.tree.node? old = t.node? old ∨ ∃ bytes, done.tree.node? old = some (.file bytes))) := by
  intro done
  rcases replaceFile_spec t temporary path text fault with
    ⟨htree, hfail⟩ | ⟨written, made, hmade, hthen⟩
  · have htree : done.tree = t := htree
    rw [htree]
    exact ⟨⟨rfl, fun _ h => h⟩, fun _ _ _ => rfl, fun h => absurd h hfail,
      fun _ => ⟨rfl, Or.inl rfl⟩⟩
  obtain ⟨loc, hlocate, hfree, rfl⟩ := writeBytes_spec hmade
  obtain ⟨rfl, -⟩ := Prod.mk.inj (Except.ok.inj (hlocate.symm.trans hold))
  have hwritten := keepsDirectories_put hfree (.file written)
  rcases hthen with ⟨htree, hfail⟩ | ⟨rfl, hmoved, hok⟩
  · have htree : done.tree = _ := htree
    rw [htree]
    exact ⟨hwritten, fun other h _ => node?_put_of_ne t h _, fun h => absurd h hfail,
      fun _ => ⟨node?_put_of_ne t hne.symm _,
        Or.inr ⟨written, node?_put_self t (ne_nil_of_node? hfree) _⟩⟩⟩
  · obtain ⟨from', to', bytes, hfrom, hfile, hto, hnode, htree⟩ := rename_spec hmoved
    obtain ⟨rfl, -⟩ := Prod.mk.inj (Except.ok.inj (hfrom.symm.trans (hwritten.locate hold)))
    obtain ⟨rfl, -⟩ := Prod.mk.inj (Except.ok.inj (hto.symm.trans (hwritten.locate hnew)))
    obtain rfl : encodeUtf8 text.toList = bytes := by
      rw [node?_put_self t (ne_nil_of_node? hfree)] at hfile
      exact FileNode.file.inj (Option.some.inj hfile)
    obtain ⟨hkeeps, hthere⟩ := keepsDirectories_rename hfile hnode
    have htree : done.tree = _ := htree
    rw [htree]
    refine ⟨hwritten.trans hkeeps, fun other h h' => ?_, fun _ => ⟨hthere, ?_⟩, fun h => absurd hok h⟩
    · rw [node?_put_of_ne _ h', node?_erase_of_ne _ h, node?_put_of_ne t h]
    · rw [node?_put_of_ne _ hne, node?_erase_self _ (ne_nil_of_node? hfree)]

/-- Where no directories stand in the way, a replacement in which nothing goes wrong works. -/
theorem replaceFile_ok (hfold : t.node? old ≠ some .directory) (hfnew : t.node? new ≠ some .directory)
    (text : String) : (t.replaceFile temporary path text {}).result = .ok () := by
  have hmade := writeBytes_of_located hold hfold (encodeUtf8 text.toList)
  have hwritten := keepsDirectories_put hfold (.file (encodeUtf8 text.toList))
  have hfile := node?_put_self t (ne_nil_of_node? hfold) (.file (encodeUtf8 text.toList))
  have hfree : (t.put old (.file (encodeUtf8 text.toList))).node? new ≠ some .directory := by
    rwa [node?_put_of_ne t hne.symm]
  have hmoved := rename_of_located (hwritten.locate hold) hfile (hwritten.locate hnew) hfree
  simp only [replaceFile, hmade, hmoved]

end

end LiveMarkup.FileTree
