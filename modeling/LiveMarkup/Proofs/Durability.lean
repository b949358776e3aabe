import LiveMarkup.Proofs.Disk
import LiveMarkup.Proofs.SessionSaving
import LiveMarkup.Proofs.StoredEntries

/-! # What of a store outlives it

A store is compared with a second one that is opened on its file. After a write that worked the two hold
the same entries. A write that failed leaves its value in memory only, and setting that value again
writes nothing: then the file may still hold another value or none.
-/
namespace LiveMarkup

theorem Entries.get?_set (e : Entries) (key value other : String) :
    (e.set key value).get? other = if key = other then some value else e.get? other := by
  rw [get?, set, find?_insertMember]
  by_cases h : key = other
  · rw [if_pos h, if_pos h]
    rfl
  · rw [if_neg h, if_neg h]
    rfl

namespace FileStore

/-- The value that is found under a key when the file is opened afresh. -/
def stored? (t : FileTree) (path key : String) : Option String :=
  (openAt t path).toOption.bind fun s => s.get? key

theorem stored?_of_openAt {t : FileTree} {path : String} {s : FileStore}
    (h : openAt t path = .ok s) (key : String) : stored? t path key = s.get? key := by
  rw [stored?, h]
  rfl

theorem openAt_of_readText {t : FileTree} {path text : String} (h : t.readText path = .ok text) :
    openAt t path = (parse path text).map fun entries => ⟨path, entries⟩ := by
  rw [openAt, h]

theorem exists_readText {t : FileTree} {path key value : String}
    (h : stored? t path key = some value) : ∃ text, t.readText path = .ok text := by
  unfold stored? openAt at h
  split at h
  · exact ⟨_, ‹_›⟩
  · split_ifs at h
    · exact nomatch h
    · exact nomatch h

theorem sortedByKey_openAt {t : FileTree} {path : String} {s : FileStore}
    (h : openAt t path = .ok s) : s.path = path ∧ SortedByKey s.entries := by
  unfold openAt at h
  split at h
  · rename_i text _
    unfold parse at h
    split at h
    · rename_i members hmembers
      obtain rfl := Except.ok.inj h
      exact ⟨rfl, sortedByKey_ofMembers (sortedByKey_membersOfText? hmembers)⟩
    · exact nomatch h
  · split_ifs at h
    obtain rfl := Except.ok.inj h
    exact ⟨rfl, List.Pairwise.nil⟩

theorem openAt_flush {s : FileStore} (hs : SortedByKey s.entries) {t : FileTree}
    {fault : WriteFault} (h : (s.flush t fault).result = .ok ()) :
    openAt (s.flush t fault).tree s.path = .ok s := by
  rw [openAt_of_readText (readText_flush h), parse_toText hs]
  rfl

/-- After a flush that failed, what was found in the file is found there still. -/
theorem stored?_flush_of_ne_ok {s : FileStore} {t : FileTree} {fault : WriteFault}
    (h : (s.flush t fault).result ≠ .ok ()) {key value : String}
    (hv : stored? t s.path key = some value) :
    stored? (s.flush t fault).tree s.path key = some value := by
  obtain ⟨text, hread⟩ := exists_readText hv
  rw [stored?, openAt_of_readText hread] at hv
  rwa [stored?, openAt_of_readText (readText_flush_of_ne_ok h hread)]

theorem get?_set (s : FileStore) (t : FileTree) (key value : String) (fault : WriteFault)
    (other : String) :
    (s.set t key value fault).store.get? other = if key = other then some value else s.get? other := by
  unfold set
  by_cases h : s.get? key = some value
  · rw [if_pos h]
    by_cases ho : key = other
    · rw [if_pos ho, ← ho]
      exact h
    · rw [if_neg ho]
  · rw [if_neg h]
    exact s.entries.get?_set key value other

theorem path_set (s : FileStore) (t : FileTree) (key value : String) (fault : WriteFault) :
    (s.set t key value fault).store.path = s.path := by
  unfold set
  split_ifs <;> rfl

theorem sortedByKey_set {s : FileStore} (hs : SortedByKey s.entries) (t : FileTree)
    (key value : String) (fault : WriteFault) :
    SortedByKey (s.set t key value fault).store.entries := by
  unfold set
  split_ifs
  · exact hs
  · exact hs.insertMember value

theorem set_of_get? {s : FileStore} {key value : String} (h : s.get? key = some value) (t : FileTree)
    (fault : WriteFault) : s.set t key value fault = ⟨s, t, .ok ()⟩ := if_pos h

theorem set_of_get?_ne {s : FileStore} {key value : String} (h : s.get? key ≠ some value)
    (t : FileTree) (fault : WriteFault) :
    let changed : FileStore := { s with entries := s.entries.set key value }
    let done := changed.flush t fault
    s.set t key value fault = ⟨changed, done.tree, done.result.mapError (.io s.path)⟩ := if_neg h

theorem mapError_eq_ok {ε ε' : Type} {result : Except ε Unit} (f : ε → ε') :
    result.mapError f = .ok () ↔ result = .ok () := by
  cases result with
  | ok => exact ⟨fun _ => rfl, fun _ => rfl⟩
  | error e => exact ⟨nofun, nofun⟩

theorem openAt_set {s : FileStore} (hs : SortedByKey s.entries) {t : FileTree} {key value : String}
    {fault : WriteFault} (h : s.get? key ≠ some value)
    (hok : (s.set t key value fault).result = .ok ()) :
    openAt (s.set t key value fault).tree s.path = .ok (s.set t key value fault).store := by
  rw [set_of_get?_ne h] at hok ⊢
  exact openAt_flush (hs.insertMember value) ((mapError_eq_ok _).1 hok)

/-- A store that agrees with its file agrees with it after a set that worked. -/
theorem openAt_set_of_openAt {s : FileStore} {t : FileTree} {key value : String}
    {fault : WriteFault} (h : openAt t s.path = .ok s)
    (hok : (s.set t key value fault).result = .ok ()) :
    openAt (s.set t key value fault).tree s.path = .ok (s.set t key value fault).store := by
  by_cases hget : s.get? key = some value
  · rw [set_of_get? hget]
    exact h
  · exact openAt_set (sortedByKey_openAt h).2 hget hok

/-- After a set that failed, what was found in the file is found there still. -/
theorem stored?_set_of_ne_ok {s : FileStore} {t : FileTree} {key value : String}
    {fault : WriteFault} (h : (s.set t key value fault).result ≠ .ok ()) {other found : String}
    (hv : stored? t s.path other = some found) :
    stored? (s.set t key value fault).tree s.path other = some found := by
  by_cases hget : s.get? key = some value
  · rw [set_of_get? hget] at h
    exact absurd rfl h
  · rw [set_of_get?_ne hget] at h ⊢
    exact stored?_flush_of_ne_ok (fun hok => h ((mapError_eq_ok _).2 hok)) hv

end FileStore

namespace Session

/-- The session that is found when the file is opened afresh. -/
def stored? (t : FileTree) (path : String) : Option Session :=
  (FileStore.openAt t path).toOption.map fun s => load s.get?

theorem stored?_of_openAt {t : FileTree} {path source format : String} {s : FileStore}
    (h : FileStore.openAt t path = .ok s) (hsource : s.get? sourceKey = some source)
    (hformat : s.get? formatKey = some format) : stored? t path = some ⟨source, some format⟩ := by
  rw [stored?, h]
  show some (load s.get?) = _
  rw [load, hsource, hformat]
  rfl

theorem stored?_of_stored? {t : FileTree} {path source format : String}
    (hsource : FileStore.stored? t path sourceKey = some source)
    (hformat : FileStore.stored? t path formatKey = some format) :
    stored? t path = some ⟨source, some format⟩ := by
  unfold FileStore.stored? at hsource hformat
  cases hopen : FileStore.openAt t path with
  | error e =>
    rw [hopen] at hsource
    exact nomatch hsource
  | ok s =>
    rw [hopen] at hsource hformat
    exact stored?_of_openAt hopen hsource hformat

theorem save_of_ok {s : FileStore} {t : FileTree} {source format : String}
    {fault : String → WriteFault} (h : (save s t source format fault).result = .ok ()) :
    let first := s.set t sourceKey source (fault sourceKey)
    first.result = .ok () ∧ save s t source format fault =
      first.store.set first.tree formatKey format (fault formatKey) := by
  unfold save saveWith at h ⊢
  dsimp only at h ⊢
  generalize s.set t sourceKey source (fault sourceKey) = first at h ⊢
  obtain ⟨store, tree, _ | _⟩ := first
  · exact nomatch h
  · exact ⟨rfl, rfl⟩

end Session

/-- A call of a store, with the failures of the disk during it. -/
inductive StoreCall where
  | set (key value : String) (fault : WriteFault)
  | save (source format : String) (fault : String → WriteFault)

structure StoreRun where
  store : FileStore
  tree : FileTree
  /-- The keys of the sets that failed since the file was last written. -/
  unsaved : List String := []

namespace StoreRun

/-- Sets a value, and takes down whether that worked. -/
def set (r : StoreRun) (key value : String) (fault : WriteFault) :
    StoreRun × Except StoreError Unit :=
  let done := r.store.set r.tree key value fault
  let unsaved := if r.store.get? key = some value then r.unsaved else
    match done.result with
    | .ok () => []
    | .error _ => key :: r.unsaved
  (⟨done.store, done.tree, unsaved⟩, done.result)

def call (r : StoreRun) : StoreCall → StoreRun
  | .set key value fault => (r.set key value fault).1
  | .save source format fault =>
    (Session.saveWith (fun r key value => r.set key value (fault key)) r source format).1

/-- The calls of a run have the effects of those of the store. -/
theorem call_save (r : StoreRun) (source format : String) (fault : String → WriteFault) :
    let after := r.call (.save source format fault)
    let done := Session.save r.store r.tree source format fault
    after.store = done.store ∧ after.tree = done.tree := by
  let set (at_ : FileStore × FileTree) (key value : String) :=
    let done := at_.1.set at_.2 key value (fault key)
    ((done.store, done.tree), done.result)
  have h := @Session.saveWith_map StoreRun (FileStore × FileTree) StoreError
    (fun r => (r.store, r.tree)) (fun r key value => r.set key value (fault key)) set
    (fun _ _ _ => rfl) r source format
  exact ⟨(congrArg (·.1.1) h).symm, (congrArg (·.1.2) h).symm⟩

def after (r : StoreRun) (calls : List StoreCall) : StoreRun := calls.foldl call r

/-- What is in memory is in the file as well, but for the values of sets that failed. -/
structure Tracked (path : String) (r : StoreRun) : Prop where
  path_eq : r.store.path = path
  sorted : SortedByKey r.store.entries
  saved : ∀ key value, r.store.get? key = some value → key ∉ r.unsaved →
    FileStore.stored? r.tree path key = some value

theorem tracked_start {t : FileTree} {path : String} {s : FileStore}
    (h : FileStore.openAt t path = .ok s ∨ s = .empty path) : Tracked path ⟨s, t, []⟩ := by
  rcases h with h | rfl
  · obtain ⟨hpath, hsorted⟩ := FileStore.sortedByKey_openAt h
    exact ⟨hpath, hsorted, fun key value hv _ => (FileStore.stored?_of_openAt h key).trans hv⟩
  · exact ⟨rfl, List.Pairwise.nil, fun key value hv => nomatch hv⟩

theorem Tracked.set {path : String} {r : StoreRun} (h : Tracked path r) (key value : String)
    (fault : WriteFault) : Tracked path (r.set key value fault).1 := by
  refine ⟨(r.store.path_set r.tree key value fault).trans h.path_eq,
    FileStore.sortedByKey_set h.sorted _ _ _ _, fun other found hv hu => ?_⟩
  by_cases hget : r.store.get? key = some value
  · -- nothing happens
    have hsame := FileStore.set_of_get? hget r.tree fault
    simp only [StoreRun.set, hsame, if_pos hget] at hv hu ⊢
    exact h.saved other found hv hu
  · cases hresult : (r.store.set r.tree key value fault).result with
    | ok =>
      -- all entries have been written, those of failed sets among them
      have hopen := FileStore.openAt_set h.sorted hget hresult
      rw [h.path_eq] at hopen
      exact (FileStore.stored?_of_openAt hopen other).trans hv
    | error e =>
      -- the memory has changed under this key only, and the key is taken down
      simp only [StoreRun.set, if_neg hget, hresult, List.mem_cons, not_or] at hv hu
      rw [FileStore.get?_set, if_neg (Ne.symm hu.1)] at hv
      have hold := h.saved other found hv hu.2
      rw [← h.path_eq] at hold ⊢
      exact FileStore.stored?_set_of_ne_ok (by rw [hresult]; exact nofun) hold

theorem Tracked.call {path : String} {r : StoreRun} (h : Tracked path r) (c : StoreCall) :
    Tracked path (r.call c) := by
  cases c with
  | set key value fault => exact h.set key value fault
  | save source format fault =>
    exact Session.saveWith_induction (motive := Tracked path)
      (fun _ key value hr => hr.set key value (fault key)) h source format

theorem Tracked.after {path : String} {r : StoreRun} (h : Tracked path r) (calls : List StoreCall) :
    Tracked path (r.after calls) := by
  induction calls generalizing r with
  | nil => exact h
  | cons c calls ih => exact ih (h.call c)

theorem Tracked.stored?_set_iff {path : String} {r : StoreRun} (h : Tracked path r)
    {key value : String} {fault : WriteFault}
    (hok : (r.store.set r.tree key value fault).result = .ok ()) :
    FileStore.stored? (r.store.set r.tree key value fault).tree path key = some value ↔
      ¬(r.store.get? key = some value ∧ key ∈ r.unsaved ∧
        FileStore.stored? r.tree path key ≠ some value) := by
  by_cases hget : r.store.get? key = some value
  · rw [FileStore.set_of_get? hget]
    constructor
    · rintro hstored ⟨-, -, hne⟩
      exact hne hstored
    · intro hnot
      by_contra hne
      have hunsaved : key ∈ r.unsaved := by
        by_contra hu
        exact hne (h.saved key value hget hu)
      exact hnot ⟨hget, hunsaved, hne⟩
  · have hopen := FileStore.openAt_set h.sorted hget hok
    rw [h.path_eq] at hopen
    refine iff_of_true ?_ fun hnot => hget hnot.1
    rw [FileStore.stored?_of_openAt hopen, FileStore.get?_set, if_pos rfl]

theorem Tracked.stored?_save_iff {path : String} {r : StoreRun} (h : Tracked path r)
    {source format : String} {fault : String → WriteFault}
    (hok : (Session.save r.store r.tree source format fault).result = .ok ()) :
    Session.stored? (Session.save r.store r.tree source format fault).tree path =
        some ⟨source, some format⟩ ↔
      ¬(r.store.get? sourceKey = some source ∧ r.store.get? formatKey = some format ∧
        (sourceKey ∈ r.unsaved ∨ formatKey ∈ r.unsaved) ∧
        Session.stored? r.tree path ≠ some ⟨source, some format⟩) := by
  obtain ⟨hfirst, hsave⟩ := Session.save_of_ok hok
  rw [hsave] at hok ⊢
  have hne : formatKey ≠ sourceKey := by decide
  have hsource := FileStore.get?_set r.store r.tree sourceKey source (fault sourceKey) sourceKey
  rw [if_pos rfl] at hsource
  -- a set that writes brings the whole file up to date, so only two idle sets can miss it
  by_cases hgetSource : r.store.get? sourceKey = some source
  · rw [FileStore.set_of_get? hgetSource] at hok ⊢
    dsimp only at hok ⊢
    by_cases hgetFormat : r.store.get? formatKey = some format
    · rw [FileStore.set_of_get? hgetFormat]
      constructor
      · rintro hstored ⟨-, -, -, hno⟩
        exact hno hstored
      · intro hnot
        by_contra hno
        refine hnot ⟨hgetSource, hgetFormat, ?_, hno⟩
        by_contra hunsaved
        rw [not_or] at hunsaved
        exact hno (Session.stored?_of_stored? (h.saved _ _ hgetSource hunsaved.1)
          (h.saved _ _ hgetFormat hunsaved.2))
    · have hopen := FileStore.openAt_set h.sorted hgetFormat hok
      rw [h.path_eq] at hopen
      refine iff_of_true (Session.stored?_of_openAt hopen ?_ ?_) fun hnot => hgetFormat hnot.2.1
      · rw [FileStore.get?_set, if_neg hne, hgetSource]
      · rw [FileStore.get?_set, if_pos rfl]
  · refine iff_of_true ?_ fun hnot => hgetSource hnot.1
    have hopen := FileStore.openAt_set h.sorted hgetSource hfirst
    have hpath := r.store.path_set r.tree sourceKey source (fault sourceKey)
    generalize r.store.set r.tree sourceKey source (fault sourceKey) = first at *
    rw [← hpath] at hopen
    have hagrees := FileStore.openAt_set_of_openAt hopen hok
    rw [hpath, h.path_eq] at hagrees
    refine Session.stored?_of_openAt hagrees ?_ ?_
    · rw [FileStore.get?_set, if_neg hne, hsource]
    · rw [FileStore.get?_set, if_pos rfl]

end StoreRun

/-- A set or a save that worked is found in the file, unless its values were in memory before and not in
the file, as the values of sets that failed are. A set that failed leaves what is found in the file; it
works when it is repeated, and nothing is written then. -/
theorem stored?_iff_of_ok {t : FileTree} {path : String} {s : FileStore}
    (hstart : FileStore.openAt t path = .ok s ∨ s = .empty path) (calls : List StoreCall) :
    let r := StoreRun.after ⟨s, t, []⟩ calls
    (∀ key value fault,
      let done := r.store.set r.tree key value fault
      done.result = .ok () →
        (FileStore.stored? done.tree path key = some value ↔
          ¬(r.store.get? key = some value ∧ key ∈ r.unsaved ∧
            FileStore.stored? r.tree path key ≠ some value))) ∧
    (∀ source format fault,
      let done := Session.save r.store r.tree source format fault
      done.result = .ok () →
        (Session.stored? done.tree path = some ⟨source, some format⟩ ↔
          ¬(r.store.get? sourceKey = some source ∧ r.store.get? formatKey = some format ∧
            (sourceKey ∈ r.unsaved ∨ formatKey ∈ r.unsaved) ∧
            Session.stored? r.tree path ≠ some ⟨source, some format⟩))) ∧
    ∀ key value fault fault',
      let failed := r.store.set r.tree key value fault
      failed.result ≠ .ok () →
        (∀ other found, FileStore.stored? r.tree path other = some found →
          FileStore.stored? failed.tree path other = some found) ∧
        failed.store.set failed.tree key value fault' = ⟨failed.store, failed.tree, .ok ()⟩ := by
  intro r
  have hr : r.Tracked path := (StoreRun.tracked_start hstart).after calls
  refine ⟨?_, ?_, ?_⟩
  · intro key value fault done hok
    exact hr.stored?_set_iff hok
  · intro source format fault done hok
    exact hr.stored?_save_iff hok
  · intro key value fault fault' failed hfailed
    have hget : failed.store.get? key = some value := by rw [FileStore.get?_set, if_pos rfl]
    refine ⟨fun other found hfound => ?_, FileStore.set_of_get? hget failed.tree fault'⟩
    rw [← hr.path_eq] at hfound ⊢
    exact FileStore.stored?_set_of_ne_ok hfailed hfound

/-- A value is written, another one is not, and setting that one again changes nothing: the file holds
the first. -/
theorem stored?_iff_of_ok_retried :
    let s : FileStore := .empty "state.json"
    let r := StoreRun.after ⟨s, {}, []⟩
      [.set "k" "first" {}, .set "k" "second" { move := some (.os 5) }]
    let done := r.store.set r.tree "k" "second" {}
    done.result = .ok () ∧ FileStore.stored? done.tree "state.json" "k" ≠ some "second" ∧
      FileStore.stored? done.tree "state.json" "k" = some "first" := by
  intro s r done
  have hget : r.store.get? "k" = some "second" := by decide +kernel
  have hdone : done = ⟨r.store, r.tree, .ok ()⟩ := FileStore.set_of_get? hget r.tree {}
  have hok : done.result = .ok () := by rw [hdone]
  have hiff := (stored?_iff_of_ok (Or.inr rfl) _).1 "k" "second" {} hok
  refine ⟨hok, fun hstored => hiff.1 hstored ⟨hget, ?_, ?_⟩, ?_⟩
  · decide +kernel
  · decide +kernel
  · decide +kernel

/-- A directory in place of the temporary file: the first set fails, the second one works, and the file
is not there. -/
theorem repeated_set_not_stored :
    let t : FileTree := { nodes := [(["state.json.tmp"], .directory)] }
    let failed := FileStore.set (.empty "state.json") t "k" "v" {}
    let repeated := failed.store.set failed.tree "k" "v" {}
    (FileStore.openAt t "state.json").toOption.map (·.entries) = some [] ∧
      failed.result.isOk = false ∧ repeated.result.isOk = true ∧
      FileStore.stored? repeated.tree "state.json" "k" = none := by
  decide +kernel

end LiveMarkup
