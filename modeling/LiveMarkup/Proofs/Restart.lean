import LiveMarkup.Config
import LiveMarkup.Proofs.Deliveries
import LiveMarkup.Proofs.Durability

/-! # What a restart brings back

A desk is a display beside a file store. As long as every set works, the state file holds the session of
the report that was applied last, so a store that is opened on it brings that session back.
-/
namespace LiveMarkup

theorem Format.ofTag_tag (f : Format) : ofTag f.tag = f := by
  cases f <;> decide +kernel

theorem FileStore.openAt_congr {t t' : FileTree} {path : String}
    (h : t'.readText path = t.readText path) : openAt t' path = openAt t path := by
  unfold openAt
  rw [h]

/-- Showing documents keeps what showing a single one keeps. -/
theorem showAll_induction {σ : Type} {motive : σ → Prop}
    {put : σ → Pane → String → σ × Except IoError Unit}
    (step : ∀ s pane document, motive s → motive (put s pane document).1)
    (documents : List (Pane × String)) {s : σ} (h : motive s) :
    motive (showAll put documents s).1 := by
  induction documents generalizing s with
  | nil => exact h
  | cons e documents ih =>
    have hfirst := step s e.1 e.2 h
    rw [showAll]
    generalize put s e.1 e.2 = shown at hfirst
    obtain ⟨after, _ | _⟩ := shown
    · exact hfirst
    · exact ih hfirst

/-- A display with a state of its own, and a store in a file of a disk that the two share. -/
structure Desk (δ : Type) where
  panes : δ
  tree : FileTree
  store : FileStore
  /-- Whether a set has failed so far. -/
  failed : Bool := false

/-- How a display shows documents; it may fail, and it may write files. -/
abbrev Display (δ : Type) := δ → FileTree → Pane → String → (δ × FileTree) × Except IoError Unit

/-- Nothing that is shown goes into the file at a path. -/
def Display.Spares {δ : Type} (display : Display δ) (path : String) : Prop :=
  ∀ d t pane document, (display d t pane document).1.2.readText path = t.readText path

namespace Desk
variable {δ : Type}

def put (display : Display δ) (w : Desk δ) (pane : Pane) (document : String) :
    Desk δ × Except IoError Unit :=
  let shown := display w.panes w.tree pane document
  ({ w with panes := shown.1.1, tree := shown.1.2 }, shown.2)

def set (w : Desk δ) (key value : String) : Desk δ × Except StoreError Unit :=
  let done := w.store.set w.tree key value {}
  let failed := match done.result with
    | .ok () => w.failed
    | .error _ => true
  ({ w with tree := done.tree, store := done.store, failed }, done.result)

def outlet (display : Display δ) : Outlet (Desk δ) := ⟨put display, set⟩

variable {path : String} {w : Desk δ}

/-- The store was opened on its file, or is an empty one in place of a file that cannot be used. -/
def Opened (path : String) (w : Desk δ) : Prop :=
  FileStore.openAt w.tree path = .ok w.store ∨ w.store = .empty path

/-- The session of a report is in the store, and in its file. -/
structure Holds (path : String) (w : Desk δ) (report : UpdateReport) : Prop where
  saved : FileStore.openAt w.tree path = .ok w.store
  source : w.store.get? sourceKey = some report.source
  format : w.store.get? formatKey = some report.format.tag

/-- The session is as it was, in the store and in its file. -/
structure SameSession (path : String) (w w' : Desk δ) : Prop where
  store : w'.store = w.store
  failed : w'.failed = w.failed
  openAt : FileStore.openAt w'.tree path = FileStore.openAt w.tree path

theorem SameSession.opened {w' : Desk δ} (h : SameSession path w w') (hw : Opened path w) :
    Opened path w' := by
  unfold Opened
  rw [h.openAt, h.store]
  exact hw

theorem SameSession.holds {w' : Desk δ} (h : SameSession path w w') {report : UpdateReport}
    (hw : Holds path w report) : Holds path w' report := by
  obtain ⟨hsaved, hsource, hformat⟩ := hw
  rw [← h.store] at hsaved hsource hformat
  exact ⟨h.openAt.trans hsaved, hsource, hformat⟩

theorem sameSession_put {display : Display δ} (hspares : display.Spares path) (w : Desk δ) (pane : Pane)
    (document : String) : SameSession path w (w.put display pane document).1 :=
  ⟨rfl, rfl, FileStore.openAt_congr (hspares ..)⟩

theorem sameSession_showAll {display : Display δ} (hspares : display.Spares path)
    (documents : List (Pane × String)) (w : Desk δ) :
    SameSession path w (showAll (put display) documents w).1 :=
  showAll_induction (motive := SameSession path w)
    (fun v pane document h =>
      have hput := sameSession_put hspares v pane document
      ⟨hput.store.trans h.store, hput.failed.trans h.failed, hput.openAt.trans h.openAt⟩)
    documents ⟨rfl, rfl, rfl⟩

theorem Opened.path_eq (h : Opened path w) : w.store.path = path := by
  rcases h with h | h
  · exact (FileStore.sortedByKey_openAt h).1
  · rw [h]
    rfl

theorem result_set_eq_ok {key value : String} (h : (w.set key value).1.failed = false) :
    (w.set key value).2 = .ok () := by
  unfold set at h ⊢
  dsimp only at h ⊢
  split at h
  · assumption
  · exact absurd h (by decide)

theorem failed_set (h : w.failed = true) (key value : String) :
    (w.set key value).1.failed = true := by
  unfold set
  dsimp only
  split
  · exact h
  · rfl

theorem failed_present (display : Display δ) (report : UpdateReport) (h : w.failed = true) :
    ((outlet display).present report w).failed = true :=
  have hshown : (showAll (put display) (PanelDocuments.ofReport report).shows w).1.failed = true :=
    showAll_induction (motive := fun v : Desk δ => v.failed = true) (fun _ _ _ hv => hv) _ h
  Session.saveWith_induction (motive := fun v : Desk δ => v.failed = true)
    (fun _ key value hv => failed_set hv key value) hshown report.source report.format.tag

/-- A set that works brings the file up to date with the store. -/
theorem Opened.openAt_set (h : Opened path w) {key value : String} (hok : (w.set key value).2 = .ok ()) :
    FileStore.openAt (w.set key value).1.tree path = .ok (w.set key value).1.store := by
  have hpath := h.path_eq
  rcases h with hopen | hempty
  · rw [← hpath] at hopen ⊢
    exact FileStore.openAt_set_of_openAt hopen hok
  · have hsorted : SortedByKey w.store.entries := by
      rw [hempty]
      exact List.Pairwise.nil
    have hnone : w.store.get? key ≠ some value := by
      rw [hempty]
      exact nofun
    rw [← hpath]
    exact FileStore.openAt_set hsorted hnone hok

theorem get?_set (w : Desk δ) (key value other : String) :
    (w.set key value).1.store.get? other = if key = other then some value else w.store.get? other :=
  w.store.get?_set w.tree key value {} other

/-- Saving a session without a failure puts it into the store and into its file. -/
theorem Opened.holds_saveWith (h : Opened path w) (report : UpdateReport)
    (hok : (Session.saveWith Desk.set w report.source report.format.tag).1.failed = false) :
    Holds path (Session.saveWith Desk.set w report.source report.format.tag).1 report := by
  have hne : formatKey ≠ sourceKey := by decide
  have hsaved : (w.set sourceKey report.source).2 = .ok () → FileStore.openAt
      (w.set sourceKey report.source).1.tree path = .ok (w.set sourceKey report.source).1.store :=
    h.openAt_set
  have hworked : (w.set sourceKey report.source).1.failed = false →
      (w.set sourceKey report.source).2 = .ok () := result_set_eq_ok
  have hsource := w.get?_set sourceKey report.source sourceKey
  rw [if_pos rfl] at hsource
  unfold Session.saveWith at hok ⊢
  generalize w.set sourceKey report.source = first at *
  obtain ⟨after, _ | _⟩ := first
  · exact nomatch hworked hok
  · -- the second set starts from a file that is up to date, and leaves the source as it is
    have hopened : Opened path after := Or.inl (hsaved rfl)
    refine ⟨hopened.openAt_set (result_set_eq_ok hok), ?_, ?_⟩
    · exact (after.get?_set formatKey _ sourceKey).trans ((if_neg hne).trans hsource)
    · exact (after.get?_set formatKey _ formatKey).trans (if_pos rfl)

theorem Opened.holds_present {display : Display δ} (hspares : display.Spares path) (h : Opened path w)
    (report : UpdateReport) (hok : ((outlet display).present report w).failed = false) :
    Holds path ((outlet display).present report w) report :=
  have hshown := sameSession_showAll hspares (PanelDocuments.ofReport report).shows w
  (hshown.opened h).holds_saveWith report hok

end Desk

/-- Unless a set has failed, the state file holds the session of the report that the gate holds. -/
def Restorable {δ : Type} (path : String) (s : Scene (Desk δ)) : Prop :=
  s.world.failed = false →
    s.playground.gate.applied = 0 ∧ s.world.Opened path ∨
      ∃ report, (s.playground.gate.applied, report) ∈ s.delivered ∧ s.world.Holds path report

section
variable {δ : Type} {path : String} {display : Display δ} (hspares : display.Spares path)

theorem Restorable.opened {s : Scene (Desk δ)} (h : Restorable path s)
    (hok : s.world.failed = false) : s.world.Opened path := by
  rcases h hok with ⟨-, hopened⟩ | ⟨report, -, hholds⟩
  · exact hopened
  · exact Or.inl hholds.saved

/-- Painting and counting leave the session alone. -/
theorem Restorable.of_sameSession {s t : Scene (Desk δ)} (h : Restorable path s)
    (hworld : s.world.SameSession path t.world) (hdelivered : s.delivered ⊆ t.delivered)
    (happlied : t.playground.gate.applied = s.playground.gate.applied) : Restorable path t := by
  intro hok
  rw [happlied]
  rcases h (hworld.failed.symm.trans hok) with ⟨hzero, hopened⟩ | ⟨report, hd, hholds⟩
  · exact Or.inl ⟨hzero, hworld.opened hopened⟩
  · exact Or.inr ⟨report, hdelivered hd, hworld.holds hholds⟩

include hspares

theorem Restorable.deliver {s : Scene (Desk δ)} (h : Restorable path s) (u : Started)
    (outcome : UpdateOutcome) (now : Nat) :
    Restorable path (s.deliver (Desk.outlet display) u outcome now) := by
  by_cases hnew : s.playground.gate.applied < u.generation
  · rw [Scene.deliver_of_newer _ hnew]
    intro hok
    -- a failure would have been remembered
    have hbefore : s.world.failed = false := by
      by_contra hfailed
      rw [Bool.not_eq_false] at hfailed
      exact absurd hok (by rw [Desk.failed_present display _ hfailed]; decide)
    have hholds := (h.opened hbefore).holds_present hspares (u.report outcome) hok
    exact Or.inr ⟨u.report outcome, List.mem_cons_self, hholds⟩
  · rw [Scene.deliver_of_stale _ hnew]
    exact h.of_sameSession ⟨rfl, rfl, rfl⟩ (List.subset_cons_self _ _) rfl

theorem Restorable.step {s t : Scene (Desk δ)} (h : Restorable path s)
    (hst : Step (Desk.outlet display) s t) : Restorable path t := by
  rcases hst.cases with
    ⟨p, hgate, rfl | rfl⟩ | ⟨p, source, hgate, rfl⟩ | ⟨u, -, outcome, now, rfl⟩
  · exact h.of_sameSession ⟨rfl, rfl, rfl⟩ (List.Subset.refl _) (congrArg _ hgate)
  · exact h.of_sameSession (Desk.sameSession_put hspares _ _ _) (List.Subset.refl _)
      (congrArg _ hgate)
  · have happlied : p.gate.applied = s.playground.gate.applied := by rw [hgate]
    exact h.of_sameSession ⟨rfl, rfl, rfl⟩ (List.Subset.refl _) happlied
  · exact h.deliver hspares u outcome now

theorem ReachableFrom.restorable {w : Desk δ} (hw : w.Opened path) {s : Scene (Desk δ)}
    (h : ReachableFrom (Desk.outlet display) w s) : Restorable path s := by
  induction h with
  | start lexer styles source format window =>
    have hbefore : Restorable path
        (⟨.new lexer styles source format window, w, [], []⟩ : Scene (Desk δ)) :=
      fun _ => Or.inl ⟨rfl, hw⟩
    exact hbefore.of_sameSession (Desk.sameSession_put hspares w _ _) (List.Subset.refl _) rfl
  | step _ hst ih => exact ih.step hspares hst

end

/-- While no set has failed, a store that is opened on the state file holds the session of the report that
was applied last, and a restart without a format of its own takes that report's format. -/
theorem restart_restores {δ : Type} {path : String} {display : Display δ}
    (hspares : display.Spares path) {w : Desk δ}
    (hw : FileStore.openAt w.tree path = .ok w.store ∨ w.store = .empty path)
    {s : Scene (Desk δ)} (h : ReachableFrom (Desk.outlet display) w s) (hok : s.world.failed = false)
    (happlied : 0 < s.playground.gate.applied) :
    ∃ report, (∀ other, (s.playground.gate.applied, other) ∈ s.delivered ↔ other = report) ∧
      ∃ store, FileStore.openAt s.world.tree path = .ok store ∧
        (Session.load store.get?).source = report.source ∧
        ∀ settings : Settings,
          settings.startFormat none (Session.load store.get?).format = report.format := by
  rcases h.restorable hspares hw hok with ⟨hzero, -⟩ | ⟨report, hd, hsaved, hsource, hformat⟩
  · exact absurd hzero happlied.ne'
  · refine ⟨report, fun other => ⟨fun hother => ?_, fun heq => heq ▸ hd⟩, _, hsaved, ?_,
      fun settings => ?_⟩
    · exact congrArg Prod.snd (h.reachable.eq_of_delivered hother hd rfl)
    · rw [Session.load, hsource]
      rfl
    · rw [Session.load, hformat]
      exact report.format.ofTag_tag

/-- Over a state file that is no JSON, an emptied text in another format is applied although the engine
fails, and an older report comes too late: the empty text and its format are what a restart finds. -/
theorem restart_restores_empty :
    let tree : FileTree := { nodes := [(["state.json"], .file (encodeUtf8 "torn".toList))] }
    let display : Display Unit := fun d t _ _ => ((d, t), .ok ())
    ∃ s : Scene (Desk Unit),
      ReachableFrom (Desk.outlet display) ⟨(), tree, .empty "state.json", false⟩ s ∧
        s.delivered.map Prod.fst = [1, 2] ∧
        ∃ store, FileStore.openAt s.world.tree "state.json" = .ok store ∧
          (Session.load store.get?).source = "" ∧
          ∀ settings : Settings,
            settings.startFormat none (Session.load store.get?).format = .mdx := by
  intro tree display
  have hspares : display.Spares "state.json" := fun _ _ _ _ => rfl
  have h : ReachableFrom (Desk.outlet display) ⟨(), tree, .empty "state.json", false⟩ _ :=
    .start (fun _ => .ok []) .default "a" .html 500
  have h := h.step (.change "" 5)
  have h := h.step (.choose .mdx 10)
  have h := h.step (.deliver ⟨2, "", .mdx⟩ (by decide +kernel) (.failure "no") 20)
  have h := h.step (.deliver ⟨1, "a", .html⟩ (by decide +kernel) (.failure "no") 30)
  generalize hs : Scene.deliver _ _ _ _ _ = s at h
  have hdelivered : s.delivered =
      [(1, ⟨"a", .html, .failure "no"⟩), (2, ⟨"", .mdx, .failure "no"⟩)] := by
    rw [← hs]
    rfl
  have happlied : s.playground.gate.applied = 2 := by rw [← hs]; decide +kernel
  have hok : s.world.failed = false := by rw [← hs]; decide +kernel
  obtain ⟨report, hreport, hrestart⟩ := restart_restores hspares (Or.inr rfl) h hok (by omega)
  have hsecond : (⟨"", .mdx, .failure "no"⟩ : UpdateReport) = report := by
    refine (hreport _).1 ?_
    rw [happlied, hdelivered]
    exact List.mem_cons_of_mem _ List.mem_cons_self
  rw [← hsecond] at hrestart
  exact ⟨s, h, by rw [hdelivered]; rfl, hrestart⟩

end LiveMarkup
