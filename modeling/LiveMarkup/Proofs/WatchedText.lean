import LiveMarkup.Application
import LiveMarkup.Proofs.Results
import LiveMarkup.Proofs.VirtualClock

/-! # The watched file and the surface

Contents that are read from the watched file pass the filter, and those it lets through are set on the
surface. Filter and surface each look for repeats on their own. They start with the same content, and in
every later state the filter's last text is the surface's text: so they never disagree about what is new.
A watch keeps them in step between its other events until its run ends, since nothing else changes the
text of the surface.
-/
namespace LiveMarkup

/-- A filter before a surface, with the texts that were let through and what the surface answered. -/
structure Feed where
  filter : ChangeFilter
  surface : Surface
  accepted : List String := []
  answers : List Bool := []

/-- The contents that differ from the one before; the first one is compared with what was there. -/
def withoutRepeats (previous : String) : List String → List String
  | [] => []
  | text :: reads =>
    if text = previous then withoutRepeats text reads else text :: withoutRepeats text reads

namespace Feed

def start (initial : String) : Feed := { filter := ⟨some initial⟩, surface := .new initial }

def read (f : Feed) (text : String) : Feed :=
  match f.filter.accept text with
  | (false, filter) => { f with filter }
  | (true, filter) =>
    let (changed, surface) := f.surface.setText text
    { filter, surface, accepted := f.accepted ++ [text], answers := f.answers ++ [changed] }

/-- The feed after contents that were read one after the other. -/
def reading (f : Feed) (reads : List String) : Feed := reads.foldl read f

/-- A feed that starts with a content and is given others to read. -/
def after (initial : String) (reads : List String) : Feed := (start initial).reading reads

/-- Filter and surface are at the same text, and all that was let through has changed the surface. -/
structure InStep (f : Feed) (text : String) : Prop where
  filter : f.filter.last = some text
  surface : f.surface.text = text
  answers : f.answers = f.accepted.map fun _ => true
  revision : f.surface.revision = f.accepted.length

theorem inStep_start (initial : String) : (start initial).InStep initial := ⟨rfl, rfl, rfl, rfl⟩

variable {f : Feed} {text : String}

theorem InStep.read_same (h : f.InStep text) : f.read text = f := by
  have hrefused : f.filter.accept text = (false, f.filter) := if_pos h.filter
  rw [read, hrefused]

theorem InStep.read_other (h : f.InStep text) {other : String} (hne : other ≠ text) :
    (f.read other).InStep other ∧ (f.read other).accepted = f.accepted ++ [other] := by
  have haccepted : f.filter.accept other = (true, ⟨some other⟩) := by
    have hlast : f.filter.last ≠ some other := by
      rw [h.filter]
      exact fun he => hne (Option.some.inj he).symm
    exact if_neg hlast
  have hset : f.surface.setText other =
      (true, { f.surface with text := other, revision := f.surface.revision + 1 }) := by
    rw [Surface.setText, if_neg (h.surface.symm ▸ hne)]
  rw [read, haccepted]
  dsimp only
  rw [hset]
  refine ⟨⟨rfl, rfl, ?_, ?_⟩, rfl⟩
  · rw [h.answers, List.map_append, List.map_singleton]
  · rw [List.length_append, List.length_singleton, h.revision]

theorem InStep.reading (h : f.InStep text) (reads : List String) :
    (f.reading reads).InStep (reads.getLastD text) ∧
      (f.reading reads).accepted = f.accepted ++ withoutRepeats text reads := by
  induction reads generalizing f text with
  | nil => exact ⟨h, (List.append_nil _).symm⟩
  | cons other reads ih =>
    rw [Feed.reading, List.foldl_cons, ← Feed.reading, List.getLastD_cons, withoutRepeats]
    by_cases hsame : other = text
    · subst hsame
      rw [h.read_same, if_pos rfl]
      exact ih h
    · obtain ⟨hother, haccepted⟩ := h.read_other hsame
      obtain ⟨hlast, hall⟩ := ih hother
      refine ⟨hlast, ?_⟩
      rw [hall, haccepted, if_neg hsame, List.append_assoc, List.singleton_append]

end Feed

/-- A filter and a surface that start with the same content stay in step. After any reads the texts that
were let through are the reads without those that repeat the one before, each of them has changed the
surface, the revision is their number, and the surface holds what was read last. -/
theorem filter_and_surface_in_step (initial : String) (reads : List String) :
    (Feed.after initial reads).accepted = withoutRepeats initial reads ∧
    (Feed.after initial reads).answers = (withoutRepeats initial reads).map (fun _ => true) ∧
    (Feed.after initial reads).surface.revision = (withoutRepeats initial reads).length ∧
    (Feed.after initial reads).surface.text = reads.getLastD initial := by
  obtain ⟨hstep, haccepted⟩ := (Feed.inStep_start initial).reading reads
  have haccepted : (Feed.after initial reads).accepted = withoutRepeats initial reads := haccepted
  rw [← haccepted]
  exact ⟨rfl, hstep.answers, hstep.revision, hstep.surface⟩

example : (Feed.after "a" ["a", "b", "b", "a"]).accepted = ["b", "a"] := by decide

namespace Run
variable {ω : Type} {s : Setting ω} {r : Run ω} {text : String}

/-- A text is on the surface of a run, unless the run has ended. -/
def Holds (r : Run ω) (text : String) : Prop := r.ended = none → r.playground.surface.text = text

theorem holds_take {step : PlaygroundStep}
    (h : step.ended = none → step.after.surface.text = text) (now : Nat) :
    (r.take s now step).Holds text := by
  intro hopen
  rw [ended_take] at hopen
  rw [playground_take]
  exact h hopen

/-- Nothing that is due changes the text on the surface. -/
theorem Holds.play (h : r.Holds text) {now : Nat} {turn : Turn}
    (hturn : r.turn? = some (now, turn)) : (r.play s now turn).Holds text := by
  cases hended : r.ended with
  | some reason =>
    intro hopen
    rw [ended_play (by rw [hended]; rfl) hturn, hended] at hopen
    cases hopen
  | none =>
    have htext := h hended
    cases turn with
    | deadline =>
      refine holds_take (fun _ => ?_) now
      rcases r.playground.wake_spec now with hidle | ⟨waiting, debouncer, -, -, hstep⟩
      · rwa [hidle]
      · rwa [hstep]
    | moment u later =>
      cases u with
      | call c => exact fun _ => htext
      | result generation report =>
        rw [Run.play]
        dsimp only
        rw [if_neg (by simp [hended])]
        exact holds_take (fun _ => htext) now

theorem Holds.playWithin (h : r.Holds text) (limit : Option Nat) (fuel : Nat) :
    (r.playWithin s limit fuel).Holds text :=
  playWithin_induction (motive := fun r => r.Holds text) (fun h hturn => h.play hturn) h limit fuel

/-- An event takes a text to another one if its handling does. -/
theorem Holds.tell (h : r.Holds text) {e : PlaygroundEvent} {other : String}
    (hhandle : ∀ (p : Playground) now, p.surface.text = text → (p.handle e now).ended = none →
      (p.handle e now).after.surface.text = other) (time : Nat) : (r.tell s time e).Holds other := by
  unfold Run.tell
  dsimp only
  have hsettled : (r.settle s (some (max time r.clock))).Holds text :=
    h.playWithin _ _
  generalize r.settle s (some (max time r.clock)) = settled at hsettled
  by_cases hended : settled.ended.isSome
  · rw [if_pos hended]
    intro hopen
    rw [show settled.ended = none from hopen] at hended
    exact nomatch hended
  · rw [if_neg hended]
    exact holds_take (hhandle _ _ (hsettled (Option.not_isSome_iff_eq_none.1 hended))) _

end Run

theorem Playground.text_changeSource (p : Playground) (text : String) (now : Nat) :
    (p.handle (.sourceChanged text) now).after.surface.text = text := by
  rw [handle, changeSource, Surface.setText]
  by_cases hsame : text = p.surface.text
  · rw [if_pos hsame]
    exact hsame.symm
  · rw [if_neg hsame]
    rfl

namespace Watch

/-- A use of a watch: something is saved on the disk, the file is looked at, a line is typed, or time
passes. -/
inductive Use where
  | save (tree : FileTree)
  | look (time : Nat)
  | command (time : Nat) (line : List Char)
  | settle (limit : Option Nat)

def use (w : Watch) : Use → Watch
  | .save tree => w.withTree tree
  | .look time => w.look time
  | .command time line => w.command time line
  | .settle limit => w.settle limit

/-- The filter of a watch is at the text of its surface. -/
def InStep (w : Watch) : Prop := ∃ text, w.watcher.filter.last = some text ∧ w.run.Holds text

theorem start_inStep {e : Environment} {config : Config} {asked path : Option String} {w : Watch}
    (h : e.watch config asked path = .ok w) : w.InStep := by
  unfold Environment.watch at h
  obtain ⟨⟨source, tree⟩, -, h⟩ := bind_eq_ok.1 h
  obtain ⟨⟨sink, tree'⟩, -, h⟩ := bind_eq_ok.1 h
  obtain rfl := Except.ok.inj h
  exact ⟨source, rfl, Run.holds_take (fun _ => rfl) 0⟩

/-- A look at the file passes over a text that the filter is at, and takes the filter to any other. -/
theorem take_look (w : SourceWatcher) (t : FileTree) {text : String}
    (h : t.readText w.path = .ok text) : w.take t .modify [w.path] =
      if w.filter.last = some text then (none, w) else (some text, { w with filter := ⟨some text⟩ }) := by
  have hconcerns : concerns .modify [w.path] w.path = true := by
    simp [concerns, NoticeKind.mayBringContent, Path.same]
  rw [SourceWatcher.take, if_pos hconcerns, h]
  dsimp only
  by_cases hsame : w.filter.last = some text
  · rw [ChangeFilter.accept, if_pos hsame, if_pos hsame]
    rfl
  · rw [ChangeFilter.accept, if_neg hsame, if_neg hsame]
    rfl

/-- After a look the text of the file is on the surface. -/
theorem InStep.look_ok {w : Watch} (h : w.InStep) (time : Nat) {text : String}
    (hread : w.tree.readText w.watcher.path = .ok text) :
    (w.look time).watcher.filter.last = some text ∧ (w.look time).run.Holds text := by
  obtain ⟨before, hlast, hholds⟩ := h
  rw [look, take_look w.watcher w.tree hread]
  by_cases hsame : w.watcher.filter.last = some text
  · rw [if_pos hsame]
    obtain rfl := Option.some.inj (hlast.symm.trans hsame)
    exact ⟨hlast, hholds⟩
  · rw [if_neg hsame]
    exact ⟨rfl, hholds.tell (fun p now _ _ => p.text_changeSource text now) time⟩

theorem InStep.use {w : Watch} (h : w.InStep) (u : Use) : (w.use u).InStep := by
  cases u with
  | save tree => exact h
  | look time =>
    cases hread : w.tree.readText w.watcher.path with
    | ok text => exact ⟨text, h.look_ok time hread⟩
    | error e =>
      have hnone : w.watcher.take w.tree .modify [w.watcher.path] = (none, w.watcher) := by
        rw [SourceWatcher.take, hread]
        split_ifs <;> rfl
      rw [Watch.use, look, hnone]
      exact h
  | command time line =>
    obtain ⟨text, hlast, hholds⟩ := h
    rw [Watch.use, command]
    split
    · rename_i format _
      have hformat : ∀ (p : Playground) now, p.surface.text = text →
          (p.handle (.setFormat format) now).ended = none →
          (p.handle (.setFormat format) now).after.surface.text = text := fun _ _ htext _ => htext
      exact ⟨text, hlast, hholds.tell hformat time⟩
    · have hquit : ∀ (p : Playground) now, p.surface.text = text → (p.handle .quit now).ended = none →
          (p.handle .quit now).after.surface.text = text := fun _ _ htext _ => htext
      exact ⟨text, hlast, hholds.tell hquit time⟩
    · exact ⟨text, hlast, hholds⟩
    · exact ⟨text, hlast, hholds⟩
  | settle limit =>
    obtain ⟨text, hlast, hholds⟩ := h
    exact ⟨text, hlast, hholds.playWithin _ _⟩

/-- Whatever has been done with a watch, a look at a file that can be read brings its text to the surface,
unless the run has ended. -/
theorem look_shows_file {e : Environment} {config : Config} {asked path : Option String} {w : Watch}
    (h : e.watch config asked path = .ok w) (uses : List Use) (time : Nat) {text : String}
    (hread : (uses.foldl use w).tree.readText (uses.foldl use w).watcher.path = .ok text) :
    ((uses.foldl use w).look time).run.Holds text := by
  have hstep : (uses.foldl use w).InStep := by
    clear hread
    have hw := start_inStep h
    clear h
    induction uses generalizing w with
    | nil => exact hw
    | cons u uses ih => exact ih (hw.use u)
  exact (hstep.look_ok time hread).2

end Watch
end LiveMarkup
