import LiveMarkup.Engine.Update
import LiveMarkup.Playground.Outlet
import LiveMarkup.Proofs.SessionSaving

/-! # Interleavings of the event loop

A scene is a playground with the updates that are on their way and the reports that were delivered.
Edits, chosen formats, wake-ups and results come in any order and at any times, and an update that is on
its way may end with any outcome. A mirrored outlet keeps beside its own state what every pane shows.
-/
namespace LiveMarkup

structure Started where
  generation : Nat
  source : String
  format : Format
deriving DecidableEq

def Started.report (u : Started) (outcome : UpdateOutcome) : UpdateReport :=
  ⟨u.source, u.format, outcome⟩

/-- Whatever the engine answers, the report is about the source and the format asked for. -/
theorem Engine.update_eq_report (engine : Engine) (u : Started) :
    ∃ outcome, engine.update u.source u.format = u.report outcome := by
  unfold Engine.update
  cases engine.cycle u.source u.format with
  | ok outcome => exact ⟨outcome, rfl⟩
  | error e => exact ⟨.failure e.shown, rfl⟩

structure Scene (ω : Type) where
  playground : Playground
  world : ω
  inFlight : List Started := []
  /-- The delivered reports with their generations, latest first. -/
  delivered : List (Nat × UpdateReport) := []

section
variable {ω : Type} (outlet : Outlet ω)

namespace Scene

/-- Carries out a request: an update is on its way from then on. -/
def carryOut (s : Scene ω) (q : Request) : Scene ω :=
  let s := { s with world := outlet.perform s.world q }
  match q with
  | .update generation source format =>
    { s with inFlight := ⟨generation, source, format⟩ :: s.inFlight }
  | _ => s

def take (s : Scene ω) (step : PlaygroundStep) : Scene ω :=
  step.requests.foldl (carryOut outlet) { s with playground := step.after }

def deliver (s : Scene ω) (u : Started) (outcome : UpdateOutcome) (now : Nat) : Scene ω :=
  take outlet
    { s with
      inFlight := s.inFlight.erase u
      delivered := (u.generation, u.report outcome) :: s.delivered }
    (s.playground.handle (.finished u.generation (u.report outcome)) now)

end Scene

/-- One step of the event loop. -/
inductive Step (s : Scene ω) : Scene ω → Prop
  | change (text : String) (now : Nat) :
      Step s (s.take outlet (s.playground.handle (.sourceChanged text) now))
  | choose (format : Format) (now : Nat) :
      Step s (s.take outlet (s.playground.handle (.setFormat format) now))
  | wake (now : Nat) : Step s (s.take outlet (s.playground.wake now))
  | deliver (u : Started) (started : u ∈ s.inFlight) (outcome : UpdateOutcome) (now : Nat) :
      Step s (s.deliver outlet u outcome now)

/-- The scenes that an event loop comes to before it ends. -/
inductive Reachable : Scene ω → Prop
  | start (lexer : Lexer) (styles : StyleMap) (source : String) (format : Format) (window : Nat)
      (w : ω) :
      Reachable (Scene.take outlet ⟨.new lexer styles source format window, w, [], []⟩
        (Playground.new lexer styles source format window).begin)
  | step {s t : Scene ω} (reached : Reachable s) (step : Step outlet s t) : Reachable t

/-- The scenes that an event loop comes to from a given state of display and store. -/
inductive ReachableFrom (w : ω) : Scene ω → Prop
  | start (lexer : Lexer) (styles : StyleMap) (source : String) (format : Format) (window : Nat) :
      ReachableFrom w (Scene.take outlet ⟨.new lexer styles source format window, w, [], []⟩
        (Playground.new lexer styles source format window).begin)
  | step {s t : Scene ω} (reached : ReachableFrom w s) (step : Step outlet s t) : ReachableFrom w t

variable {outlet} in
theorem ReachableFrom.reachable {w : ω} {s : Scene ω} (h : ReachableFrom outlet w s) :
    Reachable outlet s := by
  induction h with
  | start lexer styles source format window => exact .start lexer styles source format window w
  | step _ hst ih => exact ih.step hst

end

theorem Debouncer.pending_foldl_submit {α : Type} (d : Debouncer α) (payload : α) (now : Nat)
    {ids : List Nat} (h : ids ≠ []) :
    (ids.foldl (fun d _ => d.submit payload now) d).pending = some ⟨payload, now + d.window⟩ := by
  induction ids generalizing d with
  | nil => exact absurd rfl h
  | cons id ids ih =>
    cases ids with
    | nil => rfl
    | cons next ids => exact ih (d.submit payload now) (List.cons_ne_nil next ids)

theorem Debouncer.poll_spec {α : Type} (d : Debouncer α) (now : Nat) :
    d.poll now = (none, d) ∨ ∃ waiting, d.pending = some waiting ∧
      d.poll now = (some waiting.payload, { d with pending := none, fired := d.fired + 1 }) := by
  unfold poll
  cases hp : d.pending with
  | none => exact Or.inl rfl
  | some waiting =>
    by_cases hd : waiting.deadline ≤ now
    · exact Or.inr ⟨waiting, rfl, if_pos hd⟩
    · exact Or.inl (if_neg hd)

namespace Playground

/-- An edit that changes the text leaves it pending if anyone is subscribed to the changes. -/
theorem changeSource_spec {p : Playground} (h : p.editor.subscriptions ≠ []) (text : String)
    (now : Nat) :
    p.changeSource text now = { after := p } ∨
      ∃ after, p.changeSource text now = { after, requests := [after.paint] } ∧
        after.editor.subscriptions = p.editor.subscriptions ∧ after.surface.text = text ∧
        after.format = p.format ∧ after.gate = p.gate ∧
        after.debouncer.pending = some ⟨text, now + p.debouncer.window⟩ := by
  by_cases ht : text = p.surface.text
  · refine Or.inl ?_
    rw [changeSource, Surface.setText, if_pos ht]
  · refine Or.inr ?_
    rw [changeSource, Surface.setText, if_neg ht]
    exact ⟨_, rfl, rfl, rfl, rfl, rfl, Debouncer.pending_foldl_submit _ _ _ h⟩

/-- An edit changes nothing, or it is painted; no update is started yet. -/
theorem changeSource_cases (p : Playground) (text : String) (now : Nat) :
    p.changeSource text now = { after := p } ∨
      ∃ after, p.changeSource text now = { after, requests := [after.paint] } ∧
        after.gate = p.gate := by
  unfold changeSource
  split
  · exact Or.inl rfl
  · exact Or.inr ⟨_, rfl, rfl⟩

/-- A wake-up does nothing, or it starts the update of the pending text. -/
theorem wake_spec (p : Playground) (now : Nat) :
    p.wake now = { after := p } ∨
      ∃ waiting, ∃ debouncer : Debouncer String,
        p.debouncer.pending = some waiting ∧ debouncer.pending = none ∧
        let started := { p with debouncer }.startUpdate waiting.payload
        p.wake now = { after := started.1, requests := [started.2] } := by
  rcases p.debouncer.poll_spec now with hpoll | ⟨waiting, hpending, hpoll⟩
  · refine Or.inl ?_
    rw [wake, hpoll]
  · refine Or.inr ⟨waiting, { p.debouncer with pending := none, fired := p.debouncer.fired + 1 },
      hpending, rfl, ?_⟩
    rw [wake, hpoll]

end Playground

namespace Scene
variable {ω : Type} (outlet : Outlet ω)

theorem take_nil (s : Scene ω) (p : Playground) :
    s.take outlet { after := p } = { s with playground := p } := rfl

theorem take_paint (s : Scene ω) (p : Playground) :
    s.take outlet { after := p, requests := [p.paint] } =
      { s with playground := p, world := outlet.perform s.world p.paint } := rfl

/-- An update that is started takes the next generation and the current format. -/
theorem take_startUpdate (s : Scene ω) (p : Playground) (source : String) :
    s.take outlet { after := (p.startUpdate source).1, requests := [(p.startUpdate source).2] } =
      { s with
        playground := { p with gate := p.gate.issue.2 }
        inFlight := ⟨p.gate.issued + 1, source, p.format⟩ :: s.inFlight } := rfl

theorem deliver_of_newer {s : Scene ω} {u : Started} (h : s.playground.gate.applied < u.generation)
    (outcome : UpdateOutcome) (now : Nat) :
    s.deliver outlet u outcome now =
      { playground :=
          { s.playground with gate := { s.playground.gate with applied := u.generation } }
        world := outlet.present (u.report outcome) s.world
        inFlight := s.inFlight.erase u
        delivered := (u.generation, u.report outcome) :: s.delivered } := by
  simp only [deliver, Playground.handle, Playground.finish, GenerationGate.accept, if_pos h]
  rfl

theorem deliver_of_stale {s : Scene ω} {u : Started} (h : ¬s.playground.gate.applied < u.generation)
    (outcome : UpdateOutcome) (now : Nat) :
    s.deliver outlet u outcome now =
      { playground :=
          { s.playground with
            gate := { s.playground.gate with discarded := s.playground.gate.discarded + 1 } }
        world := s.world
        inFlight := s.inFlight.erase u
        delivered := (u.generation, u.report outcome) :: s.delivered } := by
  simp only [deliver, Playground.handle, Playground.finish, GenerationGate.accept, if_neg h]
  rfl

theorem inFlight_deliver (s : Scene ω) (u : Started) (outcome : UpdateOutcome) (now : Nat) :
    (s.deliver outlet u outcome now).inFlight = s.inFlight.erase u := by
  by_cases h : s.playground.gate.applied < u.generation
  · rw [deliver_of_newer outlet h]
  · rw [deliver_of_stale outlet h]

theorem delivered_deliver (s : Scene ω) (u : Started) (outcome : UpdateOutcome) (now : Nat) :
    (s.deliver outlet u outcome now).delivered = (u.generation, u.report outcome) :: s.delivered := by
  by_cases h : s.playground.gate.applied < u.generation
  · rw [deliver_of_newer outlet h]
  · rw [deliver_of_stale outlet h]

/-- An update is on its way, or its report has been delivered. -/
def Knows (s : Scene ω) (u : Started) : Prop :=
  u ∈ s.inFlight ∨ ∃ outcome, (u.generation, u.report outcome) ∈ s.delivered

theorem knows_deliver {s : Scene ω} {u : Started} (hu : u ∈ s.inFlight) (outcome : UpdateOutcome)
    (now : Nat) (v : Started) : (s.deliver outlet u outcome now).Knows v ↔ s.Knows v := by
  unfold Knows
  rw [inFlight_deliver, delivered_deliver]
  constructor
  · rintro (h | ⟨o, h⟩)
    · exact Or.inl (List.mem_of_mem_erase h)
    · rcases List.mem_cons.1 h with heq | hold
      · obtain ⟨generation, source, format⟩ := v
        simp only [Started.report, Prod.mk.injEq, UpdateReport.mk.injEq] at heq
        obtain ⟨rfl, rfl, rfl, -⟩ := heq
        exact Or.inl hu
      · exact Or.inr ⟨o, hold⟩
  · rintro (h | ⟨o, h⟩)
    · -- the one that is delivered leaves the list but is known by its report
      by_cases heq : v = u
      · subst heq
        exact Or.inr ⟨outcome, List.mem_cons_self⟩
      · exact Or.inl ((List.mem_erase_of_ne heq).2 h)
    · exact Or.inr ⟨o, List.mem_cons_of_mem _ h⟩

end Scene

/-- A step leaves the counters alone and paints or does nothing, or it starts an update, or it delivers
a report. -/
theorem Step.cases {ω : Type} {outlet : Outlet ω} {s t : Scene ω} (h : Step outlet s t) :
    (∃ p : Playground, p.gate = s.playground.gate ∧
      (t = { s with playground := p } ∨
        t = { s with playground := p, world := outlet.perform s.world p.paint })) ∨
    (∃ (p : Playground) (source : String), p.gate = s.playground.gate ∧
      t = { s with
        playground := { p with gate := p.gate.issue.2 }
        inFlight := ⟨p.gate.issued + 1, source, p.format⟩ :: s.inFlight }) ∨
    ∃ u ∈ s.inFlight, ∃ outcome now, t = s.deliver outlet u outcome now := by
  cases h with
  | change text now =>
    refine Or.inl ?_
    rw [Playground.handle]
    rcases s.playground.changeSource_cases text now with hsame | ⟨after, hstep, hgate⟩
    · rw [hsame]
      exact ⟨s.playground, rfl, Or.inl rfl⟩
    · rw [hstep]
      exact ⟨after, hgate, Or.inr rfl⟩
  | choose format now =>
    exact Or.inr (Or.inl ⟨{ s.playground with
      format, debouncer := s.playground.debouncer.cancel.2 }, _, rfl, rfl⟩)
  | wake now =>
    rcases s.playground.wake_spec now with hidle | ⟨waiting, debouncer, -, -, hstep⟩
    · rw [hidle]
      exact Or.inl ⟨s.playground, rfl, Or.inl rfl⟩
    · rw [hstep]
      exact Or.inr (Or.inl ⟨{ s.playground with debouncer }, _, rfl, rfl⟩)
  | deliver u started outcome now => exact Or.inr (Or.inr ⟨u, started, outcome, now, rfl⟩)

/-- A sink shows the four documents of a report. -/
def MemorySink.Shows (m : MemorySink) (report : UpdateReport) : Prop :=
  ∀ e ∈ (PanelDocuments.ofReport report).shows, m.latest e.1 = some e.2

theorem MemorySink.latest_put_of_ne (m : MemorySink) {pane other : Pane} (h : other ≠ pane)
    (document : String) : (m.put pane document).latest other = m.latest other := if_neg h

theorem MemorySink.Shows.put_editor {m : MemorySink} {report : UpdateReport} (h : m.Shows report)
    (document : String) : (m.put .editor document).Shows report := by
  intro e he
  have hne : e.1 ≠ .editor := by
    simp only [PanelDocuments.shows, List.mem_cons, List.not_mem_nil, or_false] at he
    rcases he with rfl | rfl | rfl | rfl <;> simp
  rw [latest_put_of_ne m hne]
  exact h e he

theorem MemorySink.shows_foldl (m : MemorySink) (report : UpdateReport) :
    ((PanelDocuments.ofReport report).shows.foldl (fun m e => m.put e.1 e.2) m).Shows report := by
  intro e he
  simp only [PanelDocuments.shows, List.mem_cons, List.not_mem_nil, or_false] at he
  rcases he with rfl | rfl | rfl | rfl <;> simp [PanelDocuments.shows, put]

namespace Outlet
variable {ω : Type}

/-- No document fails to be shown. -/
def AlwaysShows (outlet : Outlet ω) : Prop :=
  ∀ w pane document, (outlet.put w pane document).2 = .ok ()

/-- The outlet with a memory of the documents that were shown. -/
def mirrored (outlet : Outlet ω) : Outlet (ω × MemorySink) where
  put w pane document :=
    match outlet.put w.1 pane document with
    | (v, .ok ()) => ((v, w.2.put pane document), .ok ())
    | (v, .error e) => ((v, w.2), .error e)
  set w key value :=
    let done := outlet.set w.1 key value
    ((done.1, w.2), done.2)

variable {outlet : Outlet ω} (h : outlet.AlwaysShows)
include h

theorem put_mirrored (w : ω × MemorySink) (pane : Pane) (document : String) :
    outlet.mirrored.put w pane document =
      (((outlet.put w.1 pane document).1, w.2.put pane document), .ok ()) := by
  have hput := h w.1 pane document
  unfold mirrored
  dsimp only
  generalize outlet.put w.1 pane document = done at hput
  obtain ⟨v, result⟩ := done
  obtain rfl : result = .ok () := hput
  rfl

theorem showAll_mirrored (documents : List (Pane × String)) (w : ω × MemorySink) :
    (showAll outlet.mirrored.put documents w).1.2 =
      documents.foldl (fun m e => m.put e.1 e.2) w.2 := by
  induction documents generalizing w with
  | nil => rfl
  | cons e documents ih =>
    rw [showAll, put_mirrored h]
    exact ih _

/-- A presented report is on display, whatever becomes of the session. -/
theorem shows_present (report : UpdateReport) (w : ω × MemorySink) :
    (outlet.mirrored.present report w).2.Shows report := by
  have hshown := showAll_mirrored h (PanelDocuments.ofReport report).shows w
  have hm := w.2.shows_foldl report
  rw [← hshown] at hm
  exact Session.saveWith_induction (motive := fun v : ω × MemorySink => v.2.Shows report)
    (fun _ _ _ hs => hs) hm report.source report.format.tag

theorem shows_paint {report : UpdateReport} {w : ω × MemorySink} (hw : w.2.Shows report)
    (p : Playground) : (outlet.mirrored.perform w p.paint).2.Shows report := by
  unfold Playground.paint perform
  dsimp only
  rw [put_mirrored h]
  exact hw.put_editor _

end Outlet
end LiveMarkup
