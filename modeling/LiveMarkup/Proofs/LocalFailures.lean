import LiveMarkup.Proofs.Deliveries
import LiveMarkup.Proofs.EditorPane
import LiveMarkup.Proofs.SessionSaving

/-! # Failures stay local

A display and a store with states of their own stand side by side behind the playground. Which of their
calls fail, and what a failed call leaves behind, is up to them. The requests of a run are the same
whatever fails, and each request acts on the display and on the store separately: so a failure of the one
reaches neither the playground nor the other.
-/
namespace LiveMarkup
variable {ω ω' δ δ' σ σ' : Type}

/-- How a display with a state of its own shows documents. -/
abbrev PaneSink (δ : Type) := δ → Pane → String → δ × Except IoError Unit

/-- How a store with a state of its own sets values. -/
abbrev ValueStore (σ : Type) := σ → String → String → σ × Except StoreError Unit

namespace PaneSink

/-- What a request leaves of the display: the documents of a report are shown up to the first failure. -/
def perform (sink : PaneSink δ) (d : δ) : Request → δ
  | .paint document => (sink d .editor document).1
  | .update .. => d
  | .present report => (showAll sink (PanelDocuments.ofReport report).shows d).1

end PaneSink

namespace ValueStore

/-- What a request leaves of the store: only a report is saved, its format if its source could be. -/
def perform (store : ValueStore σ) (k : σ) : Request → σ
  | .paint _ | .update .. => k
  | .present report => (Session.saveWith store k report.source report.format.tag).1

end ValueStore

namespace Outlet

variable (sink : PaneSink δ) (store : ValueStore σ)

theorem showAll_apart (documents : List (Pane × String)) (d : δ) (k : σ) :
    showAll (apart sink store).put documents (d, k) = (showAll sink documents d).map (·, k) id := by
  induction documents generalizing d with
  | nil => rfl
  | cons e documents ih =>
    have hput : (apart sink store).put (d, k) e.1 e.2 = (sink d e.1 e.2).map (·, k) id := rfl
    rw [showAll, showAll, hput]
    generalize sink d e.1 e.2 = done
    obtain ⟨after, _ | _⟩ := done
    · rfl
    · exact ih after

theorem saveWith_apart (d : δ) (k : σ) (source format : String) :
    Session.saveWith (apart sink store).set (d, k) source format =
      (Session.saveWith store k source format).map (d, ·) id :=
  Session.saveWith_map (fun k => (d, k)) (fun _ _ _ => rfl) k source format

/-- A request acts on the display and on the store separately. -/
theorem perform_apart (w : δ × σ) (q : Request) :
    (apart sink store).perform w q = (sink.perform w.1 q, store.perform w.2 q) := by
  obtain ⟨d, k⟩ := w
  cases q with
  | paint document => rfl
  | update => rfl
  | present report =>
    have hshown := showAll_apart sink store (PanelDocuments.ofReport report).shows d k
    have hsaved := saveWith_apart sink store
      (showAll sink (PanelDocuments.ofReport report).shows d).1 k report.source report.format.tag
    show (apart sink store).present report (d, k) = _
    rw [present, hshown]
    exact congrArg Prod.fst hsaved

theorem foldl_perform_apart (requests : List Request) (w : δ × σ) :
    requests.foldl (apart sink store).perform w =
      (requests.foldl sink.perform w.1, requests.foldl store.perform w.2) := by
  induction requests generalizing w with
  | nil => rfl
  | cons q requests ih => rw [List.foldl_cons, ih, perform_apart]; rfl

end Outlet

namespace Scene

/-- The requests that are carried out during moves, in their order. -/
def requests (outlet : Outlet ω) : Scene ω → List Move → List Request
  | _, [] => []
  | s, m :: moves => (m.step s.playground).requests ++ requests outlet (s.move outlet m) moves

/-- The playgrounds that moves lead through, from the first to the last. -/
def playgrounds (outlet : Outlet ω) : Scene ω → List Move → List Playground
  | s, [] => [s.playground]
  | s, m :: moves => s.playground :: playgrounds outlet (s.move outlet m) moves

section
variable (outlet : Outlet ω) (outlet' : Outlet ω')

theorem world_take (s : Scene ω) (step : PlaygroundStep) :
    (s.take outlet step).world = step.requests.foldl outlet.perform s.world := by
  unfold take
  have hcarried : ∀ t : Scene ω, (step.requests.foldl (carryOut outlet) t).world =
      step.requests.foldl outlet.perform t.world := by
    intro t
    induction step.requests generalizing t with
    | nil => rfl
    | cons q requests ih =>
      have hworld : (t.carryOut outlet q).world = outlet.perform t.world q := by cases q <;> rfl
      rw [List.foldl_cons, ih, hworld, List.foldl_cons]
  exact hcarried _

theorem world_move (s : Scene ω) (m : Move) :
    (s.move outlet m).world = (m.step s.playground).requests.foldl outlet.perform s.world := by
  cases m <;> exact world_take outlet _ _

/-- Display and store see nothing of a run but its requests. -/
theorem world_through (s : Scene ω) (moves : List Move) :
    (s.through outlet moves).world = (s.requests outlet moves).foldl outlet.perform s.world := by
  induction moves generalizing s with
  | nil => rfl
  | cons m moves ih =>
    rw [requests, List.foldl_append, ← world_move]
    exact ih _

/-- Over another outlet the same moves lead to the same scene in another world. -/
theorem through_inWorld (s : Scene ω) (w : ω') (moves : List Move) :
    ∃ w', (s.inWorld w).through outlet' moves = (s.through outlet moves).inWorld w' := by
  induction moves generalizing s w with
  | nil => exact ⟨w, rfl⟩
  | cons m moves ih =>
    obtain ⟨w₁, hmove⟩ := move_inWorld outlet outlet' s w m
    obtain ⟨w₂, hthrough⟩ := ih (s.move outlet m) w₁
    refine ⟨w₂, ?_⟩
    rw [through, List.foldl_cons, hmove]
    exact hthrough

theorem requests_inWorld (s : Scene ω) (w : ω') (moves : List Move) :
    (s.inWorld w).requests outlet' moves = s.requests outlet moves := by
  induction moves generalizing s w with
  | nil => rfl
  | cons m moves ih =>
    obtain ⟨w', hmove⟩ := move_inWorld outlet outlet' s w m
    rw [requests, requests, hmove, ih]
    rfl

theorem playgrounds_inWorld (s : Scene ω) (w : ω') (moves : List Move) :
    (s.inWorld w).playgrounds outlet' moves = s.playgrounds outlet moves := by
  induction moves generalizing s w with
  | nil => rfl
  | cons m moves ih =>
    obtain ⟨w', hmove⟩ := move_inWorld outlet outlet' s w m
    rw [playgrounds, playgrounds, hmove, ih]
    rfl

end

end Scene

/-- What a run is given whatever fails: what the playground starts with, and the moves with their times. -/
structure Course where
  lexer : Lexer
  styles : StyleMap
  source : String
  format : Format
  window : Nat
  moves : List Move

namespace Course
variable (c : Course)

def opening (outlet : Outlet ω) (w : ω) : Scene ω :=
  .opening outlet c.lexer c.styles c.source c.format c.window w

/-- The scene that a course leads to over an outlet. -/
def scene (outlet : Outlet ω) (w : ω) : Scene ω := (c.opening outlet w).through outlet c.moves

/-- The requests that are carried out in a course over an outlet. -/
def requests (outlet : Outlet ω) (w : ω) : List Request :=
  (Playground.new c.lexer c.styles c.source c.format c.window).begin.requests ++
    (c.opening outlet w).requests outlet c.moves

/-- The playgrounds of a course over an outlet, from the one before the first move to the last. -/
def playgrounds (outlet : Outlet ω) (w : ω) : List Playground :=
  (c.opening outlet w).playgrounds outlet c.moves

theorem world_scene (outlet : Outlet ω) (w : ω) :
    (c.scene outlet w).world = (c.requests outlet w).foldl outlet.perform w := by
  have hopening : (c.opening outlet w).world = _ := Scene.world_take outlet _ _
  rw [scene, Scene.world_through, hopening, requests, List.foldl_append]

/-- What becomes of a display and of a store is a matter of the requests and of each of them alone. -/
theorem world_apart (sink : PaneSink δ) (store : ValueStore σ) (d : δ) (k : σ) :
    let requests := c.requests (.apart sink store) (d, k)
    (c.scene (.apart sink store) (d, k)).world =
      (requests.foldl sink.perform d, requests.foldl store.perform k) := by
  intro requests
  rw [c.world_scene, Outlet.foldl_perform_apart]

section
variable (outlet : Outlet ω) (outlet' : Outlet ω') (w : ω) (w' : ω')

theorem opening_inWorld : ∃ v, c.opening outlet' w' = (c.opening outlet w).inWorld v :=
  Scene.take_inWorld outlet outlet'
    ⟨.new c.lexer c.styles c.source c.format c.window, w, [], []⟩ w' _

theorem scene_inWorld : ∃ v, c.scene outlet' w' = (c.scene outlet w).inWorld v := by
  obtain ⟨v, hopening⟩ := c.opening_inWorld outlet outlet' w w'
  rw [scene, hopening]
  exact Scene.through_inWorld outlet outlet' _ v c.moves

/-- What is asked for does not depend on what becomes of it. -/
theorem requests_eq : c.requests outlet' w' = c.requests outlet w := by
  obtain ⟨v, hopening⟩ := c.opening_inWorld outlet outlet' w w'
  rw [requests, hopening, Scene.requests_inWorld outlet, requests]

theorem playgrounds_eq : c.playgrounds outlet' w' = c.playgrounds outlet w := by
  obtain ⟨v, hopening⟩ := c.opening_inWorld outlet outlet' w w'
  rw [playgrounds, hopening, Scene.playgrounds_inWorld outlet, playgrounds]

end
end Course

/-- Two runs with the same events, deliveries and times over any two displays and any two stores, which
may fail in any of their calls, go through the same playgrounds, with the same text, markup, format,
debouncer and gate each, and ask for the same updates, paintings and presentations in the same order. The
same updates are on their way in the end. What becomes of a store does not depend on the display beside
it, and what becomes of a display does not depend on the store. -/
theorem failures_stay_local (c : Course) (sink : PaneSink δ) (sink' : PaneSink δ')
    (store : ValueStore σ) (store' : ValueStore σ') (d : δ) (d' : δ') (k : σ) (k' : σ') :
    c.playgrounds (.apart sink store) (d, k) = c.playgrounds (.apart sink' store') (d', k') ∧
    c.requests (.apart sink store) (d, k) = c.requests (.apart sink' store') (d', k') ∧
    (c.scene (.apart sink store) (d, k)).inFlight =
      (c.scene (.apart sink' store') (d', k')).inFlight ∧
    (c.scene (.apart sink store) (d, k)).world.2 = (c.scene (.apart sink' store) (d', k)).world.2 ∧
    (c.scene (.apart sink store) (d, k)).world.1 = (c.scene (.apart sink store') (d, k')).world.1 := by
  obtain ⟨v, hrun⟩ := c.scene_inWorld (.apart sink store) (.apart sink' store') (d, k) (d', k')
  refine ⟨c.playgrounds_eq _ _ _ _, c.requests_eq _ _ _ _, ?_, ?_, ?_⟩
  · rw [hrun]
    rfl
  · have hrequests := c.requests_eq (.apart sink store) (.apart sink' store) (d, k) (d', k)
    rw [c.world_apart, c.world_apart, hrequests]
  · have hrequests := c.requests_eq (.apart sink store) (.apart sink store') (d, k) (d, k')
    rw [c.world_apart, c.world_apart, hrequests]

end LiveMarkup
