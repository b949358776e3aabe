import LiveMarkup.Proofs.Deliveries
import LiveMarkup.Proofs.Moves

/-! # Watched outlets

A watched outlet keeps notes beside the state of another one. A view that forgets the notes takes its
calls to the calls of the other outlet, and with them requests, moves and openings.
-/
namespace LiveMarkup
variable {ω ω' : Type} {watched : Outlet ω'} {outlet : Outlet ω} {view : ω' → ω}

/-- Under the view, a call leaves behind and answers what the call of the other outlet does. -/
structure Outlet.SeenAs (watched : Outlet ω') (view : ω' → ω) (outlet : Outlet ω) : Prop where
  put : ∀ w pane document,
    outlet.put (view w) pane document = (watched.put w pane document).map view id
  set : ∀ w key value, outlet.set (view w) key value = (watched.set w key value).map view id

def Scene.seen (view : ω' → ω) (s : Scene ω') : Scene ω := s.inWorld (view s.world)

namespace Outlet.SeenAs

theorem showAll_eq (h : watched.SeenAs view outlet) (documents : List (Pane × String)) (w : ω') :
    showAll outlet.put documents (view w) = (showAll watched.put documents w).map view id := by
  induction documents generalizing w with
  | nil => rfl
  | cons e documents ih =>
    rw [showAll, showAll, h.put]
    generalize watched.put w e.1 e.2 = done
    obtain ⟨v, _ | _⟩ := done
    · rfl
    · exact ih v

theorem present_eq (h : watched.SeenAs view outlet) (report : UpdateReport) (w : ω') :
    outlet.present report (view w) = view (watched.present report w) := by
  have hsaved := Session.saveWith_map view h.set
    (showAll watched.put (PanelDocuments.ofReport report).shows w).1 report.source report.format.tag
  unfold present
  rw [h.showAll_eq]
  exact congrArg Prod.fst hsaved

theorem perform_eq (h : watched.SeenAs view outlet) (w : ω') (q : Request) :
    outlet.perform (view w) q = view (watched.perform w q) := by
  cases q with
  | paint document => exact congrArg Prod.fst (h.put w .editor document)
  | update => rfl
  | present report => exact h.present_eq report w

theorem carryOut_eq (h : watched.SeenAs view outlet) (s : Scene ω') (q : Request) :
    (s.seen view).carryOut outlet q = (s.carryOut watched q).seen view := by
  have hworld : (s.carryOut watched q).world = watched.perform s.world q := by cases q <;> rfl
  rw [Scene.seen, Scene.carryOut_inWorld watched, h.perform_eq, ← hworld]
  rfl

theorem take_eq (h : watched.SeenAs view outlet) (s : Scene ω') (step : PlaygroundStep) :
    (s.seen view).take outlet step = (s.take watched step).seen view := by
  have hrequests : ∀ (requests : List Request) (t : Scene ω'),
      requests.foldl (Scene.carryOut outlet) (t.seen view) =
        (requests.foldl (Scene.carryOut watched) t).seen view := by
    intro requests
    induction requests with
    | nil => exact fun t => rfl
    | cons q requests ih =>
      intro t
      rw [List.foldl_cons, List.foldl_cons, h.carryOut_eq]
      exact ih _
  exact hrequests step.requests { s with playground := step.after }

theorem move_eq (h : watched.SeenAs view outlet) (s : Scene ω') (m : Move) :
    (s.seen view).move outlet m = (s.move watched m).seen view := by
  cases m with
  | change text now => exact h.take_eq s _
  | choose format now => exact h.take_eq s _
  | wake now => exact h.take_eq s _
  | deliver u outcome now =>
    exact h.take_eq { s with
      inFlight := s.inFlight.erase u
      delivered := (u.generation, u.report outcome) :: s.delivered } _

theorem opening_eq (h : watched.SeenAs view outlet) (lexer : Lexer) (styles : StyleMap)
    (source : String) (format : Format) (window : Nat) (w : ω') :
    Scene.opening outlet lexer styles source format window (view w) =
      (Scene.opening watched lexer styles source format window w).seen view :=
  h.take_eq ⟨.new lexer styles source format window, w, [], []⟩ _

end Outlet.SeenAs
end LiveMarkup
