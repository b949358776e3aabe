import LiveMarkup.Proofs.LastUpdate
import LiveMarkup.Proofs.Moves

/-! # Deliveries

Which updates are on their way and which reports are delivered does not depend on what becomes of the
documents and of the session. Every update is delivered under a generation of its own, and the gate lets
through those deliveries that are newer than all before them.
-/
namespace LiveMarkup
variable {ω ω' : Type}

namespace Scene

/-- The scene with another state of display and store. -/
def inWorld (s : Scene ω) (w : ω') : Scene ω' := ⟨s.playground, w, s.inFlight, s.delivered⟩

theorem carryOut_inWorld (outlet : Outlet ω) (outlet' : Outlet ω') (s : Scene ω) (w : ω')
    (q : Request) :
    (s.inWorld w).carryOut outlet' q = (s.carryOut outlet q).inWorld (outlet'.perform w q) := by
  cases q <;> rfl

theorem take_inWorld (outlet : Outlet ω) (outlet' : Outlet ω') (s : Scene ω) (w : ω')
    (step : PlaygroundStep) :
    ∃ w', (s.inWorld w).take outlet' step = (s.take outlet step).inWorld w' := by
  obtain ⟨after, requests, ended⟩ := step
  unfold take
  show ∃ w', requests.foldl (carryOut outlet') ({ s with playground := after }.inWorld w) =
    (requests.foldl (carryOut outlet) { s with playground := after }).inWorld w'
  generalize { s with playground := after } = s
  induction requests generalizing s w with
  | nil => exact ⟨w, rfl⟩
  | cons q requests ih =>
    rw [List.foldl_cons, List.foldl_cons, carryOut_inWorld outlet]
    exact ih _ _

/-- Over another outlet the same move leads to the same scene in another world. -/
theorem move_inWorld (outlet : Outlet ω) (outlet' : Outlet ω') (s : Scene ω) (w : ω') (m : Move) :
    ∃ w', (s.inWorld w).move outlet' m = (s.move outlet m).inWorld w' := by
  cases m with
  | deliver u outcome now =>
    exact take_inWorld outlet outlet'
      { s with
        inFlight := s.inFlight.erase u
        delivered := (u.generation, u.report outcome) :: s.delivered } w _
  | _ => exact take_inWorld outlet outlet' s w _

end Scene

/-- Over another outlet the event loop can take the same step. -/
theorem Step.exists_inWorld {outlet : Outlet ω} {s t : Scene ω} (h : Step outlet s t)
    (outlet' : Outlet ω') (w : ω') : ∃ w', Step outlet' (s.inWorld w) (t.inWorld w') := by
  obtain ⟨m, hm, rfl⟩ := step_iff_move.1 h
  obtain ⟨w', hmove⟩ := Scene.move_inWorld outlet outlet' s w m
  have hpossible : m.Possible (s.inWorld w) := by
    cases m with
    | deliver u outcome now => exact hm
    | change | choose | wake => trivial
  exact ⟨w', step_iff_move.2 ⟨m, hpossible, hmove.symm⟩⟩

/-- Over another outlet an event loop comes to the same playgrounds, updates and deliveries. -/
theorem Reachable.exists_inWorld {outlet : Outlet ω} {s : Scene ω} (h : Reachable outlet s)
    (outlet' : Outlet ω') (w : ω') : ∃ w', Reachable outlet' (s.inWorld w') := by
  induction h with
  | start lexer styles source format window v =>
    obtain ⟨w', htake⟩ := Scene.take_inWorld outlet outlet'
      ⟨.new lexer styles source format window, v, [], []⟩ w
      (Playground.new lexer styles source format window).begin
    exact ⟨w', htake ▸ .start lexer styles source format window w⟩
  | step _ hst ih =>
    obtain ⟨w₁, hr⟩ := ih
    obtain ⟨w₂, hst'⟩ := hst.exists_inWorld outlet' w₁
    exact ⟨w₂, hr.step hst'⟩

/-- The generations of what was started lie above zero and up to the last one issued. The gate holds the
greatest generation delivered. -/
structure Counted (s : Scene ω) : Prop where
  known : ∀ u, s.Knows u → 0 < u.generation ∧ u.generation ≤ s.playground.gate.issued
  delivered : ∀ d ∈ s.delivered, d.1 ≤ s.playground.gate.applied
  applied : s.playground.gate.applied = 0 ∨
    ∃ report, (s.playground.gate.applied, report) ∈ s.delivered

theorem Reachable.counted {outlet : Outlet ω} {s : Scene ω} (h : Reachable outlet s) :
    Counted s := by
  let silent : Outlet Unit := ⟨fun w _ _ => (w, .ok ()), fun w _ _ => (w, .ok ())⟩
  obtain ⟨w, hr⟩ := h.exists_inWorld silent.mirrored ((), {})
  obtain ⟨hord, -⟩ := hr.sound fun _ _ _ => rfl
  exact ⟨hord.known, hord.delivered, hord.shown.imp_right fun ⟨report, hd, _⟩ => ⟨report, hd⟩⟩

theorem Counted.applied_lt_iff {s : Scene ω} (h : Counted s) {u : Started} (hu : u ∈ s.inFlight) :
    s.playground.gate.applied < u.generation ↔ ∀ d ∈ s.delivered, d.1 < u.generation := by
  constructor
  · exact fun hlt d hd => (h.delivered d hd).trans_lt hlt
  · intro hall
    rcases h.applied with hzero | ⟨report, hd⟩
    · rw [hzero]
      exact (h.known u (Or.inl hu)).1
    · exact hall _ hd

/-- The generations of the updates on their way and of the delivered reports. -/
def Scene.generations (s : Scene ω) : List Nat :=
  s.inFlight.map Started.generation ++ s.delivered.map Prod.fst

theorem Scene.le_of_mem_generations {s : Scene ω} (h : Counted s) {generation : Nat}
    (hm : generation ∈ s.generations) : generation ≤ s.playground.gate.issued := by
  rcases List.mem_append.1 hm with hm | hm
  · obtain ⟨u, hu, rfl⟩ := List.mem_map.1 hm
    exact (h.known u (Or.inl hu)).2
  · obtain ⟨⟨generation, report⟩, hd, rfl⟩ := List.mem_map.1 hm
    exact (h.known ⟨generation, report.source, report.format⟩ (Or.inr ⟨report.outcome, hd⟩)).2

/-- An update that is started adds the next generation, and a delivery adds none. -/
theorem Step.generations {outlet : Outlet ω} {s t : Scene ω} (h : Step outlet s t) :
    t.generations.Perm s.generations ∨
      t.generations = (s.playground.gate.issued + 1) :: s.generations := by
  rcases h.cases with ⟨p, -, rfl | rfl⟩ | ⟨p, source, hgate, rfl⟩ | ⟨u, started, outcome, now, rfl⟩
  · exact Or.inl (.refl _)
  · exact Or.inl (.refl _)
  · rw [← hgate]
    exact Or.inr rfl
  · refine Or.inl ?_
    have hperm := ((List.perm_cons_erase started).map Started.generation).append_right
      (s.delivered.map Prod.fst)
    unfold Scene.generations
    rw [Scene.inFlight_deliver, Scene.delivered_deliver, List.map_cons]
    exact List.perm_middle.trans hperm.symm

theorem Reachable.nodup_generations {outlet : Outlet ω} {s : Scene ω} (h : Reachable outlet s) :
    s.generations.Nodup := by
  induction h with
  | start lexer styles source format window w => exact List.nodup_singleton _
  | step reached hst ih =>
    rcases hst.generations with hperm | hnew
    · exact hperm.nodup_iff.2 ih
    · rw [hnew, List.nodup_cons]
      exact ⟨fun hm => Nat.not_succ_le_self _ (Scene.le_of_mem_generations reached.counted hm), ih⟩

/-- Deliveries of the same generation are the same delivery. -/
theorem Reachable.eq_of_delivered {outlet : Outlet ω} {s : Scene ω} (h : Reachable outlet s)
    {d e : Nat × UpdateReport} (hd : d ∈ s.delivered) (he : e ∈ s.delivered) (heq : d.1 = e.1) :
    d = e :=
  List.inj_on_of_nodup_map (List.nodup_append.1 h.nodup_generations).2.1 hd he heq

end LiveMarkup
