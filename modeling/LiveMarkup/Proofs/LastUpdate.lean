import LiveMarkup.Proofs.Interleaving

/-! # The last update is not lost

The newest update is about the current text, unless that text still waits in the debouncer, and about
the current format. Once nothing waits and nothing is on its way, the newest update is the one that was
applied and that is on display.
-/
namespace LiveMarkup
variable {ω : Type}

/-- The generations of what was started and delivered lie between the counters of the gate, and the
report that was applied last is on display. -/
structure Ordered (s : Scene (ω × MemorySink)) : Prop where
  known : ∀ u, s.Knows u → 0 < u.generation ∧ u.generation ≤ s.playground.gate.issued
  applied : s.playground.gate.applied ≤ s.playground.gate.issued
  delivered : ∀ d ∈ s.delivered, d.1 ≤ s.playground.gate.applied
  shown : s.playground.gate.applied = 0 ∨
    ∃ report, (s.playground.gate.applied, report) ∈ s.delivered ∧ s.world.2.Shows report

/-- The newest update is about the current text or that text is pending, and it has the current
format. -/
structure Newest (s : Scene ω) : Prop where
  subscribed : s.playground.editor.subscriptions ≠ []
  pending : ∀ waiting, s.playground.debouncer.pending = some waiting →
    waiting.payload = s.playground.surface.text
  started : ∃ u, s.Knows u ∧ u.generation = s.playground.gate.issued
  current : ∀ u, s.Knows u → u.generation = s.playground.gate.issued →
    u.format = s.playground.format ∧
      (s.playground.debouncer.pending = none → u.source = s.playground.surface.text)

theorem ordered_nothing {p : Playground} (w : ω × MemorySink) (h : p.gate = {}) :
    Ordered ⟨p, w, [], []⟩ where
  known := by
    rintro u (m | ⟨outcome, m⟩)
    · exact absurd m List.not_mem_nil
    · exact absurd m List.not_mem_nil
  applied := by rw [h]
  delivered := fun d hd => absurd hd List.not_mem_nil
  shown := Or.inl (by rw [h])

theorem Newest.startUpdate {s : Scene ω}
    (known : ∀ u, s.Knows u → u.generation ≤ s.playground.gate.issued) {p : Playground}
    (hgate : p.gate = s.playground.gate) (hsub : p.editor.subscriptions ≠ [])
    (hnone : p.debouncer.pending = none) :
    Newest { s with
      playground := { p with gate := p.gate.issue.2 }
      inFlight := ⟨p.gate.issued + 1, p.surface.text, p.format⟩ :: s.inFlight } where
  subscribed := hsub
  pending := fun waiting hw => by simp [hnone] at hw
  started := ⟨_, Or.inl List.mem_cons_self, rfl⟩
  current := by
    intro u hu hgen
    have hnew : u = ⟨p.gate.issued + 1, p.surface.text, p.format⟩ := by
      -- any other update was known before, so its generation is smaller
      by_contra hne
      have hold : s.Knows u := hu.imp_left fun m => (List.mem_cons.1 m).resolve_left hne
      have hle := known u hold
      rw [← hgate] at hle
      rw [hgen] at hle
      exact Nat.not_succ_le_self _ hle
    rw [hnew]
    exact ⟨rfl, fun _ => rfl⟩

theorem Ordered.startUpdate {s : Scene (ω × MemorySink)} (h : Ordered s) {p : Playground}
    (hgate : p.gate = s.playground.gate) (source : String) (format : Format) :
    Ordered { s with
      playground := { p with gate := p.gate.issue.2 }
      inFlight := ⟨p.gate.issued + 1, source, format⟩ :: s.inFlight } where
  known := by
    rw [hgate]
    rintro u (m | hd)
    · rcases List.mem_cons.1 m with rfl | m
      · exact ⟨Nat.succ_pos _, le_rfl⟩
      · exact ⟨(h.known u (Or.inl m)).1, Nat.le_succ_of_le (h.known u (Or.inl m)).2⟩
    · exact ⟨(h.known u (Or.inr hd)).1, Nat.le_succ_of_le (h.known u (Or.inr hd)).2⟩
  applied := by
    rw [hgate]
    exact Nat.le_succ_of_le h.applied
  delivered := by
    rw [hgate]
    exact h.delivered
  shown := by
    rw [hgate]
    exact h.shown

/-- A delivery is turned away or takes the display over. -/
theorem Ordered.deliver {outlet : Outlet ω} (hput : outlet.AlwaysShows)
    {s : Scene (ω × MemorySink)} (h : Ordered s) {u : Started} (hu : u ∈ s.inFlight)
    (outcome : UpdateOutcome) (now : Nat) : Ordered (s.deliver outlet.mirrored u outcome now) := by
  have hknown := fun v => (Scene.knows_deliver outlet.mirrored hu outcome now v).1
  have hgen := h.known u (Or.inl hu)
  by_cases hnew : s.playground.gate.applied < u.generation
  · rw [Scene.deliver_of_newer _ hnew] at hknown ⊢
    refine ⟨fun v hv => h.known v (hknown v hv), hgen.2, ?_, Or.inr ?_⟩
    · intro d hd
      rcases List.mem_cons.1 hd with rfl | hd
      · exact le_rfl
      · exact (h.delivered d hd).trans (Nat.le_of_lt hnew)
    · exact ⟨u.report outcome, List.mem_cons_self, Outlet.shows_present hput _ _⟩
  · rw [Scene.deliver_of_stale _ hnew] at hknown ⊢
    refine ⟨fun v hv => h.known v (hknown v hv), h.applied, ?_, ?_⟩
    · intro d hd
      rcases List.mem_cons.1 hd with rfl | hd
      · exact Nat.le_of_not_lt hnew
      · exact h.delivered d hd
    · exact h.shown.imp_right fun ⟨report, hd, hs⟩ => ⟨report, List.mem_cons_of_mem _ hd, hs⟩

theorem Newest.deliver {outlet : Outlet ω} {s : Scene ω} (h : Newest s) {u : Started}
    (hu : u ∈ s.inFlight) (outcome : UpdateOutcome) (now : Nat) :
    Newest (s.deliver outlet u outcome now) := by
  have hknown := Scene.knows_deliver outlet hu outcome now
  obtain ⟨v, hv, hgen⟩ := h.started
  have hv' := (hknown v).2 hv
  by_cases hnew : s.playground.gate.applied < u.generation
  · rw [Scene.deliver_of_newer _ hnew] at hknown hv' ⊢
    exact ⟨h.subscribed, h.pending, ⟨v, hv', hgen⟩, fun w hw => h.current w ((hknown w).1 hw)⟩
  · rw [Scene.deliver_of_stale _ hnew] at hknown hv' ⊢
    exact ⟨h.subscribed, h.pending, ⟨v, hv', hgen⟩, fun w hw => h.current w ((hknown w).1 hw)⟩

/-- What an event loop keeps: the order of its updates, and that the newest is current. -/
def Sound (s : Scene (ω × MemorySink)) : Prop := Ordered s ∧ Newest s

theorem Sound.startUpdate {s : Scene (ω × MemorySink)} (h : Ordered s) {p : Playground}
    (hgate : p.gate = s.playground.gate) (hsub : p.editor.subscriptions ≠ [])
    (hnone : p.debouncer.pending = none) :
    Sound { s with
      playground := { p with gate := p.gate.issue.2 }
      inFlight := ⟨p.gate.issued + 1, p.surface.text, p.format⟩ :: s.inFlight } :=
  ⟨h.startUpdate hgate _ _, Newest.startUpdate (fun u hu => (h.known u hu).2) hgate hsub hnone⟩

section
variable {outlet : Outlet ω} (hput : outlet.AlwaysShows)
include hput

theorem Sound.change {s : Scene (ω × MemorySink)} (h : Sound s) (text : String) (now : Nat) :
    Sound (s.take outlet.mirrored (s.playground.changeSource text now)) := by
  obtain ⟨hord, hnew⟩ := h
  rcases Playground.changeSource_spec hnew.subscribed text now with
    hsame | ⟨after, hstep, hsub, htext, hformat, hgate, hpending⟩
  · rw [hsame, Scene.take_nil]
    exact ⟨hord, hnew⟩
  · rw [hstep, Scene.take_paint]
    refine ⟨⟨?_, ?_, ?_, ?_⟩, ⟨?_, ?_, ?_, ?_⟩⟩
    · exact hgate ▸ hord.known
    · exact hgate ▸ hord.applied
    · exact hgate ▸ hord.delivered
    · dsimp only
      rw [hgate]
      exact hord.shown.imp_right fun ⟨report, hd, hs⟩ =>
        ⟨report, hd, Outlet.shows_paint hput hs after⟩
    · exact hsub ▸ hnew.subscribed
    · intro waiting hw
      obtain rfl := Option.some.inj (hpending.symm.trans hw)
      exact htext.symm
    · exact hgate ▸ hnew.started
    · -- the new text is pending, so nothing is said of the source
      intro u hu hgen
      refine ⟨?_, fun hnone => ?_⟩
      · dsimp only at hgen ⊢
        rw [hformat]
        exact (hnew.current u hu (hgate ▸ hgen)).1
      · rw [hpending] at hnone
        exact absurd hnone (Option.some_ne_none _)

theorem Sound.step {s t : Scene (ω × MemorySink)} (h : Sound s) (hst : Step outlet.mirrored s t) :
    Sound t := by
  cases hst with
  | change text now => exact h.change hput text now
  | choose format now =>
    -- the pending text is taken back, but it is the current text and is updated at once
    exact .startUpdate h.1 (p := { s.playground with
      format, debouncer := s.playground.debouncer.cancel.2 }) rfl h.2.subscribed
      (Debouncer.pending_cancel _)
  | wake now =>
    rcases s.playground.wake_spec now with hidle | ⟨waiting, debouncer, hpending, hnone, hstep⟩
    · rw [hidle, Scene.take_nil]
      exact h
    · rw [hstep, Scene.take_startUpdate, h.2.pending waiting hpending]
      exact .startUpdate h.1 (p := { s.playground with debouncer }) rfl h.2.subscribed hnone
  | deliver u started outcome now =>
    exact ⟨h.1.deliver hput started outcome now, h.2.deliver started outcome now⟩

theorem Reachable.sound {s : Scene (ω × MemorySink)} (h : Reachable outlet.mirrored s) : Sound s := by
  induction h with
  | start lexer styles source format window w =>
    set p := Playground.new lexer styles source format window with hp
    set first : Playground := { p with surface := p.editor.render p.surface } with hfirst
    have hbegin := ordered_nothing (p := first) (outlet.mirrored.perform w first.paint) rfl
    exact .startUpdate hbegin (p := first) rfl (List.cons_ne_nil _ _) rfl
  | step _ hst ih => exact ih.step hput hst

end

end LiveMarkup
