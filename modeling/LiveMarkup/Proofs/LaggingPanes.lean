import LiveMarkup.Proofs.WatchedOutlets

/-! # Panes that lag behind

When the display fails, the documents of a report reach the first panes only, and the later ones go on
showing older reports. Every document on display is dated with the generation of its report. The main
statement says that the generations do not increase along the panes, that none is greater than the one
applied last, and that no pane goes back to an older report.
-/
namespace LiveMarkup
variable {ω : Type}

/-- What a pane shows, with the generation of the report that the document belongs to. -/
structure Shown where
  generation : Nat := 0
  document : Option String := none

abbrev Screen := Pane → Shown

def Screen.put (generation : Nat) (screen : Screen) (e : Pane × String) : Screen :=
  Function.update screen e.1 ⟨generation, some e.2⟩

/-- The outlet with a memory of what every pane shows, dated with a generation. A document that fails to
be shown leaves its pane as it was. -/
def Outlet.dated (outlet : Outlet ω) (generation : Nat) : Outlet (ω × Screen) where
  put w pane document :=
    match outlet.put w.1 pane document with
    | (v, .ok ()) => ((v, w.2.put generation (pane, document)), .ok ())
    | (v, .error e) => ((v, w.2), .error e)
  set w key value :=
    let done := outlet.set w.1 key value
    ((done.1, w.2), done.2)

/-- The generation that a move delivers, or zero. -/
def Move.generation : Move → Nat
  | deliver u _ _ => u.generation
  | _ => 0

namespace Scene

/-- The scene after a move. What is shown is dated with the generation that the move delivers. -/
def moveDated (outlet : Outlet ω) (s : Scene (ω × Screen)) (m : Move) : Scene (ω × Screen) :=
  s.move (outlet.dated m.generation) m

def throughDated (outlet : Outlet ω) (s : Scene (ω × Screen)) (moves : List Move) :
    Scene (ω × Screen) :=
  moves.foldl (moveDated outlet) s

end Scene

namespace Screen

/-- A pane shows the last of its documents, or what it has shown before. -/
theorem foldl_put (generation : Nat) (shown : List (Pane × String)) (screen : Screen) (pane : Pane) :
    shown.foldl (put generation) screen pane = screen pane ∨
      ∃ document, (pane, document) ∈ shown ∧
        shown.foldl (put generation) screen pane = ⟨generation, some document⟩ := by
  induction shown using List.reverseRecOn with
  | nil => exact Or.inl rfl
  | append_singleton shown e ih =>
    rw [List.foldl_append, List.foldl_cons, List.foldl_nil]
    by_cases he : pane = e.1
    · subst he
      exact Or.inr ⟨e.2, List.mem_append_right _ List.mem_cons_self, Function.update_self ..⟩
    · have hput : put generation (shown.foldl (put generation) screen) e pane =
          shown.foldl (put generation) screen pane := Function.update_of_ne he ..
      rw [hput]
      exact ih.imp_right fun ⟨document, hd, hshown⟩ =>
        ⟨document, List.mem_append_left _ hd, hshown⟩

/-- The generations do not increase along the panes of results. -/
def Ordered (screen : Screen) : Prop :=
  (screen .tokens).generation ≤ (screen .ast).generation ∧
    (screen .ast).generation ≤ (screen .transpiled).generation ∧
    (screen .transpiled).generation ≤ (screen .preview).generation

theorem Ordered.le_preview {screen : Screen} (h : screen.Ordered) {pane : Pane}
    (hpane : pane ≠ .editor) : (screen pane).generation ≤ (screen .preview).generation := by
  obtain ⟨htokens, hast, htranspiled⟩ := h
  cases pane with
  | editor => exact absurd rfl hpane
  | preview => exact le_rfl
  | transpiled => exact htranspiled
  | ast => exact hast.trans htranspiled
  | tokens => exact (htokens.trans hast).trans htranspiled

/-- Newer documents on the first panes keep the order. -/
theorem Ordered.foldl_put {screen : Screen} (h : screen.Ordered) {generation : Nat}
    (hnew : (screen .preview).generation ≤ generation) (documents : PanelDocuments)
    {shown : List (Pane × String)} (hshown : shown <+: documents.shows) :
    (shown.foldl (put generation) screen).Ordered := by
  obtain ⟨htokens, hast, htranspiled⟩ := h
  have htranspiled' := htranspiled.trans hnew
  have hast' := hast.trans htranspiled'
  have htokens' := htokens.trans hast'
  rw [List.prefix_iff_eq_take] at hshown
  rw [hshown]
  -- the beginning holds none, one, two, three or all of the four documents
  rcases shown.length with _ | _ | _ | _ | count
  all_goals simp_all [Ordered, put, PanelDocuments.shows]

end Screen

namespace Outlet
variable (outlet : Outlet ω) (generation : Nat)

theorem seenAs_dated : (outlet.dated generation).SeenAs Prod.fst outlet where
  put w pane document := by
    unfold dated
    dsimp only
    generalize outlet.put w.1 pane document = done
    obtain ⟨v, _ | _⟩ := done <;> rfl
  set _ _ _ := rfl

theorem put_dated_of_ne (w : ω × Screen) {pane other : Pane} (h : other ≠ pane) (document : String) :
    ((outlet.dated generation).put w pane document).1.2 other = w.2 other := by
  unfold dated
  dsimp only
  split
  · exact Function.update_of_ne h ..
  · rfl

/-- Documents are shown up to the first that fails. -/
theorem showAll_dated (documents : List (Pane × String)) (w : ω × Screen) :
    ∃ shown, shown <+: documents ∧
      (showAll (outlet.dated generation).put documents w).1.2 =
        shown.foldl (Screen.put generation) w.2 := by
  induction documents generalizing w with
  | nil => exact ⟨[], List.nil_prefix, rfl⟩
  | cons e documents ih =>
    obtain ⟨pane, document⟩ := e
    rw [showAll]
    have hput : (outlet.dated generation).put w pane document = match outlet.put w.1 pane document with
      | (v, .ok ()) => ((v, w.2.put generation (pane, document)), .ok ())
      | (v, .error e) => ((v, w.2), .error e) := rfl
    rw [hput]
    generalize outlet.put w.1 pane document = done
    obtain ⟨v, _ | _⟩ := done
    · exact ⟨[], List.nil_prefix, rfl⟩
    · obtain ⟨shown, hprefix, hshown⟩ := ih (v, w.2.put generation (pane, document))
      exact ⟨(pane, document) :: shown, List.cons_prefix_cons.2 ⟨rfl, hprefix⟩, hshown⟩

theorem present_dated (report : UpdateReport) (w : ω × Screen) :
    ∃ shown, shown <+: (PanelDocuments.ofReport report).shows ∧
      ((outlet.dated generation).present report w).2 = shown.foldl (Screen.put generation) w.2 := by
  obtain ⟨shown, hprefix, hshown⟩ :=
    outlet.showAll_dated generation (PanelDocuments.ofReport report).shows w
  refine ⟨shown, hprefix, ?_⟩
  exact Session.saveWith_induction
    (motive := fun v : ω × Screen => v.2 = shown.foldl (Screen.put generation) w.2)
    (fun _ _ _ hv => hv) hshown report.source report.format.tag

end Outlet

/-- A pane shows nothing yet, or its document of a delivered report, dated with that report's
generation. -/
def Dated (delivered : List (Nat × UpdateReport)) (pane : Pane) (shown : Shown) : Prop :=
  shown = {} ∨ ∃ report document, (shown.generation, report) ∈ delivered ∧
    (pane, document) ∈ (PanelDocuments.ofReport report).shows ∧ shown.document = some document ∧
    0 < shown.generation

/-- The panes show delivered reports, none is ahead of the generation applied last, and none is ahead of
the panes in front of it. -/
structure Lags (s : Scene (ω × Screen)) : Prop where
  dated : ∀ pane, pane ≠ .editor → Dated s.delivered pane (s.world.2 pane)
  ordered : s.world.2.Ordered
  applied : (s.world.2 .preview).generation ≤ s.playground.gate.applied

/-- No pane of results shows an older report than before. -/
def Advances (s t : Scene (ω × Screen)) : Prop :=
  ∀ pane, pane ≠ .editor → (s.world.2 pane).generation ≤ (t.world.2 pane).generation

section
variable {outlet : Outlet ω} {s t : Scene (ω × Screen)}

theorem Lags.of_same (h : Lags s) (hsame : ∀ pane, pane ≠ .editor → t.world.2 pane = s.world.2 pane)
    (hdelivered : s.delivered ⊆ t.delivered)
    (happlied : t.playground.gate.applied = s.playground.gate.applied) : Lags t ∧ Advances s t := by
  have hpreview := hsame .preview nofun
  refine ⟨⟨fun pane hpane => ?_, ?_, ?_⟩, fun pane hpane => (congrArg _ (hsame pane hpane)).ge⟩
  · rw [hsame pane hpane]
    exact (h.dated pane hpane).imp_right fun ⟨report, document, hd, hrest⟩ =>
      ⟨report, document, hdelivered hd, hrest⟩
  · unfold Screen.Ordered
    rw [hsame .tokens nofun, hsame .ast nofun, hsame .transpiled nofun, hpreview]
    exact h.ordered
  · rw [hpreview, happlied]
    exact h.applied

/-- A delivery is turned away, or it reaches the first panes with a generation of its own. -/
theorem Lags.deliver (h : Lags s) (u : Started) (outcome : UpdateOutcome) (now : Nat) :
    let t := s.deliver (outlet.dated u.generation) u outcome now
    Lags t ∧ Advances s t := by
  intro t
  by_cases hnew : s.playground.gate.applied < u.generation
  · have ht : t = _ := Scene.deliver_of_newer (outlet.dated u.generation) hnew outcome now
    obtain ⟨shown, hprefix, hworld⟩ :=
      outlet.present_dated u.generation (u.report outcome) s.world
    have hpreview : (s.world.2 .preview).generation ≤ u.generation :=
      h.applied.trans (Nat.le_of_lt hnew)
    have hpanes : ∀ pane, t.world.2 pane = s.world.2 pane ∨ ∃ document,
        (pane, document) ∈ (PanelDocuments.ofReport (u.report outcome)).shows ∧
          t.world.2 pane = ⟨u.generation, some document⟩ := by
      intro pane
      rw [ht, hworld]
      exact (Screen.foldl_put u.generation shown s.world.2 pane).imp_right
        fun ⟨document, hd, hshown⟩ => ⟨document, hprefix.subset hd, hshown⟩
    have hdelivered : t.delivered = (u.generation, u.report outcome) :: s.delivered := by rw [ht]
    have happlied : t.playground.gate.applied = u.generation := by rw [ht]
    refine ⟨⟨fun pane hpane => ?_, ?_, ?_⟩, fun pane hpane => ?_⟩
    · rw [hdelivered]
      rcases hpanes pane with hsame | ⟨document, hd, hshown⟩
      · rw [hsame]
        exact (h.dated pane hpane).imp_right fun ⟨report, document, hd, hrest⟩ =>
          ⟨report, document, List.mem_cons_of_mem _ hd, hrest⟩
      · rw [hshown]
        exact Or.inr ⟨u.report outcome, document, List.mem_cons_self, hd, rfl,
          Nat.zero_lt_of_lt hnew⟩
    · rw [ht, hworld]
      exact h.ordered.foldl_put hpreview _ hprefix
    · rw [happlied]
      rcases hpanes .preview with hsame | ⟨document, -, hshown⟩
      · rw [hsame]
        exact hpreview
      · rw [hshown]
    · rcases hpanes pane with hsame | ⟨document, -, hshown⟩
      · rw [hsame]
      · rw [hshown]
        exact (h.ordered.le_preview hpane).trans hpreview
  · have ht : t = _ := Scene.deliver_of_stale (outlet.dated u.generation) hnew outcome now
    rw [ht]
    exact h.of_same (fun _ _ => rfl) (List.subset_cons_self _ _) rfl

theorem Lags.moveDated (h : Lags s) (m : Move) :
    Lags (s.moveDated outlet m) ∧ Advances s (s.moveDated outlet m) := by
  by_cases hm : ∃ u outcome now, m = .deliver u outcome now
  · obtain ⟨u, outcome, now, rfl⟩ := hm
    exact h.deliver u outcome now
  · obtain ⟨hdelivered, happlied, hworld⟩ := s.move_of_not_deliver (outlet.dated m.generation)
      fun u outcome now he => hm ⟨u, outcome, now, he⟩
    have hsubset : s.delivered ⊆ (s.moveDated outlet m).delivered := fun _ hd => hdelivered.symm ▸ hd
    refine h.of_same (fun pane hpane => ?_) hsubset happlied
    unfold Scene.moveDated
    rcases hworld with hsame | ⟨document, hpaint⟩
    · rw [hsame]
    · rw [hpaint]
      exact outlet.put_dated_of_ne m.generation s.world hpane document

theorem Lags.throughDated (h : Lags s) (moves : List Move) : Lags (s.throughDated outlet moves) := by
  induction moves generalizing s with
  | nil => exact h
  | cons m moves ih => exact ih (h.moveDated m).1

/-- The dates change nothing: without them, the same moves lead to the same scenes. -/
theorem seen_throughDated (outlet : Outlet ω) (s : Scene (ω × Screen)) (moves : List Move) :
    (s.throughDated outlet moves).seen Prod.fst = (s.seen Prod.fst).through outlet moves := by
  induction moves generalizing s with
  | nil => rfl
  | cons m moves ih =>
    have hmove : (s.seen Prod.fst).move outlet m = (s.moveDated outlet m).seen Prod.fst :=
      (outlet.seenAs_dated m.generation).move_eq s m
    calc (s.throughDated outlet (m :: moves)).seen Prod.fst
        = ((s.moveDated outlet m).throughDated outlet moves).seen Prod.fst := rfl
      _ = ((s.moveDated outlet m).seen Prod.fst).through outlet moves := ih _
      _ = ((s.seen Prod.fst).move outlet m).through outlet moves := by rw [hmove]

theorem lags_opening (outlet : Outlet ω) (lexer : Lexer) (styles : StyleMap) (source : String)
    (format : Format) (window : Nat) (w : ω) :
    Lags (Scene.opening (outlet.dated 0) lexer styles source format window (w, fun _ => {})) := by
  have hbefore : Lags
      (⟨.new lexer styles source format window, (w, fun _ => {}), [], []⟩ : Scene (ω × Screen)) :=
    ⟨fun _ _ => Or.inl rfl, ⟨le_rfl, le_rfl, le_rfl⟩, le_rfl⟩
  exact (hbefore.of_same
    (t := Scene.opening (outlet.dated 0) lexer styles source format window (w, fun _ => {}))
    (fun pane hpane => outlet.put_dated_of_ne 0 (w, fun _ => {}) hpane _) (List.Subset.refl _) rfl).1

end

/-- Whatever fails to be shown, in every scene that moves lead to each pane of results shows nothing
yet or its document of a delivered report, dated with the generation of that report. These generations
do not increase from the preview to the tokens and are not greater than the one applied last, and no
move takes a pane back to an older one. -/
theorem panes_lag_in_order (outlet : Outlet ω) (lexer : Lexer) (styles : StyleMap) (source : String)
    (format : Format) (window : Nat) (w : ω) (moves : List Move) :
    let opening := Scene.opening (outlet.dated 0) lexer styles source format window (w, fun _ => {})
    let s := opening.throughDated outlet moves
    let generation (pane : Pane) := (s.world.2 pane).generation
    s.seen Prod.fst =
      (Scene.opening outlet lexer styles source format window w).through outlet moves ∧
    (∀ pane, pane ≠ .editor → Dated s.delivered pane (s.world.2 pane)) ∧
    generation .tokens ≤ generation .ast ∧ generation .ast ≤ generation .transpiled ∧
    generation .transpiled ≤ generation .preview ∧
    (∀ pane, pane ≠ .editor → generation pane ≤ s.playground.gate.applied) ∧
    ∀ (next : Move) (pane : Pane), pane ≠ .editor →
      generation pane ≤ ((s.moveDated outlet next).world.2 pane).generation := by
  intro opening s generation
  have h : Lags s := (lags_opening outlet lexer styles source format window w).throughDated moves
  have hseen : s.seen Prod.fst =
      (Scene.opening outlet lexer styles source format window w).through outlet moves := by
    rw [seen_throughDated, ← (outlet.seenAs_dated 0).opening_eq]
  obtain ⟨htokens, hast, htranspiled⟩ := h.ordered
  exact ⟨hseen, h.dated, htokens, hast, htranspiled,
    fun pane hpane => (h.ordered.le_preview hpane).trans h.applied,
    fun next pane hpane => (h.moveDated next).2 pane hpane⟩

end LiveMarkup
