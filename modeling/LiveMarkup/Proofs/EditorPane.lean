import LiveMarkup.Proofs.DisplayHistory
import LiveMarkup.Proofs.Moves

/-! # What the editor shows

The editor shows the page of the text that came last. Its pages follow one another as the texts do, where
a text that is there already counts for nothing; updates, their results and the times at which they come
have no part in it. Nor does a changed text touch the panes of results or the store.
-/
namespace LiveMarkup

/-- The document of the editor for a text. -/
def editorPage (lexer : Lexer) (styles : StyleMap) (text : String) : String :=
  editorDocument (highlight text lexer styles) styles

/-- The documents written to the editor, in their order. -/
def editorWrites (writes : List (Pane × String)) : List String :=
  (writes.filter fun e => e.1 = .editor).map Prod.snd

/-- Whether a move comes from outside: it is no wake-up and delivers nothing. -/
def Move.isInput : Move → Bool
  | change .. | choose .. => true
  | wake .. | deliver .. => false

namespace Scene
variable {ω : Type} (outlet : Outlet ω) {s : Scene ω} {text : String}

theorem move_change_same (h : text = s.playground.surface.text) (now : Nat) :
    s.move outlet (.change text now) = s := by
  rw [move, Playground.handle, Playground.changeSource_same h, take_nil]

/-- Another text is painted at once, and that is all that display and store are asked for. -/
theorem move_change (h : text ≠ s.playground.surface.text) (now : Nat) :
    let e := s.playground.editor
    ∃ after : Playground,
      s.move outlet (.change text now) =
        { s with
          playground := after
          world := outlet.perform s.world (.paint (editorPage e.lexer e.styles text)) } ∧
      after.surface.text = text ∧ after.editor.lexer = e.lexer ∧ after.editor.styles = e.styles := by
  rw [move, Playground.handle, Playground.changeSource, Surface.setText, if_neg h]
  exact ⟨_, rfl, rfl, rfl, rfl⟩

end Scene

theorem MemorySink.latest_put_self (m : MemorySink) (pane : Pane) (document : String) :
    (m.put pane document).latest pane = some document := if_pos rfl

namespace Outlet
variable {ω : Type}

/-- A display and a store with no state in common. -/
def apart {δ κ : Type} (put : δ → Pane → String → δ × Except IoError Unit)
    (set : κ → String → String → κ × Except StoreError Unit) : Outlet (δ × κ) where
  put w pane document :=
    let shown := put w.1 pane document
    ((shown.1, w.2), shown.2)
  set w key value :=
    let done := set w.2 key value
    ((w.1, done.1), done.2)

variable {outlet : Outlet ω} (h : outlet.AlwaysShows)
include h

theorem perform_paint (w : (ω × List (Pane × String)) × MemorySink) (document : String) :
    outlet.logged.mirrored.perform w (.paint document) =
      (((outlet.put w.1.1 .editor document).1, w.1.2 ++ [(.editor, document)]),
        w.2.put .editor document) := by
  unfold perform
  dsimp only
  rw [put_mirrored (alwaysShows_logged h), put_logged h]

theorem editorWrites_present (report : UpdateReport) (w : (ω × List (Pane × String)) × MemorySink) :
    editorWrites (outlet.logged.mirrored.present report w).1.2 = editorWrites w.1.2 := by
  rw [present_logged h, editorWrites, List.filter_append]
  simp [editorWrites, PanelDocuments.shows]

theorem editor_present (report : UpdateReport) (w : (ω × List (Pane × String)) × MemorySink) :
    (outlet.logged.mirrored.present report w).2.latest .editor = w.2.latest .editor := by
  have hshown := showAll_mirrored (alwaysShows_logged h) (PanelDocuments.ofReport report).shows w
  refine Session.saveWith_induction
    (motive := fun v : (ω × List (Pane × String)) × MemorySink =>
      v.2.latest .editor = w.2.latest .editor)
    (fun _ _ _ hv => hv) ?_ report.source report.format.tag
  have heditor := congrArg (fun m : MemorySink => m.latest .editor) hshown
  exact heditor

end Outlet

section
variable {ω : Type} {outlet : Outlet ω} {lexer : Lexer} {styles : StyleMap}
  {s : Scene ((ω × List (Pane × String)) × MemorySink)} {pages : List String} {text : String}

/-- The editor shows the page of the text on the surface, and has shown `pages` before. -/
structure Edits (lexer : Lexer) (styles : StyleMap) (pages : List String) (text : String)
    (s : Scene ((ω × List (Pane × String)) × MemorySink)) : Prop where
  lexer_eq : s.playground.editor.lexer = lexer
  styles_eq : s.playground.editor.styles = styles
  text_eq : s.playground.surface.text = text
  written : editorWrites s.world.1.2 = pages ++ [editorPage lexer styles text]
  shown : s.world.2.latest .editor = some (editorPage lexer styles text)

/-- An update that is started says nothing to the editor. -/
theorem Edits.startUpdate (h : Edits lexer styles pages text s) {p : Playground}
    (heditor : p.editor = s.playground.editor) (hsurface : p.surface = s.playground.surface)
    (source : String) :
    Edits lexer styles pages text (s.take outlet.logged.mirrored
      { after := (p.startUpdate source).1, requests := [(p.startUpdate source).2] }) := by
  rw [Scene.take_startUpdate]
  obtain ⟨hlexer, hstyles, htext, hwritten, hshown⟩ := h
  rw [← heditor] at hlexer hstyles
  rw [← hsurface] at htext
  exact ⟨hlexer, hstyles, htext, hwritten, hshown⟩

variable (hput : outlet.AlwaysShows)
include hput

theorem Edits.deliver (h : Edits lexer styles pages text s) (u : Started) (outcome : UpdateOutcome)
    (now : Nat) : Edits lexer styles pages text (s.deliver outlet.logged.mirrored u outcome now) := by
  by_cases hnew : s.playground.gate.applied < u.generation
  · rw [Scene.deliver_of_newer _ hnew]
    refine ⟨h.lexer_eq, h.styles_eq, h.text_eq, ?_, ?_⟩
    · exact (Outlet.editorWrites_present hput _ _).trans h.written
    · exact (Outlet.editor_present hput _ _).trans h.shown
  · rw [Scene.deliver_of_stale _ hnew]
    exact ⟨h.lexer_eq, h.styles_eq, h.text_eq, h.written, h.shown⟩

/-- Another text is the next page. -/
theorem Edits.change (h : Edits lexer styles pages text s) {other : String} (hne : other ≠ text)
    (now : Nat) :
    Edits lexer styles (pages ++ [editorPage lexer styles text]) other
      (s.move outlet.logged.mirrored (.change other now)) := by
  obtain ⟨hlexer, hstyles, htext, hwritten, -⟩ := h
  rw [← htext] at hne
  obtain ⟨after, hmove, hafter, halexer, hastyles⟩ := Scene.move_change outlet.logged.mirrored hne now
  rw [hmove, hlexer, hstyles, Outlet.perform_paint hput]
  refine ⟨halexer.trans hlexer, hastyles.trans hstyles, hafter, ?_,
    s.world.2.latest_put_self .editor _⟩
  rw [editorWrites, List.filter_append, List.map_append, ← editorWrites, hwritten]
  rfl

/-- A move that brings no other text leaves the editor as it is. -/
theorem Edits.move (h : Edits lexer styles pages text s) {m : Move}
    (hm : ∀ other, m.text? = some other → other = text) :
    Edits lexer styles pages text (s.move outlet.logged.mirrored m) := by
  cases m with
  | change other now =>
    rw [Scene.move_change_same _ ((hm other rfl).trans h.text_eq.symm)]
    exact h
  | choose format now =>
    exact h.startUpdate (p := { s.playground with
      format, debouncer := s.playground.debouncer.cancel.2 }) rfl rfl s.playground.surface.text
  | wake now =>
    rw [Scene.move]
    rcases s.playground.wake_spec now with hidle | ⟨waiting, debouncer, -, -, hstep⟩
    · rw [hidle]
      exact h
    · rw [hstep]
      exact h.startUpdate (p := { s.playground with debouncer }) rfl rfl _
  | deliver u outcome now => exact h.deliver hput u outcome now

/-- The pages of a run are those of its texts, each followed by the next one that differs from it. -/
theorem Edits.through (h : Edits lexer styles pages text s) (moves : List Move) :
    let texts := moves.filterMap Move.text?
    ∃ before, Edits lexer styles before (texts.getLastD text) (s.through outlet.logged.mirrored moves) ∧
      before ++ [editorPage lexer styles (texts.getLastD text)] =
        pages ++ (texts.destutter' (· ≠ ·) text).map (editorPage lexer styles) := by
  induction moves generalizing s pages text with
  | nil => exact ⟨pages, h, rfl⟩
  | cons m moves ih =>
    cases hm : m.text? with
    | none =>
      rw [List.filterMap_cons_none hm]
      exact ih (h.move hput (m := m) (by rw [hm]; exact nofun))
    | some other =>
      obtain ⟨now, rfl⟩ : ∃ now, m = .change other now := by
        cases m with
        | change next now => exact ⟨now, congrArg (Move.change · now) (Option.some.inj hm)⟩
        | _ => exact nomatch hm
      rw [List.filterMap_cons_some hm]
      dsimp only
      rw [List.getLastD_cons, List.destutter'_cons]
      by_cases hne : text ≠ other
      · rw [if_pos hne, List.map_cons, List.append_cons]
        exact ih (h.change hput hne.symm now)
      · rw [if_neg hne]
        obtain rfl := not_not.1 hne
        exact ih (h.move hput fun _ he => (Option.some.inj he).symm)

theorem edits_opening (lexer : Lexer) (styles : StyleMap) (source : String) (format : Format)
    (window : Nat) (w : ω) (m : MemorySink) :
    Edits lexer styles [] source (Scene.opening outlet.logged.mirrored lexer styles source format window
      ((w, []), m)) := by
  have hpaint := Outlet.perform_paint hput ((w, []), m) (editorPage lexer styles source)
  have hworld : (Scene.opening outlet.logged.mirrored lexer styles source format window
      ((w, []), m)).world = _ := hpaint
  refine ⟨rfl, rfl, rfl, ?_, ?_⟩
  · rw [hworld]
    rfl
  · rw [hworld]
    exact m.latest_put_self .editor _

/-- A text from outside leaves the panes of results as they are. -/
theorem Scene.results_change (s : Scene ((ω × List (Pane × String)) × MemorySink)) (text : String)
    (now : Nat) :
    let t := s.move outlet.logged.mirrored (.change text now)
    resultWrites t.world.1.2 = resultWrites s.world.1.2 ∧
      ∀ pane, pane ≠ .editor → t.world.2.latest pane = s.world.2.latest pane := by
  intro t
  by_cases hsame : text = s.playground.surface.text
  · have ht : t = s := Scene.move_change_same _ hsame now
    rw [ht]
    exact ⟨rfl, fun _ _ => rfl⟩
  · obtain ⟨after, hmove, -, -, -⟩ := Scene.move_change outlet.logged.mirrored hsame now
    have ht : t = _ := hmove
    rw [ht, Outlet.perform_paint hput]
    refine ⟨?_, fun pane hpane => s.world.2.latest_put_of_ne hpane _⟩
    rw [resultWrites, List.filter_append]
    exact List.append_nil _

end

/-- A text from outside leaves a store as it is that has no state in common with the display. -/
theorem Scene.store_change {δ κ : Type} {put : δ → Pane → String → δ × Except IoError Unit}
    {set : κ → String → String → κ × Except StoreError Unit}
    (hput : (Outlet.apart put set).AlwaysShows)
    (s : Scene (((δ × κ) × List (Pane × String)) × MemorySink)) (text : String) (now : Nat) :
    (s.move (Outlet.apart put set).logged.mirrored (.change text now)).world.1.1.2 =
      s.world.1.1.2 := by
  by_cases hsame : text = s.playground.surface.text
  · rw [Scene.move_change_same _ hsame]
  · obtain ⟨after, hmove, -, -, -⟩ :=
      Scene.move_change (Outlet.apart put set).logged.mirrored hsame now
    rw [hmove, Outlet.perform_paint hput]
    rfl

/-- Over a display that never fails, the surface holds the text that came last and the editor shows its
page, after any moves. The pages that the editor has shown are those of the texts, each followed by the
next one that differs from it; a run without its wake-ups and deliveries shows the same ones. A text from
outside changes neither a pane of results nor the store. -/
theorem editor_shows_last_text {δ κ : Type} {put : δ → Pane → String → δ × Except IoError Unit}
    {set : κ → String → String → κ × Except StoreError Unit}
    (hput : ∀ d pane document, (put d pane document).2 = .ok ()) (lexer : Lexer) (styles : StyleMap)
    (source : String) (format : Format) (window : Nat) (d : δ) (k : κ) (m : MemorySink)
    (moves : List Move) :
    let outlet := (Outlet.apart put set).logged.mirrored
    let opening := Scene.opening outlet lexer styles source format window (((d, k), []), m)
    let s := opening.through outlet moves
    let texts := moves.filterMap Move.text?
    let text := texts.getLastD source
    s.playground.surface.text = text ∧
    s.world.2.latest .editor = some (editorDocument (highlight text lexer styles) styles) ∧
    editorWrites s.world.1.2 =
      ((source :: texts).destutter (· ≠ ·)).map (editorPage lexer styles) ∧
    editorWrites (opening.through outlet (moves.filter Move.isInput)).world.1.2 =
      editorWrites s.world.1.2 ∧
    ∀ other now,
      let t := s.move outlet (.change other now)
      t.world.1.1.2 = s.world.1.1.2 ∧ resultWrites t.world.1.2 = resultWrites s.world.1.2 ∧
        ∀ pane, pane ≠ .editor → t.world.2.latest pane = s.world.2.latest pane := by
  intro outlet opening s texts text
  have hshows : (Outlet.apart put set).AlwaysShows := fun w pane document => hput w.1 pane document
  have hopening : Edits lexer styles [] source opening :=
    edits_opening hshows lexer styles source format window (d, k) m
  have hwrites : ∀ run : List Move, editorWrites (opening.through outlet run).world.1.2 =
      ((source :: run.filterMap Move.text?).destutter (· ≠ ·)).map (editorPage lexer styles) := by
    intro run
    obtain ⟨before, hrun, hpages⟩ := hopening.through hshows run
    exact hrun.written.trans hpages
  obtain ⟨before, hrun, -⟩ := hopening.through hshows moves
  refine ⟨hrun.text_eq, hrun.shown, hwrites moves, ?_, fun other now => ?_⟩
  · have htexts : (moves.filter Move.isInput).filterMap Move.text? = texts := by
      rw [List.filterMap_filter]
      refine List.filterMap_congr fun move _ => ?_
      cases move <;> rfl
    rw [hwrites, hwrites, htexts]
  · exact ⟨Scene.store_change hshows s other now, Scene.results_change hshows s other now⟩

/-- A text is taken back while updates of it and of the one before come late and out of order, and a text
that is there already comes once more. -/
theorem editor_shows_last_text_taken_back :
    let put : Unit → Pane → String → Unit × Except IoError Unit := fun d _ _ => (d, .ok ())
    let set : Nat → String → String → Nat × Except StoreError Unit := fun k _ _ => (k + 1, .ok ())
    let outlet := (Outlet.apart put set).logged.mirrored
    let lexer : Lexer := fun text => .ok [.startingAt .text text 1 1]
    let moves : List Move := [.change "b" 10, .wake 510, .change "b" 600, .choose .text 700,
      .deliver ⟨3, "b", .text⟩ (.failure "no") 750, .change "a" 800,
      .deliver ⟨2, "b", .html⟩ (.failure "no") 900]
    let opening := Scene.opening outlet lexer .default "a" .html 500 ((((), 0), []), {})
    let s := opening.through outlet moves
    (∀ d pane document, (put d pane document).2 = .ok ()) ∧ s.playground.surface.text = "a" ∧
      editorWrites s.world.1.2 = ["a", "b", "a"].map (editorPage lexer .default) ∧
      editorWrites (opening.through outlet
        [.change "b" 10, .change "b" 600, .choose .text 700, .change "a" 800]).world.1.2 =
        editorWrites s.world.1.2 := by
  intro put set outlet lexer moves
  have hput : ∀ d pane document, (put d pane document).2 = .ok () := fun _ _ _ => rfl
  have htexts : moves.filterMap Move.text? = ["b", "b", "a"] := rfl
  have hinputs : moves.filter Move.isInput =
      [.change "b" 10, .change "b" 600, .choose .text 700, .change "a" 800] := rfl
  have hpages : (["a", "b", "b", "a"] : List String).destutter (· ≠ ·) = ["a", "b", "a"] := by decide
  have h := @editor_shows_last_text Unit Nat put set hput lexer .default "a" .html 500 () 0 {} moves
  rw [htexts, hinputs] at h
  -- the run is not to be computed any more
  clear_value put set lexer moves
  obtain ⟨htext, -, hwrites, hfiltered, -⟩ := h
  exact ⟨hput, htext, hwrites.trans (congrArg _ hpages), hfiltered⟩

end LiveMarkup
