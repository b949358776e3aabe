import LiveMarkup.Proofs.Deliveries

/-! # What the display has shown

A delivered report is a record if its generation is greater than every one delivered before it. The
result panes are given the documents of the records, in the order in which those come, and nothing else:
no report is shown behind a newer one, and none is shown twice.
-/
namespace LiveMarkup
variable {ω : Type}

/-- The deliveries that are newer than all before them. Deliveries are given latest first. -/
def records : List (Nat × UpdateReport) → List (Nat × UpdateReport)
  | [] => []
  | d :: before => if ∀ e ∈ before, e.1 < d.1 then d :: records before else records before

/-- The writes to the panes of results. -/
def resultWrites (writes : List (Pane × String)) : List (Pane × String) :=
  writes.filter fun e => e.1 ≠ .editor

/-- What the result panes are given for reports, which come latest first. -/
def documentsOf (ds : List (Nat × UpdateReport)) : List (Pane × String) :=
  ds.reverse.flatMap fun d => (PanelDocuments.ofReport d.2).shows

theorem documentsOf_cons (d : Nat × UpdateReport) (ds : List (Nat × UpdateReport)) :
    documentsOf (d :: ds) = documentsOf ds ++ (PanelDocuments.ofReport d.2).shows := by
  simp [documentsOf]

theorem resultWrites_shows (report : UpdateReport) :
    resultWrites (PanelDocuments.ofReport report).shows = (PanelDocuments.ofReport report).shows := rfl

namespace Outlet

/-- The outlet with a log of the documents that were shown, in order. -/
def logged (outlet : Outlet ω) : Outlet (ω × List (Pane × String)) where
  put w pane document :=
    match outlet.put w.1 pane document with
    | (v, .ok ()) => ((v, w.2 ++ [(pane, document)]), .ok ())
    | (v, .error e) => ((v, w.2), .error e)
  set w key value :=
    let done := outlet.set w.1 key value
    ((done.1, w.2), done.2)

variable {outlet : Outlet ω} (h : outlet.AlwaysShows)
include h

theorem put_logged (w : ω × List (Pane × String)) (pane : Pane) (document : String) :
    outlet.logged.put w pane document =
      (((outlet.put w.1 pane document).1, w.2 ++ [(pane, document)]), .ok ()) := by
  have hput := h w.1 pane document
  unfold logged
  dsimp only
  generalize outlet.put w.1 pane document = done at hput
  obtain ⟨v, result⟩ := done
  obtain rfl : result = .ok () := hput
  rfl

theorem alwaysShows_logged : outlet.logged.AlwaysShows := by
  intro w pane document
  rw [put_logged h]

theorem put_logged_mirrored (w : (ω × List (Pane × String)) × MemorySink) (pane : Pane)
    (document : String) :
    (outlet.logged.mirrored.put w pane document).1.1.2 = w.1.2 ++ [(pane, document)] := by
  rw [put_mirrored (alwaysShows_logged h), put_logged h]

theorem showAll_logged (documents : List (Pane × String))
    (w : (ω × List (Pane × String)) × MemorySink) :
    (showAll outlet.logged.mirrored.put documents w).1.1.2 = w.1.2 ++ documents := by
  induction documents generalizing w with
  | nil => exact (List.append_nil _).symm
  | cons e documents ih =>
    rw [showAll, put_mirrored (alwaysShows_logged h)]
    dsimp only
    rw [ih, put_logged h, List.append_assoc, List.singleton_append]

theorem present_logged (report : UpdateReport) (w : (ω × List (Pane × String)) × MemorySink) :
    (outlet.logged.mirrored.present report w).1.2 =
      w.1.2 ++ (PanelDocuments.ofReport report).shows :=
  Session.saveWith_induction (motive := fun v : (ω × List (Pane × String)) × MemorySink =>
      v.1.2 = w.1.2 ++ (PanelDocuments.ofReport report).shows)
    (fun _ _ _ hv => hv) (showAll_logged h _ w) report.source report.format.tag

theorem resultWrites_paint (w : (ω × List (Pane × String)) × MemorySink) (p : Playground) :
    resultWrites (outlet.logged.mirrored.perform w p.paint).1.2 = resultWrites w.1.2 := by
  unfold Playground.paint perform
  dsimp only
  rw [put_logged_mirrored h, resultWrites, List.filter_append]
  exact List.append_nil _

end Outlet

/-- The result panes have been given the documents of the records, in their order. -/
def ShowsRecords (s : Scene ((ω × List (Pane × String)) × MemorySink)) : Prop :=
  resultWrites s.world.1.2 = documentsOf (records s.delivered)

section
variable {outlet : Outlet ω} (hput : outlet.AlwaysShows)
include hput

theorem ShowsRecords.deliver {s : Scene ((ω × List (Pane × String)) × MemorySink)}
    (h : ShowsRecords s) (hcounted : Counted s) {u : Started} (hu : u ∈ s.inFlight)
    (outcome : UpdateOutcome) (now : Nat) :
    ShowsRecords (s.deliver outlet.logged.mirrored u outcome now) := by
  unfold ShowsRecords at h ⊢
  by_cases hnew : s.playground.gate.applied < u.generation
  · have hrecord := (hcounted.applied_lt_iff hu).1 hnew
    rw [Scene.deliver_of_newer _ hnew]
    dsimp only
    rw [Outlet.present_logged hput, resultWrites, List.filter_append, ← resultWrites, h, records,
      if_pos hrecord, documentsOf_cons]
    exact congrArg _ (resultWrites_shows _)
  · have hstale := mt (hcounted.applied_lt_iff hu).2 hnew
    rw [Scene.deliver_of_stale _ hnew]
    dsimp only
    rw [h, records, if_neg hstale]

theorem ShowsRecords.step {s t : Scene ((ω × List (Pane × String)) × MemorySink)}
    (h : ShowsRecords s) (hcounted : Counted s) (hst : Step outlet.logged.mirrored s t) :
    ShowsRecords t := by
  rcases hst.cases with ⟨p, -, rfl | rfl⟩ | ⟨p, source, -, rfl⟩ | ⟨u, started, outcome, now, rfl⟩
  · exact h
  · -- the editor is no pane of results
    exact (Outlet.resultWrites_paint hput _ _).trans h
  · exact h
  · exact h.deliver hput hcounted started outcome now

end

end LiveMarkup
