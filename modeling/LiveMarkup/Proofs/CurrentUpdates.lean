import LiveMarkup.Proofs.Moves

/-! # Updates are about the current text

Whatever starts an update, it is asked for the text on the surface and the chosen format. The reason is
that a text waits in the debouncer only as long as it is the current one: a further edit replaces it, and
a chosen format takes it back. The updates are numbered in the order in which they are started.
-/
namespace LiveMarkup

/-- The update that a request asks for. -/
def Request.update? : Request → Option Started
  | .update generation source format => some ⟨generation, source, format⟩
  | _ => none

/-- The updates that a step starts. -/
def PlaygroundStep.updates (step : PlaygroundStep) : List Started :=
  step.requests.filterMap Request.update?

namespace Playground

/-- The updates that moves start, in their order. -/
def updates (p : Playground) : List Move → List Started
  | [] => []
  | m :: moves => (m.step p).updates ++ (m.step p).after.updates moves

theorem updates_startUpdate (p : Playground) (source : String) :
    PlaygroundStep.updates
        { after := (p.startUpdate source).1, requests := [(p.startUpdate source).2] } =
      [⟨p.gate.issued + 1, source, p.format⟩] := rfl

theorem updates_finish (p : Playground) (generation : Nat) (report : UpdateReport) :
    (p.finish generation report).updates = [] := by
  unfold finish PlaygroundStep.updates
  dsimp only
  split <;> rfl

theorem issued_finish (p : Playground) (generation : Nat) (report : UpdateReport) :
    (p.finish generation report).after.gate.issued = p.gate.issued := by
  unfold finish GenerationGate.accept
  dsimp only
  split <;> rfl

/-- Changes are listened to, and what waits in the debouncer is the text on the surface. -/
structure Attentive (p : Playground) : Prop where
  subscribed : p.editor.subscriptions ≠ []
  pending : ∀ waiting, p.debouncer.pending = some waiting → waiting.payload = p.surface.text

theorem attentive_begin (lexer : Lexer) (styles : StyleMap) (source : String) (format : Format)
    (window : Nat) : (new lexer styles source format window).begin.after.Attentive :=
  ⟨List.cons_ne_nil _ _, nofun⟩

theorem Attentive.step {p : Playground} (h : p.Attentive) (m : Move) :
    (m.step p).after.Attentive := by
  cases m with
  | change text now =>
    rcases changeSource_spec h.subscribed text now with
      hsame | ⟨after, hstep, hsub, htext, -, -, hpending⟩
    · rw [Move.step, handle, hsame]
      exact h
    · rw [Move.step, handle, hstep]
      refine ⟨hsub ▸ h.subscribed, fun waiting hw => ?_⟩
      obtain rfl := Option.some.inj (hpending.symm.trans hw)
      exact htext.symm
  | choose format now =>
    refine ⟨h.subscribed, fun waiting hw => ?_⟩
    cases p.debouncer.pending_cancel.symm.trans hw
  | wake now =>
    rcases p.wake_spec now with hidle | ⟨waiting, debouncer, -, hnone, hstep⟩
    · rw [Move.step, hidle]
      exact h
    · rw [Move.step, hstep]
      refine ⟨h.subscribed, fun _ hw => ?_⟩
      cases hnone.symm.trans hw
  | deliver u outcome now => exact ⟨h.subscribed, h.pending⟩

theorem Attentive.through {p : Playground} (h : p.Attentive) (moves : List Move) :
    (p.through moves).Attentive := by
  induction moves generalizing p with
  | nil => exact h
  | cons m moves ih => exact ih (h.step m)

/-- A move starts no update, or the next one about the current text in the current format. -/
theorem Attentive.updates_step {p : Playground} (h : p.Attentive) (m : Move) :
    (m.step p).updates = [] ∧ (m.step p).after.gate.issued = p.gate.issued ∨
      (m.step p).updates =
          [⟨p.gate.issued + 1, (m.step p).after.surface.text, (m.step p).after.format⟩] ∧
        (m.step p).after.gate.issued = p.gate.issued + 1 := by
  cases m with
  | change text now =>
    refine Or.inl ?_
    rw [Move.step, handle]
    rcases p.changeSource_cases text now with hsame | ⟨after, hstep, hgate⟩
    · rw [hsame]
      exact ⟨rfl, rfl⟩
    · rw [hstep]
      exact ⟨rfl, congrArg _ hgate⟩
  | choose format now => exact Or.inr ⟨rfl, rfl⟩
  | wake now =>
    rw [Move.step]
    rcases p.wake_spec now with hidle | ⟨waiting, debouncer, hpending, -, hstep⟩
    · rw [hidle]
      exact Or.inl ⟨rfl, rfl⟩
    · rw [hstep, updates_startUpdate, h.pending waiting hpending]
      exact Or.inr ⟨rfl, rfl⟩
  | deliver u outcome now => exact Or.inl ⟨updates_finish .., issued_finish ..⟩

/-- The updates that moves start are numbered one after the other. -/
theorem Attentive.numbered {p : Playground} (h : p.Attentive) (moves : List Move) :
    (p.updates moves).map Started.generation =
        List.range' (p.gate.issued + 1) (p.updates moves).length ∧
      (p.through moves).gate.issued = p.gate.issued + (p.updates moves).length := by
  induction moves generalizing p with
  | nil => exact ⟨rfl, rfl⟩
  | cons m moves ih =>
    obtain ⟨hmap, hissued⟩ := ih (h.step m)
    have hthrough : p.through (m :: moves) = (m.step p).after.through moves := rfl
    rw [updates, hthrough]
    rcases h.updates_step m with ⟨hnone, hsame⟩ | ⟨hone, hnext⟩
    · rw [hsame] at hmap hissued
      rw [hnone]
      exact ⟨hmap, hissued⟩
    · rw [hnext] at hmap hissued
      rw [hone, List.singleton_append, List.map_cons, hmap, List.length_cons, List.range'_succ]
      refine ⟨rfl, ?_⟩
      rw [hissued]
      omega

theorem generation_le_issued {p : Playground} (h : p.Attentive) {moves : List Move} {u : Started}
    (hu : u ∈ p.updates moves) : u.generation ≤ (p.through moves).gate.issued := by
  obtain ⟨hmap, hissued⟩ := h.numbered moves
  have hm := List.mem_map_of_mem (f := Started.generation) hu
  rw [hmap, List.mem_range'_1] at hm
  omega

/-- A wake-up at or after the deadline starts the update of the current text. -/
theorem Attentive.updates_wake {p : Playground} (h : p.Attentive) {due now : Nat}
    (hdue : p.debouncer.deadline = some due) (hnow : due ≤ now) :
    ((Move.wake now).step p).updates = [⟨p.gate.issued + 1, p.surface.text, p.format⟩] := by
  obtain ⟨waiting, hpending, rfl⟩ := Option.map_eq_some_iff.1 hdue
  have hpoll : p.debouncer.poll now =
      (some waiting.payload, { p.debouncer with pending := none, fired := p.debouncer.fired + 1 }) := by
    rw [Debouncer.poll, hpending]
    exact if_pos hnow
  rw [Move.step, wake, hpoll, ← h.pending waiting hpending]
  rfl

/-- Nothing waits, and the text on the surface is the one given. -/
def Rests (p : Playground) (text : String) : Prop :=
  p.debouncer.pending = none ∧ p.surface.text = text

theorem Rests.updates_wake {p : Playground} {text : String} (h : p.Rests text) (now : Nat) :
    ((Move.wake now).step p).updates = [] := by
  rw [Move.step, wake, Debouncer.poll, h.1]
  rfl

/-- Only another text sets the debouncer going. -/
theorem Rests.step {p : Playground} {text : String} (h : p.Rests text) {m : Move}
    (hm : ∀ other, m.text? = some other → other = text) : (m.step p).after.Rests text := by
  cases m with
  | change other now =>
    have hsame : other = p.surface.text := (hm other rfl).trans h.2.symm
    rw [Move.step, handle, changeSource_same hsame]
    exact h
  | choose format now => exact ⟨p.debouncer.pending_cancel, h.2⟩
  | wake now =>
    rw [Move.step, wake, Debouncer.poll, h.1]
    exact h
  | deliver u outcome now => exact h

theorem Rests.through {p : Playground} {text : String} (h : p.Rests text) {moves : List Move}
    (hm : ∀ other ∈ moves.filterMap Move.text?, other = text) : (p.through moves).Rests text := by
  induction moves generalizing p with
  | nil => exact h
  | cons m moves ih =>
    refine ih (h.step fun other ho => hm other ?_) fun other ho => hm other ?_
    · rw [List.filterMap_cons_some ho]
      exact List.mem_cons_self
    · obtain ⟨next, hnext, ho⟩ := List.mem_filterMap.1 ho
      exact List.mem_filterMap.2 ⟨next, List.mem_cons_of_mem m hnext, ho⟩

end Playground

/-- In every state that moves lead to, the text that waits in the debouncer is the one on the surface. The
update that the next move starts, if it starts one, is asked for the text on the surface and the chosen
format, and its generation is greater than those of all updates before; at the deadline and when a format
is chosen an update is started. Behind a chosen format no wake-up starts an update until another text
comes. -/
theorem updates_current (lexer : Lexer) (styles : StyleMap) (source : String) (format : Format)
    (window : Nat) (moves : List Move) :
    let opening := (Playground.new lexer styles source format window).begin
    let p := opening.after.through moves
    let started := opening.updates ++ opening.after.updates moves
    opening.updates = [⟨1, opening.after.surface.text, opening.after.format⟩] ∧
    (∀ waiting, p.debouncer.pending = some waiting → waiting.payload = p.surface.text) ∧
    (∀ next : Move, ∀ u ∈ (next.step p).updates,
      u.source = (next.step p).after.surface.text ∧ u.format = (next.step p).after.format ∧
        ∀ before ∈ started, before.generation < u.generation) ∧
    (∀ due now, p.debouncer.deadline = some due → due ≤ now →
      ((Move.wake now).step p).updates = [⟨p.gate.issued + 1, p.surface.text, p.format⟩]) ∧
    ∀ chosen now,
      ((Move.choose chosen now).step p).updates = [⟨p.gate.issued + 1, p.surface.text, chosen⟩] ∧
      ∀ later : List Move, (∀ text ∈ later.filterMap Move.text?, text = p.surface.text) →
        ∀ time, ((Move.wake time).step
          (((Move.choose chosen now).step p).after.through later)).updates = [] := by
  intro opening p started
  have hbegin : opening.after.Attentive :=
    Playground.attentive_begin lexer styles source format window
  have hp : p.Attentive := hbegin.through moves
  refine ⟨rfl, hp.pending, fun next u hu => ?_, fun _ _ => hp.updates_wake, fun chosen now =>
    ⟨rfl, fun later hlater time => ?_⟩⟩
  · rcases hp.updates_step next with ⟨hnone, -⟩ | ⟨hone, -⟩
    · rw [hnone] at hu
      exact nomatch hu
    · rw [hone, List.mem_singleton] at hu
      refine ⟨congrArg _ hu, congrArg _ hu, fun before hb => ?_⟩
      have hle : before.generation ≤ p.gate.issued := by
        rcases List.mem_append.1 hb with hfirst | hb
        · obtain rfl := List.mem_singleton.1 hfirst
          rw [(hbegin.numbered moves).2]
          exact Nat.le_add_right _ _
        · exact Playground.generation_le_issued hbegin hb
      rw [hu]
      exact Nat.lt_succ_of_le hle
  · have hrests : ((Move.choose chosen now).step p).after.Rests p.surface.text :=
      ⟨p.debouncer.pending_cancel, rfl⟩
    exact (hrests.through hlater).updates_wake time

end LiveMarkup
