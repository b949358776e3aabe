import LiveMarkup.Proofs.Interleaving

/-! # Runs as lists of moves

A move is a step of the event loop as a piece of data, so that steps can be left out of a run and two
runs can be compared. A move may deliver any report under any generation; the steps of the event loop are
the moves that deliver what is on its way.
-/
namespace LiveMarkup
variable {ω : Type}

inductive Move where
  | change (text : String) (now : Nat)
  | choose (format : Format) (now : Nat)
  | wake (now : Nat)
  | deliver (u : Started) (outcome : UpdateOutcome) (now : Nat)

namespace Move

def step (p : Playground) : Move → PlaygroundStep
  | change text now => p.handle (.sourceChanged text) now
  | choose format now => p.handle (.setFormat format) now
  | wake now => p.wake now
  | deliver u outcome now => p.handle (.finished u.generation (u.report outcome)) now

/-- The text that a move brings from outside. -/
def text? : Move → Option String
  | change text _ => some text
  | _ => none

end Move

namespace Playground

/-- The playground after moves. -/
def through (p : Playground) (moves : List Move) : Playground :=
  moves.foldl (fun p m => (m.step p).after) p

theorem changeSource_same {p : Playground} {text : String} (h : text = p.surface.text) (now : Nat) :
    p.changeSource text now = { after := p } := by
  rw [changeSource, Surface.setText, if_pos h]

end Playground

namespace Scene

/-- The scene after a move. -/
def move (outlet : Outlet ω) (s : Scene ω) : Move → Scene ω
  | .change text now => s.take outlet (s.playground.handle (.sourceChanged text) now)
  | .choose format now => s.take outlet (s.playground.handle (.setFormat format) now)
  | .wake now => s.take outlet (s.playground.wake now)
  | .deliver u outcome now => s.deliver outlet u outcome now

def through (outlet : Outlet ω) (s : Scene ω) (moves : List Move) : Scene ω :=
  moves.foldl (move outlet) s

/-- The scene in which the event loop takes up its work. -/
def opening (outlet : Outlet ω) (lexer : Lexer) (styles : StyleMap) (source : String)
    (format : Format) (window : Nat) (w : ω) : Scene ω :=
  take outlet ⟨.new lexer styles source format window, w, [], []⟩
    (Playground.new lexer styles source format window).begin

/-- A move that delivers nothing leaves the deliveries and the applied generation as they are, and asks
for a painted editor at most. -/
theorem move_of_not_deliver (outlet : Outlet ω) (s : Scene ω) {m : Move}
    (hm : ∀ u outcome now, m ≠ .deliver u outcome now) :
    (s.move outlet m).delivered = s.delivered ∧
      (s.move outlet m).playground.gate.applied = s.playground.gate.applied ∧
      ((s.move outlet m).world = s.world ∨
        ∃ document, (s.move outlet m).world = outlet.perform s.world (.paint document)) := by
  cases m with
  | change text now =>
    rw [move, Playground.handle]
    rcases s.playground.changeSource_cases text now with hsame | ⟨after, hstep, hgate⟩
    · rw [hsame, take_nil]
      exact ⟨rfl, rfl, Or.inl rfl⟩
    · rw [hstep, take_paint]
      exact ⟨rfl, congrArg _ hgate, Or.inr ⟨_, rfl⟩⟩
  | choose format now => exact ⟨rfl, rfl, Or.inl rfl⟩
  | wake now =>
    rw [move]
    rcases s.playground.wake_spec now with hidle | ⟨waiting, debouncer, -, -, hstep⟩
    · rw [hidle, take_nil]
      exact ⟨rfl, rfl, Or.inl rfl⟩
    · rw [hstep, take_startUpdate]
      exact ⟨rfl, rfl, Or.inl rfl⟩
  | deliver u outcome now => exact absurd rfl (hm u outcome now)

end Scene

/-- A move is possible if it delivers an update that is on its way, or none. -/
def Move.Possible (s : Scene ω) : Move → Prop
  | .deliver u _ _ => u ∈ s.inFlight
  | _ => True

/-- The steps of the event loop are the possible moves. -/
theorem step_iff_move {outlet : Outlet ω} {s t : Scene ω} :
    Step outlet s t ↔ ∃ m : Move, m.Possible s ∧ t = s.move outlet m := by
  constructor
  · intro h
    cases h with
    | change text now => exact ⟨.change text now, trivial, rfl⟩
    | choose format now => exact ⟨.choose format now, trivial, rfl⟩
    | wake now => exact ⟨.wake now, trivial, rfl⟩
    | deliver u started outcome now => exact ⟨.deliver u outcome now, started, rfl⟩
  · rintro ⟨m, hm, rfl⟩
    cases m with
    | change text now => exact .change text now
    | choose format now => exact .choose format now
    | wake now => exact .wake now
    | deliver u outcome now => exact .deliver u hm outcome now

end LiveMarkup
