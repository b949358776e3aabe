import LiveMarkup.Engine.Update
import LiveMarkup.Playground.Outlet

/-! # Runs on a virtual clock

A run takes a playground through events at given times. Engine calls take the time they are said to
take, and between two events everything that is due happens in the order of its time: calls, results of
updates, and the deadline of the debouncer. Once the playground has ended it is told nothing any more,
but updates that were started still make their calls.
-/
namespace LiveMarkup

/-- How long the calls of an engine take, in milliseconds. -/
structure CallDelays where
  lex : Nat := 0
  parse : Nat := 0
  transpile : Nat := 0

/-- What happens in a run, told before it takes effect. -/
inductive Happening where
  | event (e : PlaygroundEvent)
  | refused
  | call (c : EngineCall)
  | request (r : Request)

structure Setting (ω : Type) where
  engine : Engine
  delays : String → CallDelays := fun _ => {}
  outlet : Outlet ω
  note : ω → Nat → Happening → ω := fun w _ _ => w

/-- What is still to come of a started update. -/
inductive Upcoming where
  | call (c : EngineCall)
  | result (generation : Nat) (report : UpdateReport)

def timeline (engine : Engine) (delays : CallDelays) (start generation : Nat) (source : String)
    (format : Format) : List (Nat × Upcoming) :=
  let parsing := start + delays.lex
  let transpiling := parsing + delays.parse
  let times := [start, parsing, transpiling, transpiling + delays.transpile]
  let calls := engine.callsOf source format
  let result := Upcoming.result generation (engine.update source format)
  times.zip (calls.map Upcoming.call ++ [result])

def insertMoment (m : Nat × Upcoming) : List (Nat × Upcoming) → List (Nat × Upcoming)
  | [] => [m]
  | other :: rest => if m.1 < other.1 then m :: other :: rest else other :: insertMoment m rest

structure Run (ω : Type) where
  playground : Playground
  world : ω
  /-- The moments of started updates, in the order of time. -/
  upcoming : List (Nat × Upcoming) := []
  /-- The time of the latest event. -/
  clock : Nat := 0
  ended : Option EndReason := none

inductive Turn where
  | deadline
  | moment (u : Upcoming) (later : List (Nat × Upcoming))

namespace Run

variable {ω : Type} (s : Setting ω)

def request (now : Nat) (r : Run ω) (q : Request) : Run ω :=
  let r := { r with world := s.outlet.perform (s.note r.world now (.request q)) q }
  match q with
  | .update generation source format =>
    let moments := timeline s.engine (s.delays source) now generation source format
    { r with upcoming := moments.foldl (fun later m => insertMoment m later) r.upcoming }
  | _ => r

def take (now : Nat) (r : Run ω) (step : PlaygroundStep) : Run ω :=
  step.requests.foldl (request s now) { r with playground := step.after, ended := step.ended }

def turn? (r : Run ω) : Option (Nat × Turn) :=
  let deadline := if r.ended.isSome then none else r.playground.debouncer.deadline
  match deadline, r.upcoming with
  | none, [] => none
  | some d, [] => some (d, .deadline)
  | none, (t, u) :: later => some (t, .moment u later)
  | some d, (t, u) :: later => if d ≤ t then some (d, .deadline) else some (t, .moment u later)

def play (now : Nat) (r : Run ω) : Turn → Run ω
  | .deadline => r.take s now (r.playground.wake now)
  | .moment (.call c) later => { r with upcoming := later, world := s.note r.world now (.call c) }
  | .moment (.result generation report) upcoming =>
    let r := { r with upcoming }
    if r.ended.isSome then r else r.take s now (r.playground.finish generation report)

/-- Lets things happen that are due no later than a limit. The number bounds how many. -/
def playWithin (limit : Option Nat) : Nat → Run ω → Run ω
  | 0, r => r
  | fuel + 1, r =>
    match r.turn? with
    | none => r
    | some (now, turn) =>
      if limit.all fun last => now ≤ last then playWithin limit fuel (r.play s now turn) else r

/-- Lets everything happen that is due no later than a limit. A deadline leads to four moments at
most, and a moment to nothing further. -/
def settle (limit : Option Nat) (r : Run ω) : Run ω :=
  let pending := if r.playground.debouncer.isPending then 5 else 0
  r.playWithin s limit (r.upcoming.length + pending)

def start (p : Playground) (w : ω) : Run ω :=
  ({ playground := p, world := w } : Run ω).take s 0 p.begin

/-- Tells an event at a time; no event comes before the one told last. -/
def tell (r : Run ω) (time : Nat) (e : PlaygroundEvent) : Run ω :=
  let now := max time r.clock
  let r := { r.settle s (some now) with clock := now }
  let r := { r with world := s.note r.world now (.event e) }
  if r.ended.isSome then { r with world := s.note r.world now .refused }
  else r.take s now (r.playground.handle e now)

def ofScript (p : Playground) (w : ω) (script : List (Nat × PlaygroundEvent)) : Run ω :=
  script.foldl (fun r e => r.tell s e.1 e.2) (start s p w)

end Run
end LiveMarkup
