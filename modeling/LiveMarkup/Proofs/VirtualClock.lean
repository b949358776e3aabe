import LiveMarkup.Playground.Run
import LiveMarkup.Proofs.Interleaving

/-! # Runs on a clock are interleavings

Until it ends, a run on the virtual clock comes only to states that the event loop comes to: what is due
next is one of the steps that are possible. The results that are still to come are those of the updates
that are on their way.
-/
namespace LiveMarkup

/-- The result that a moment brings, if it is one. -/
def Upcoming.result? : Upcoming → Option (Nat × UpdateReport)
  | .call _ => none
  | .result generation report => some (generation, report)

def resultsOf (moments : List (Nat × Upcoming)) : List (Nat × UpdateReport) :=
  moments.filterMap fun m => m.2.result?

theorem resultsOf_timeline (engine : Engine) (delays : CallDelays) (start generation : Nat)
    (source : String) (format : Format) :
    resultsOf (timeline engine delays start generation source format) =
      [(generation, engine.update source format)] := by
  unfold timeline Engine.callsOf
  split
  · rfl
  · split
    · rfl
    · rfl

theorem perm_insertMoment (m : Nat × Upcoming) (moments : List (Nat × Upcoming)) :
    (insertMoment m moments).Perm (m :: moments) := by
  induction moments with
  | nil => exact .refl _
  | cons other rest ih =>
    rw [insertMoment]
    split_ifs
    · exact .refl _
    · exact (ih.cons other).trans (.swap m other rest)

theorem perm_foldl_insertMoment (added moments : List (Nat × Upcoming)) :
    (added.foldl (fun later m => insertMoment m later) moments).Perm (added ++ moments) := by
  induction added generalizing moments with
  | nil => exact .refl _
  | cons m added ih =>
    exact (ih (insertMoment m moments)).trans
      (((perm_insertMoment m moments).append_left added).trans List.perm_middle)

namespace Run
variable {ω : Type} {s : Setting ω}

/-- A scene is what a run has come to. -/
structure Plays (s : Setting ω) (r : Run ω) (scene : Scene ω) : Prop where
  playground : scene.playground = r.playground
  world : scene.world = r.world
  inFlight : (scene.inFlight.map fun u => (u.generation, s.engine.update u.source u.format)).Perm
    (resultsOf r.upcoming)

theorem upcoming_of_turn? {r : Run ω} {now : Nat} {u : Upcoming} {later : List (Nat × Upcoming)}
    (h : r.turn? = some (now, .moment u later)) : r.upcoming = (now, u) :: later := by
  unfold turn? at h
  dsimp only at h
  split at h
  · exact nomatch h
  · exact nomatch h
  · rename_i hup
    obtain ⟨rfl, hmoment⟩ := Prod.mk.inj (Option.some.inj h)
    obtain ⟨rfl, rfl⟩ := Turn.moment.inj hmoment
    exact hup
  · rename_i hup
    split_ifs at h
    · exact nomatch h
    · obtain ⟨rfl, hmoment⟩ := Prod.mk.inj (Option.some.inj h)
      obtain ⟨rfl, rfl⟩ := Turn.moment.inj hmoment
      exact hup

section
variable (hnote : ∀ w now h, s.note w now h = w)
include hnote

theorem Plays.request {r : Run ω} {scene : Scene ω} (h : Plays s r scene) (now : Nat) (q : Request) :
    Plays s (r.request s now q) (scene.carryOut s.outlet q) := by
  have hworld : s.outlet.perform scene.world q =
      s.outlet.perform (s.note r.world now (.request q)) q := by
    rw [hnote, h.world]
  cases q with
  | paint document => exact ⟨h.playground, hworld, h.inFlight⟩
  | present report => exact ⟨h.playground, hworld, h.inFlight⟩
  | update generation source format =>
    refine ⟨h.playground, hworld, ?_⟩
    have hperm := (perm_foldl_insertMoment
      (timeline s.engine (s.delays source) now generation source format) r.upcoming).filterMap
        fun m => m.2.result?
    rw [List.filterMap_append] at hperm
    refine List.Perm.trans ?_ hperm.symm
    have hone := resultsOf_timeline s.engine (s.delays source) now generation source format
    rw [resultsOf] at hone
    rw [hone]
    exact h.inFlight.cons _

theorem Plays.take {r : Run ω} {scene : Scene ω} (h : Plays s r scene) (now : Nat)
    (step : PlaygroundStep) : Plays s (r.take s now step) (scene.take s.outlet step) := by
  have hstart : Plays s { r with playground := step.after, ended := step.ended }
      { scene with playground := step.after } := ⟨rfl, h.world, h.inFlight⟩
  unfold Run.take Scene.take
  generalize { r with playground := step.after, ended := step.ended } = r' at hstart
  generalize { scene with playground := step.after } = scene' at hstart
  induction step.requests generalizing r' scene' with
  | nil => exact hstart
  | cons q requests ih => exact ih _ _ (hstart.request hnote now q)

/-- What is due next is a step of the event loop, or a call that it takes no notice of. -/
theorem Plays.play {r : Run ω} {scene : Scene ω} (h : Plays s r scene)
    (hr : Reachable s.outlet scene) (hopen : r.ended = none) {now : Nat} {turn : Turn}
    (hturn : r.turn? = some (now, turn)) :
    ∃ scene', Reachable s.outlet scene' ∧ Plays s (r.play s now turn) scene' := by
  cases turn with
  | deadline =>
    have hwake := h.take hnote now (r.playground.wake now)
    rw [← h.playground] at hwake
    refine ⟨_, hr.step (.wake now), ?_⟩
    rwa [Run.play, ← h.playground]
  | moment u later =>
    have hresults := h.inFlight
    rw [upcoming_of_turn? hturn] at hresults
    cases u with
    | call c => exact ⟨scene, hr, h.playground, h.world.trans (hnote _ _ _).symm, hresults⟩
    | result generation report =>
      -- the report is that of an update on its way, whose outcome the engine has given
      obtain ⟨u, hu, he⟩ := List.mem_map.1 (hresults.symm.subset List.mem_cons_self)
      obtain ⟨outcome, hreport⟩ := s.engine.update_eq_report u
      obtain ⟨rfl, rfl⟩ := Prod.mk.inj he
      refine ⟨_, hr.step (.deliver u hu outcome now), ?_⟩
      have hrest := (((List.perm_cons_erase hu).map _).symm.trans hresults).cons_inv
      have hbefore : Plays s { r with upcoming := later }
          { scene with
            inFlight := scene.inFlight.erase u
            delivered := (u.generation, u.report outcome) :: scene.delivered } :=
        ⟨h.playground, h.world, hrest⟩
      have htaken := hbefore.take hnote now
        (scene.playground.handle (.finished u.generation (u.report outcome)) now)
      rw [Run.play, hreport]
      dsimp only
      rw [if_neg (by rw [hopen]; exact nofun), ← h.playground]
      exact htaken

end

theorem ended_foldl_request (now : Nat) (requests : List Request) (r : Run ω) :
    (requests.foldl (Run.request s now) r).ended = r.ended := by
  induction requests generalizing r with
  | nil => rfl
  | cons q requests ih =>
    rw [List.foldl_cons, ih]
    cases q <;> rfl

theorem ended_take (now : Nat) (r : Run ω) (step : PlaygroundStep) :
    (r.take s now step).ended = step.ended :=
  ended_foldl_request now step.requests _

theorem playground_take (now : Nat) (r : Run ω) (step : PlaygroundStep) :
    (r.take s now step).playground = step.after := by
  have hrequests : ∀ r' : Run ω, (step.requests.foldl (Run.request s now) r').playground =
      r'.playground := by
    intro r'
    induction step.requests generalizing r' with
    | nil => rfl
    | cons q requests ih =>
      rw [List.foldl_cons, ih]
      cases q <;> rfl
  exact hrequests _

/-- What everything that is due keeps is kept while things happen. -/
theorem playWithin_induction {motive : Run ω → Prop}
    (hplay : ∀ {r now turn}, motive r → r.turn? = some (now, turn) → motive (r.play s now turn))
    {r : Run ω} (h : motive r) (limit : Option Nat) (fuel : Nat) :
    motive (r.playWithin s limit fuel) := by
  induction fuel generalizing r with
  | zero => exact h
  | succ fuel ih =>
    rw [playWithin]
    split
    · exact h
    · rename_i hturn
      split_ifs
      · exact ih (hplay h hturn)
      · exact h

theorem ended_play {r : Run ω} (hended : r.ended.isSome) {now : Nat} {turn : Turn}
    (hturn : r.turn? = some (now, turn)) : (r.play s now turn).ended = r.ended := by
  cases turn with
  | deadline =>
    unfold turn? at hturn
    dsimp only at hturn
    rw [if_pos hended] at hturn
    split at hturn <;> simp_all
  | moment u later =>
    cases u with
    | call c => rfl
    | result generation report =>
      rw [play]
      dsimp only
      rw [if_pos hended]

/-- A run has ended, or it has come to a scene of the event loop. -/
def Tracks (s : Setting ω) (r : Run ω) : Prop :=
  r.ended = none → ∃ scene, Reachable s.outlet scene ∧ Plays s r scene

section
variable (hnote : ∀ w now h, s.note w now h = w)
include hnote

theorem Tracks.play {r : Run ω} (h : Tracks s r) {now : Nat} {turn : Turn}
    (hturn : r.turn? = some (now, turn)) : Tracks s (r.play s now turn) := by
  intro hopen
  cases hended : r.ended with
  | none =>
    obtain ⟨scene, hr, hplays⟩ := h hended
    exact hplays.play hnote hr hended hturn
  | some reason =>
    rw [ended_play (by rw [hended]; rfl) hturn, hended] at hopen
    exact nomatch hopen

theorem Tracks.playWithin {r : Run ω} (h : Tracks s r) (limit : Option Nat) (fuel : Nat) :
    Tracks s (r.playWithin s limit fuel) :=
  playWithin_induction (fun h hturn => h.play hnote hturn) h limit fuel

theorem Tracks.tell {r : Run ω} (h : Tracks s r) (time : Nat) {e : PlaygroundEvent}
    (he : ∀ generation report, e ≠ .finished generation report) : Tracks s (r.tell s time e) := by
  have hsettled : Tracks s (r.settle s (some (max time r.clock))) := h.playWithin hnote _ _
  unfold Run.tell
  dsimp only
  generalize r.settle s (some (max time r.clock)) = settled at hsettled
  generalize max time r.clock = now
  intro hopen
  by_cases hended : settled.ended.isSome
  · rw [if_pos hended] at hopen
    rw [show settled.ended = none from hopen] at hended
    exact nomatch hended
  · rw [if_neg hended, ended_take] at hopen
    rw [if_neg hended]
    obtain ⟨scene, hr, hplays⟩ := hsettled (Option.not_isSome_iff_eq_none.1 hended)
    have hnoted : Plays s
        { settled with clock := now, world := s.note settled.world now (.event e) } scene :=
      ⟨hplays.playground, hplays.world.trans (hnote _ _ _).symm, hplays.inFlight⟩
    have htaken := hnoted.take hnote now (scene.playground.handle e now)
    rw [← hplays.playground] at hopen ⊢
    cases e with
    | sourceChanged text => exact ⟨_, hr.step (.change text now), htaken⟩
    | setFormat format => exact ⟨_, hr.step (.choose format now), htaken⟩
    | finished generation report => exact absurd rfl (he generation report)
    | quit => exact nomatch hopen
    | shutdown => exact nomatch hopen

/-- What a run comes to before it ends, the event loop comes to in some order of its steps, with the
same updates on their way. -/
theorem tracks_ofScript (lexer : Lexer) (styles : StyleMap) (source : String) (format : Format)
    (window : Nat) (w : ω) {script : List (Nat × PlaygroundEvent)}
    (hscript : ∀ e ∈ script, ∀ generation report, e.2 ≠ .finished generation report) :
    Tracks s (ofScript s (.new lexer styles source format window) w script) := by
  have hstart : Tracks s (start s (.new lexer styles source format window) w) := by
    intro _
    refine ⟨_, .start lexer styles source format window w, ?_⟩
    exact Plays.take (r := { playground := .new lexer styles source format window, world := w })
      hnote ⟨rfl, rfl, .refl _⟩ 0 _
  unfold ofScript
  generalize start s (.new lexer styles source format window) w = r at hstart
  induction script generalizing r with
  | nil => exact hstart
  | cons e script ih =>
    exact ih (fun e' m => hscript e' (List.mem_cons_of_mem e m)) _
      (hstart.tell hnote e.1 (hscript e List.mem_cons_self))

end
end Run
end LiveMarkup
