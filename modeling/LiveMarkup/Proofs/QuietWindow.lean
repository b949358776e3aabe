import Mathlib
import LiveMarkup.Debounce

/-! # When a debouncer hands out a payload

The history of a debouncer is the list of its calls with what each of them handed out. A submission is
open in a history if nothing stands behind it but polls that handed out nothing: a later submission, a
poll that handed it out and any cancellation close it. The main statement says that a poll hands out the
open submission, and only that, as soon as the window has passed since it, that a poll that hands out
nothing changes nothing, and that a cancellation hands out the open submission at any time. The times of
the calls may go backwards.
-/
namespace LiveMarkup

inductive DebouncerCall (α : Type) where
  | submit (payload : α) (now : Nat)
  | poll (now : Nat)
  | cancel
deriving DecidableEq, Repr

/-- A call, and what it handed out. -/
structure Answered (α : Type) where
  call : DebouncerCall α
  handed : Option α := none
deriving DecidableEq, Repr

variable {α : Type}

namespace Answered

/-- A poll that handed out nothing. -/
def Idle (e : Answered α) : Prop := e.handed = none ∧ ∃ now, e.call = .poll now

/-- A submission that no later one has replaced, that no poll has handed out, and that has not been
cancelled. -/
def Open (history : List (Answered α)) (payload : α) (time : Nat) : Prop :=
  ∃ earlier later, history = earlier ++ ⟨.submit payload time, none⟩ :: later ∧ ∀ e ∈ later, e.Idle

theorem not_open_nil (payload : α) (time : Nat) : ¬Open [] payload time := by
  rintro ⟨earlier, later, h, -⟩
  exact List.cons_ne_nil _ _ (List.append_eq_nil_iff.1 h.symm).2

theorem open_append_iff {history : List (Answered α)} {e : Answered α} {payload : α} {time : Nat} :
    Open (history ++ [e]) payload time ↔
      e = ⟨.submit payload time, none⟩ ∨ e.Idle ∧ Open history payload time := by
  constructor
  · rintro ⟨earlier, later, h, hidle⟩
    cases later using List.reverseRecOn with
    | nil => exact Or.inl (List.singleton_inj.1 (List.append_inj' h rfl).2)
    | append_singleton later last =>
      rw [← List.cons_append, ← List.append_assoc] at h
      obtain ⟨hhistory, hlast⟩ := List.append_inj' h rfl
      obtain rfl := List.singleton_inj.1 hlast
      refine Or.inr ⟨hidle _ (by simp), earlier, later, hhistory, fun f hf => hidle f ?_⟩
      exact List.mem_append_left _ hf
  · rintro (rfl | ⟨he, earlier, later, rfl, hidle⟩)
    · exact ⟨history, [], rfl, by simp⟩
    · refine ⟨earlier, later ++ [e], by simp, fun f hf => ?_⟩
      rcases List.mem_append.1 hf with hf | hf
      · exact hidle f hf
      · exact List.mem_singleton.1 hf ▸ he

/-- A cancellation leaves no submission open, whatever it handed out. -/
theorem not_open_append_cancel (history : List (Answered α)) (handed : Option α) (payload : α)
    (time : Nat) : ¬Open (history ++ [⟨.cancel, handed⟩]) payload time := by
  rw [open_append_iff]
  rintro (he | ⟨⟨-, now, hpoll⟩, -⟩)
  · cases he
  · cases hpoll

end Answered

namespace Debouncer

def call (d : Debouncer α) : DebouncerCall α → Option α × Debouncer α
  | .submit payload now => (none, d.submit payload now)
  | .poll now => d.poll now
  | .cancel => d.cancel

theorem poll_of_none {d : Debouncer α} (h : d.pending = none) (now : Nat) :
    d.poll now = (none, d) := by
  rw [poll, h]

theorem poll_of_some {d : Debouncer α} {p : Pending α} (h : d.pending = some p) (now : Nat) :
    d.poll now =
      if p.deadline ≤ now then (some p.payload, { d with pending := none, fired := d.fired + 1 })
      else (none, d) := by
  rw [poll, h]

theorem poll_eq_some_iff {d : Debouncer α} {now : Nat} {payload : α} :
    (d.poll now).1 = some payload ↔
      ∃ p, d.pending = some p ∧ p.payload = payload ∧ p.deadline ≤ now := by
  cases hp : d.pending with
  | none => simp [poll_of_none hp]
  | some p =>
    rw [poll_of_some hp]
    by_cases hdue : p.deadline ≤ now
    · simp [hdue]
    · simp [hdue]

/-- What a poll does not hand out it leaves as it is, and the counters with it. -/
theorem poll_unchanged {d : Debouncer α} {now : Nat} (h : (d.poll now).1 = none) :
    (d.poll now).2 = d := by
  cases hp : d.pending with
  | none => rw [poll_of_none hp]
  | some p =>
    rw [poll_of_some hp] at h ⊢
    by_cases hdue : p.deadline ≤ now
    · rw [if_pos hdue] at h
      exact nomatch h
    · rw [if_neg hdue]

/-- A call that does not submit hands out what is pending, or changes nothing. -/
theorem call_spec (d : Debouncer α) (c : DebouncerCall α)
    (hc : ∀ payload now, c ≠ .submit payload now) :
    d.call c = (none, d) ∨
      ∃ p, d.pending = some p ∧ (d.call c).1 = some p.payload ∧ (d.call c).2.pending = none := by
  cases c with
  | submit payload now => exact absurd rfl (hc payload now)
  | poll now =>
    rw [call]
    cases hp : d.pending with
    | none => exact Or.inl (poll_of_none hp now)
    | some p =>
      rw [poll_of_some hp]
      by_cases hdue : p.deadline ≤ now
      · rw [if_pos hdue]
        exact Or.inr ⟨p, rfl, rfl, rfl⟩
      · exact Or.inl (if_neg hdue)
  | cancel =>
    rw [call, cancel]
    cases d.pending with
    | none => exact Or.inl rfl
    | some p => exact Or.inr ⟨p, rfl, rfl, rfl⟩

theorem window_call (d : Debouncer α) (c : DebouncerCall α) : (d.call c).2.window = d.window := by
  cases c with
  | submit payload now => rfl
  | poll now =>
    rw [call]
    cases hp : d.pending with
    | none => rw [poll_of_none hp]
    | some p =>
      rw [poll_of_some hp]
      split_ifs <;> rfl
  | cancel =>
    rw [call, cancel]
    cases d.pending <;> rfl

/-- A debouncer, and the history that has led to it. -/
structure Run (α : Type) where
  debouncer : Debouncer α
  history : List (Answered α) := []

namespace Run

def call (r : Run α) (c : DebouncerCall α) : Run α :=
  ⟨(r.debouncer.call c).2, r.history ++ [⟨c, (r.debouncer.call c).1⟩]⟩

def after (r : Run α) (calls : List (DebouncerCall α)) : Run α := calls.foldl call r

/-- A history holds all calls, in their order. -/
theorem calls_after (r : Run α) (calls : List (DebouncerCall α)) :
    (r.after calls).history.map Answered.call = r.history.map Answered.call ++ calls := by
  induction calls generalizing r with
  | nil => simp [after]
  | cons c calls ih =>
    have hc : (r.call c).history.map Answered.call = r.history.map Answered.call ++ [c] := by
      simp [call]
    exact (ih (r.call c)).trans (by rw [hc, List.append_assoc, List.singleton_append])

/-- What is pending is the open submission, due a window after its time. -/
structure Tracks (window : Nat) (r : Run α) : Prop where
  window_eq : r.debouncer.window = window
  pending_iff : ∀ p, r.debouncer.pending = some p ↔
    ∃ time, Answered.Open r.history p.payload time ∧ p.deadline = time + window

theorem tracks_new (window : Nat) : Tracks window (⟨.new window, []⟩ : Run α) := by
  refine ⟨rfl, fun p => ⟨nofun, ?_⟩⟩
  rintro ⟨time, hopen, -⟩
  exact absurd hopen (Answered.not_open_nil _ _)

theorem Tracks.submit {window : Nat} {r : Run α} (h : Tracks window r) (payload : α) (now : Nat) :
    Tracks window (r.call (.submit payload now)) := by
  refine ⟨h.window_eq, fun p => ?_⟩
  have hpending : (r.call (.submit payload now)).debouncer.pending = some ⟨payload, now + window⟩ := by
    rw [← h.window_eq]
    rfl
  have hopen : ∀ found time, Answered.Open (r.call (.submit payload now)).history found time ↔
      payload = found ∧ now = time := by
    intro found time
    rw [call, Answered.open_append_iff]
    constructor
    · rintro (he | ⟨hidle, -⟩)
      · exact DebouncerCall.submit.inj (congrArg Answered.call he)
      · obtain ⟨time, hpoll⟩ := hidle.2
        cases hpoll
    · rintro ⟨rfl, rfl⟩
      exact Or.inl rfl
  rw [hpending]
  constructor
  · intro hp
    obtain rfl := Option.some.inj hp
    exact ⟨now, (hopen _ _).2 ⟨rfl, rfl⟩, rfl⟩
  · rintro ⟨time, hfound, hdue⟩
    obtain ⟨rfl, rfl⟩ := (hopen _ _).1 hfound
    rw [← hdue]

theorem Tracks.poll {window : Nat} {r : Run α} (h : Tracks window r) (now : Nat) :
    Tracks window (r.call (.poll now)) := by
  refine ⟨(window_call _ _).trans h.window_eq, fun p => ?_⟩
  have hopen : ∀ payload time, Answered.Open (r.call (.poll now)).history payload time ↔
      (r.debouncer.call (.poll now)).1 = none ∧ Answered.Open r.history payload time := by
    intro payload time
    rw [Run.call, Answered.open_append_iff]
    constructor
    · rintro (he | ⟨hidle, hearlier⟩)
      · cases he
      · exact ⟨hidle.1, hearlier⟩
    · rintro ⟨hnone, hearlier⟩
      exact Or.inr ⟨⟨hnone, now, rfl⟩, hearlier⟩
  rcases r.debouncer.call_spec (.poll now) (by simp) with hsame | ⟨q, -, hhanded, hgone⟩
  · have hpending : (r.call (.poll now)).debouncer.pending = r.debouncer.pending := by
      rw [Run.call, hsame]
    simp only [hpending, h.pending_iff, hopen, hsame, true_and]
  · have hpending : (r.call (.poll now)).debouncer.pending = none := hgone
    simp [hpending, hopen, hhanded]

theorem Tracks.cancel {window : Nat} {r : Run α} (h : Tracks window r) :
    Tracks window (r.call .cancel) := by
  refine ⟨(window_call _ _).trans h.window_eq, fun p => ?_⟩
  have hpending : (r.call .cancel).debouncer.pending = none := pending_cancel _
  rw [hpending]
  constructor
  · intro hp
    cases hp
  · rintro ⟨time, hopen, -⟩
    exact absurd hopen (Answered.not_open_append_cancel _ _ _ _)

theorem Tracks.call {window : Nat} {r : Run α} (h : Tracks window r) (c : DebouncerCall α) :
    Tracks window (r.call c) := by
  cases c with
  | submit payload now => exact h.submit payload now
  | poll now => exact h.poll now
  | cancel => exact h.cancel

theorem Tracks.after {window : Nat} {r : Run α} (h : Tracks window r)
    (calls : List (DebouncerCall α)) : Tracks window (r.after calls) := by
  induction calls generalizing r with
  | nil => exact h
  | cons c calls ih => exact ih (h.call c)

theorem Tracks.isPending_iff {window : Nat} {r : Run α} (h : Tracks window r) :
    r.debouncer.isPending ↔ ∃ payload time, Answered.Open r.history payload time := by
  rw [isPending, Option.isSome_iff_exists]
  constructor
  · rintro ⟨p, hp⟩
    obtain ⟨time, hopen, -⟩ := (h.pending_iff p).1 hp
    exact ⟨p.payload, time, hopen⟩
  · rintro ⟨payload, time, hopen⟩
    exact ⟨⟨payload, time + window⟩, (h.pending_iff _).2 ⟨time, hopen, rfl⟩⟩

end Run
end Debouncer

/-- After any calls of a debouncer with a window, a poll hands out a payload exactly if that was submitted
last, no poll has handed it out and no cancellation has come since, and the window has passed since its
submission; a poll that hands out nothing changes nothing. There is a deadline exactly if a submission is
open, a window after its time. A cancellation hands out the open submission, however soon it comes, and
leaves nothing to hand out. -/
theorem poll_hands_out_open (window : Nat) (calls : List (DebouncerCall α)) :
    let r := Debouncer.Run.after ⟨.new window, []⟩ calls
    r.history.map Answered.call = calls ∧
    (∀ now payload, (r.debouncer.poll now).1 = some payload ↔
      ∃ time, Answered.Open r.history payload time ∧ time + window ≤ now) ∧
    (∀ now, (r.debouncer.poll now).1 = none → (r.debouncer.poll now).2 = r.debouncer) ∧
    (∀ deadline, r.debouncer.deadline = some deadline ↔
      ∃ payload time, Answered.Open r.history payload time ∧ deadline = time + window) ∧
    (r.debouncer.isPending ↔ ∃ payload time, Answered.Open r.history payload time) ∧
    (∀ payload, r.debouncer.cancel.1 = some payload ↔ ∃ time, Answered.Open r.history payload time) ∧
    r.debouncer.cancel.2.deadline = none := by
  intro r
  have hr : r.Tracks window := (Debouncer.Run.tracks_new window).after calls
  refine ⟨Debouncer.Run.calls_after _ calls, fun now payload => ?_, fun _ => Debouncer.poll_unchanged,
    fun deadline => ?_, hr.isPending_iff, fun payload => ?_, ?_⟩
  · rw [Debouncer.poll_eq_some_iff]
    constructor
    · rintro ⟨p, hp, rfl, hdue⟩
      obtain ⟨time, hopen, hdeadline⟩ := (hr.pending_iff p).1 hp
      exact ⟨time, hopen, hdeadline ▸ hdue⟩
    · rintro ⟨time, hopen, hdue⟩
      exact ⟨⟨payload, time + window⟩, (hr.pending_iff _).2 ⟨time, hopen, rfl⟩, rfl, hdue⟩
  · rw [Debouncer.deadline, Option.map_eq_some_iff]
    constructor
    · rintro ⟨p, hp, rfl⟩
      obtain ⟨time, hopen, hdeadline⟩ := (hr.pending_iff p).1 hp
      exact ⟨p.payload, time, hopen, hdeadline⟩
    · rintro ⟨payload, time, hopen, rfl⟩
      exact ⟨⟨payload, time + window⟩, (hr.pending_iff _).2 ⟨time, hopen, rfl⟩, rfl⟩
  · rw [Debouncer.handed_cancel, Option.map_eq_some_iff]
    constructor
    · rintro ⟨p, hp, rfl⟩
      obtain ⟨time, hopen, -⟩ := (hr.pending_iff p).1 hp
      exact ⟨time, hopen⟩
    · rintro ⟨time, hopen⟩
      exact ⟨⟨payload, time + window⟩, (hr.pending_iff _).2 ⟨time, hopen, rfl⟩, rfl⟩
  · rw [Debouncer.deadline, Debouncer.pending_cancel, Option.map_none]

/-- A second edit is cancelled inside its window: the cancellation hands it out, and no poll does, nor is
there a deadline to wait for. -/
theorem poll_hands_out_open_cancelled :
    let r := Debouncer.Run.after ⟨.new 500, []⟩ [.submit "a" 0, .submit "ab" 100, .cancel]
    r.history.map Answered.handed = [none, none, some "ab"] ∧
      (∀ now, (r.debouncer.poll now).1 = none) ∧ r.debouncer.deadline = none := by
  intro r
  obtain ⟨-, hpoll, -, hdeadline, -⟩ :=
    poll_hands_out_open 500 [.submit "a" 0, .submit "ab" 100, .cancel]
  have hclosed : ∀ payload time, ¬Answered.Open r.history payload time :=
    Answered.not_open_append_cancel [⟨.submit "a" 0, none⟩, ⟨.submit "ab" 100, none⟩] (some "ab")
  refine ⟨rfl, fun now => ?_, ?_⟩
  · refine Option.eq_none_iff_forall_ne_some.2 fun payload hhanded => ?_
    obtain ⟨time, hopen, -⟩ := (hpoll now payload).1 hhanded
    exact hclosed payload time hopen
  · refine Option.eq_none_iff_forall_ne_some.2 fun deadline hdue => ?_
    obtain ⟨payload, time, hopen, -⟩ := (hdeadline deadline).1 hdue
    exact hclosed payload time hopen

/-- Four edits inside one window are handed out as one, a window after the last of them. -/
example :
    let r := Debouncer.Run.after ⟨.new 500, []⟩
      [.submit "a" 0, .submit "ab" 100, .submit "abc" 150, .submit "abcd" 480]
    (r.debouncer.poll 979).1 = none ∧ (r.debouncer.poll 980).1 = some "abcd" := by
  decide

end LiveMarkup
