/-! # Trailing-edge debouncing

Every submission replaces the pending payload and moves the deadline to its own time plus the window.
A payload is handed out by the first poll at or after the deadline. There is no leading edge and no
longest wait: submissions that keep coming faster than the window postpone the hand-out for ever.
-/
namespace LiveMarkup

structure Pending (α : Type) where
  payload : α
  deadline : Nat
deriving DecidableEq, Repr

/-- The state of a debouncer, with counters of what became of the payloads. -/
structure Debouncer (α : Type) where
  window : Nat
  pending : Option (Pending α) := none
  submitted : Nat := 0
  coalesced : Nat := 0
  fired : Nat := 0
  cancelled : Nat := 0
deriving DecidableEq, Repr

namespace Debouncer

variable {α : Type}

/-- The window in milliseconds unless the configuration sets another. -/
def defaultWindow : Nat := 500

def new (window : Nat) : Debouncer α := { window }

def deadline (d : Debouncer α) : Option Nat := d.pending.map (·.deadline)

def isPending (d : Debouncer α) : Bool := d.pending.isSome

def submit (d : Debouncer α) (payload : α) (now : Nat) : Debouncer α :=
  { d with
    pending := some ⟨payload, now + d.window⟩
    submitted := d.submitted + 1
    coalesced := if d.isPending then d.coalesced + 1 else d.coalesced }

def poll (d : Debouncer α) (now : Nat) : Option α × Debouncer α :=
  match d.pending with
  | some p =>
    if p.deadline ≤ now then (some p.payload, { d with pending := none, fired := d.fired + 1 })
    else (none, d)
  | none => (none, d)

def cancel (d : Debouncer α) : Option α × Debouncer α :=
  match d.pending with
  | some p => (some p.payload, { d with pending := none, cancelled := d.cancelled + 1 })
  | none => (none, d)

theorem handed_cancel (d : Debouncer α) : d.cancel.1 = d.pending.map (·.payload) := by
  unfold cancel
  cases d.pending <;> rfl

theorem pending_cancel (d : Debouncer α) : d.cancel.2.pending = none := by
  unfold cancel
  split
  · rfl
  · assumption

end Debouncer
end LiveMarkup
