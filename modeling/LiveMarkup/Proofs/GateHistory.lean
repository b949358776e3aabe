import Mathlib
import LiveMarkup.Generation

/-! # Histories of the gate

A history is the list of the calls that a new gate has answered. The gate lets a generation through exactly
if it is a record, greater than zero and than all that were delivered before, whichever of them had been
issued and in whatever order they came. If only issued generations are delivered, then none is in flight
exactly when the newest one has been delivered.
-/
namespace LiveMarkup
namespace GenerationGate

/-- A call of the gate: for the next generation, or with a generation whose result has arrived. -/
inductive Call where
  | issue
  | deliver (generation : Nat)
deriving DecidableEq

inductive Answer where
  | issued (generation : Nat)
  | verdict (letThrough : Bool)
deriving DecidableEq

def call (g : GenerationGate) : Call → Answer × GenerationGate
  | .issue => (.issued g.issue.1, g.issue.2)
  | .deliver generation => (.verdict (g.accept generation).1, (g.accept generation).2)

def run (g : GenerationGate) (calls : List Call) : GenerationGate :=
  calls.foldl (fun g c => (g.call c).2) g

/-- The answers to calls, each given by the gate as the calls before have left it. -/
def answers : GenerationGate → List Call → List Answer
  | _, [] => []
  | g, c :: calls => (g.call c).1 :: answers (g.call c).2 calls

def Call.delivered? : Call → Option Nat
  | issue => none
  | deliver generation => some generation

def Answer.issued? : Answer → Option Nat
  | issued generation => some generation
  | verdict _ => none

/-- The generations delivered in a history, in the order in which they came. -/
def delivered (calls : List Call) : List Nat := calls.filterMap Call.delivered?

/-- The generations that a new gate issues in a history. -/
def numbers (calls : List Call) : List Nat := (answers {} calls).filterMap Answer.issued?

/-- Histories in which a generation is delivered only after it was issued. -/
inductive OnlyIssued : List Call → Prop
  | nil : OnlyIssued []
  | issue {calls : List Call} (h : OnlyIssued calls) : OnlyIssued (calls ++ [.issue])
  | deliver {calls : List Call} {generation : Nat} (h : OnlyIssued calls)
      (known : generation ∈ numbers calls) : OnlyIssued (calls ++ [.deliver generation])

theorem run_concat (g : GenerationGate) (calls : List Call) (c : Call) :
    g.run (calls ++ [c]) = ((g.run calls).call c).2 := by
  simp [run, List.foldl_append]

theorem answers_concat (g : GenerationGate) (calls : List Call) (c : Call) :
    answers g (calls ++ [c]) = answers g calls ++ [((g.run calls).call c).1] := by
  induction calls generalizing g with
  | nil => rfl
  | cons first calls ih =>
    rw [List.cons_append, answers, ih]
    rfl

theorem delivered_concat (calls : List Call) (c : Call) :
    delivered (calls ++ [c]) = delivered calls ++ c.delivered?.toList := by
  simp [delivered, List.filterMap_eq_flatMap_toList]

theorem numbers_concat (calls : List Call) (c : Call) :
    numbers (calls ++ [c]) = numbers calls ++ ((run {} calls).call c).1.issued?.toList := by
  simp [numbers, answers_concat, List.filterMap_eq_flatMap_toList]

/-- The verdict on a generation, and the gate behind it. -/
theorem accept_spec (g : GenerationGate) (generation : Nat) :
    g.accept generation = (decide (g.applied < generation),
      ⟨g.issued, max g.applied generation, g.discarded + if g.applied < generation then 0 else 1⟩) := by
  unfold accept
  split_ifs with h
  · rw [max_eq_right h.le, decide_eq_true h, Nat.add_zero]
  · rw [max_eq_left (not_lt.1 h), decide_eq_false h]

theorem call_deliver (g : GenerationGate) (generation : Nat) :
    g.call (.deliver generation) = (.verdict (decide (g.applied < generation)),
      ⟨g.issued, max g.applied generation, g.discarded + if g.applied < generation then 0 else 1⟩) := by
  rw [call, accept_spec]

theorem foldl_max_lt_iff {a n : Nat} {l : List Nat} :
    l.foldl max a < n ↔ a < n ∧ ∀ m ∈ l, m < n := by
  induction l generalizing a with
  | nil => simp
  | cons m l ih => rw [List.foldl_cons, ih, max_lt_iff, List.forall_mem_cons, and_assoc]

theorem applied_run (calls : List Call) :
    (run {} calls).applied = (delivered calls).foldl max 0 := by
  induction calls using List.reverseRecOn with
  | nil => rfl
  | append_singleton calls c ih =>
    rw [run_concat, delivered_concat, List.foldl_append, ← ih]
    cases c with
    | issue => rfl
    | deliver generation => rw [call_deliver]; rfl

theorem discarded_run (calls : List Call) :
    (run {} calls).discarded = (answers {} calls).count (.verdict false) := by
  induction calls using List.reverseRecOn with
  | nil => rfl
  | append_singleton calls c ih =>
    rw [run_concat, answers_concat, List.count_append, ← ih]
    cases c with
    | issue => rfl
    | deliver generation =>
      rw [call_deliver]
      by_cases h : (run {} calls).applied < generation <;> simp [h]

theorem issued_run (calls : List Call) : (run {} calls).issued = calls.count .issue := by
  induction calls using List.reverseRecOn with
  | nil => rfl
  | append_singleton calls c ih =>
    rw [run_concat, List.count_append, ← ih]
    cases c with
    | issue => rfl
    | deliver generation => rw [call_deliver]; rfl

/-- The generations issued are the numbers from one on, whatever is delivered. -/
theorem numbers_eq_range' (calls : List Call) :
    numbers calls = List.range' 1 (calls.count .issue) := by
  induction calls using List.reverseRecOn with
  | nil => rfl
  | append_singleton calls c ih =>
    rw [numbers_concat, ih, List.count_append]
    cases c with
    | issue =>
      have hnext : ((run {} calls).call .issue).1.issued?.toList = [1 + calls.count .issue] := by
        rw [← issued_run, Nat.add_comm]
        rfl
      rw [hnext]
      exact List.range'_1_concat.symm
    | deliver generation => exact List.append_nil _

theorem applied_lt_iff (calls : List Call) (n : Nat) :
    (run {} calls).applied < n ↔ 0 < n ∧ ∀ m ∈ delivered calls, m < n := by
  rw [applied_run, foldl_max_lt_iff]

theorem accept_iff (calls : List Call) (generation : Nat) :
    ((run {} calls).accept generation).1 = true ↔
      0 < generation ∧ ∀ earlier ∈ delivered calls, earlier < generation := by
  rw [accept_spec, decide_eq_true_eq, applied_lt_iff]

namespace OnlyIssued
variable {calls before : List Call}

theorem beginning (h : OnlyIssued calls) (hp : before <+: calls) : OnlyIssued before := by
  induction h with
  | nil =>
    obtain rfl := List.prefix_nil.1 hp
    exact .nil
  | issue h ih =>
    rcases List.prefix_concat_iff.1 hp with rfl | hp
    · exact h.issue
    · exact ih hp
  | deliver h known ih =>
    rcases List.prefix_concat_iff.1 hp with rfl | hp
    · exact h.deliver known
    · exact ih hp

theorem le_issued (h : OnlyIssued calls) {generation : Nat} (hm : generation ∈ delivered calls) :
    generation ≤ (run {} calls).issued := by
  induction h with
  | nil => exact absurd hm List.not_mem_nil
  | issue h ih =>
    rw [delivered_concat, List.mem_append] at hm
    rcases hm with hm | hm
    · rw [run_concat]
      exact (ih hm).trans (Nat.le_succ _)
    · exact absurd hm List.not_mem_nil
  | deliver h known ih =>
    rw [run_concat, call_deliver]
    rw [delivered_concat, List.mem_append] at hm
    rcases hm with hm | hm
    · exact ih hm
    · obtain rfl := List.mem_singleton.1 hm
      rw [numbers_eq_range', ← issued_run, List.mem_range'_1] at known
      exact Nat.le_of_lt_succ (known.2.trans_eq (Nat.add_comm 1 _))

theorem applied_le_issued (h : OnlyIssued calls) :
    (run {} calls).applied ≤ (run {} calls).issued := by
  rw [← Nat.lt_succ_iff, applied_lt_iff]
  exact ⟨Nat.succ_pos _, fun m hm => Nat.lt_succ_of_le (h.le_issued hm)⟩

/-- Nothing is in flight exactly when the newest generation has come back. -/
theorem inFlight_eq_false_iff (h : OnlyIssued calls) :
    (run {} calls).inFlight = false ↔
      ∀ newest ∈ (numbers calls).getLast?, newest ∈ delivered calls := by
  rw [inFlight, decide_eq_false_iff_not, numbers_eq_range', ← issued_run, applied_lt_iff]
  have hle : ∀ m ∈ delivered calls, m ≤ (run {} calls).issued := fun m => h.le_issued
  generalize (run {} calls).issued = issued at hle
  cases issued with
  | zero => simp
  | succ n =>
    rw [List.range'_1_concat, List.getLast?_concat]
    constructor
    · intro hreached newest hnewest
      obtain rfl := Option.mem_some_iff.1 hnewest
      by_contra hmissing
      refine hreached ⟨Nat.succ_pos n, fun m hm => lt_of_le_of_ne (hle m hm) fun he => ?_⟩
      rw [he, Nat.add_comm] at hm
      exact hmissing hm
    · intro hback hbelow
      have hself := hbelow.2 _ (hback (1 + n) rfl)
      omega

end OnlyIssued

/-- After any history a generation is let through exactly if it is a record. The last one applied is the
greatest delivered, so the order of the deliveries does not matter to it, and every other delivery is
counted as discarded. The generations issued are the numbers from one on. If each was issued before it was
delivered, then in every state of the history none beyond the newest has been applied, and nothing is in
flight exactly when the newest has been delivered. -/
theorem accept_iff_record (calls : List Call) :
    let gate := run {} calls
    (∀ generation, (gate.accept generation).1 = true ↔
      0 < generation ∧ ∀ earlier ∈ delivered calls, earlier < generation) ∧
    gate.applied = (delivered calls).foldl max 0 ∧
    gate.discarded = (answers {} calls).count (.verdict false) ∧
    (∀ others, (delivered others).Perm (delivered calls) →
      (run {} others).applied = gate.applied) ∧
    numbers calls = List.range' 1 (calls.count .issue) ∧
    gate.issued = calls.count .issue ∧
    (OnlyIssued calls → ∀ before, before <+: calls →
      (run {} before).applied ≤ (run {} before).issued ∧
      ((run {} before).inFlight = false ↔
        ∀ newest ∈ (numbers before).getLast?, newest ∈ delivered before)) := by
  intro gate
  refine ⟨accept_iff calls, applied_run calls, discarded_run calls, ?_, numbers_eq_range' calls,
    issued_run calls, ?_⟩
  · intro others hperm
    rw [applied_run, hperm.foldl_eq, ← applied_run]
  · intro h before hp
    have hbefore := h.beginning hp
    exact ⟨hbefore.applied_le_issued, hbefore.inFlight_eq_false_iff⟩

/-- A history with a late delivery and a repeated one, and its deliveries alone in another order. -/
theorem accept_iff_record_late :
    let calls : List Call := [.issue, .issue, .deliver 2, .deliver 1, .issue, .deliver 2]
    let others : List Call := [.deliver 1, .deliver 2, .deliver 2]
    OnlyIssued calls ∧ (delivered others).Perm (delivered calls) ∧
    answers {} calls = [.issued 1, .issued 2, .verdict true, .verdict false, .issued 3,
      .verdict false] ∧
    (run {} others).applied = (run {} calls).applied ∧
    ∀ before, before <+: calls →
      (run {} before).applied ≤ (run {} before).issued ∧
      ((run {} before).inFlight = false ↔
        ∀ newest ∈ (numbers before).getLast?, newest ∈ delivered before) := by
  intro calls others
  have hfirst := @OnlyIssued.deliver _ 2 OnlyIssued.nil.issue.issue (by decide)
  have hlate := @OnlyIssued.deliver _ 1 hfirst (by decide)
  have honly : OnlyIssued calls := @OnlyIssued.deliver _ 2 hlate.issue (by decide)
  have hperm : (delivered others).Perm (delivered calls) := by decide
  obtain ⟨-, -, -, horder, -, -, halways⟩ := accept_iff_record calls
  exact ⟨honly, hperm, by decide, horder others hperm, halways honly⟩

/-- A generation that was never issued is a record like any other. -/
example : answers {} [.issue, .deliver 7, .deliver 1, .deliver 0] =
    [.issued 1, .verdict true, .verdict false, .verdict false] := by
  decide

end GenerationGate
end LiveMarkup
