import LiveMarkup.Proofs.QuietWindow

/-! # What becomes of a submission

A submission leaves the debouncer with the call that takes it: the next submission replaces it, a poll
fires it, or a cancellation hands it back. The main statement says that each submission meets one of these
fates or is still pending, in the order in which they were made, and that the counters count the fates.
Equal payloads are told apart by numbering the submissions, which changes nothing else.
-/
namespace LiveMarkup

variable {α β : Type}

/-- What a call does to the submission that it takes. -/
inductive Fate where
  | replaced | fired | cancelled
deriving DecidableEq, Repr

namespace DebouncerCall

def fate : DebouncerCall α → Fate
  | submit .. => .replaced
  | poll _ => .fired
  | cancel => .cancelled

def payload? : DebouncerCall α → Option α
  | submit payload _ => some payload
  | poll _ | cancel => none

def map (f : α → β) : DebouncerCall α → DebouncerCall β
  | submit payload now => submit (f payload) now
  | poll now => poll now
  | cancel => cancel

/-- Calls with a number at each submission. -/
def numberedFrom : Nat → List (DebouncerCall α) → List (DebouncerCall (α × Nat))
  | _, [] => []
  | n, submit payload now :: calls => submit (payload, n) now :: numberedFrom (n + 1) calls
  | n, poll now :: calls => poll now :: numberedFrom n calls
  | n, cancel :: calls => cancel :: numberedFrom n calls

theorem map_fst_numberedFrom (n : Nat) (calls : List (DebouncerCall α)) :
    (numberedFrom n calls).map (map Prod.fst) = calls := by
  induction calls generalizing n with
  | nil => rfl
  | cons c calls ih => cases c <;> simp [numberedFrom, map, ih]

theorem payloads_numberedFrom (n : Nat) (calls : List (DebouncerCall α)) :
    (numberedFrom n calls).filterMap payload? = (calls.filterMap payload?).zipIdx n := by
  induction calls generalizing n with
  | nil => rfl
  | cons c calls ih => cases c <;> simp [numberedFrom, List.filterMap_cons, payload?, ih]

end DebouncerCall

/-! ## Payloads are only carried -/

def Pending.map (f : α → β) (p : Pending α) : Pending β := ⟨f p.payload, p.deadline⟩

def Answered.map (f : α → β) (e : Answered α) : Answered β := ⟨e.call.map f, e.handed.map f⟩

namespace Debouncer

/-- How many submissions have met a fate, by the counters. -/
def count (d : Debouncer α) : Fate → Nat
  | .replaced => d.coalesced
  | .fired => d.fired
  | .cancelled => d.cancelled

def map (f : α → β) (d : Debouncer α) : Debouncer β :=
  { d with pending := d.pending.map (Pending.map f) }

theorem count_map (f : α → β) (d : Debouncer α) (fate : Fate) :
    (d.map f).count fate = d.count fate := by
  cases fate <;> rfl

theorem isPending_map (f : α → β) (d : Debouncer α) : (d.map f).isPending = d.isPending := by
  simp [isPending, map]

theorem call_map (f : α → β) (d : Debouncer α) (c : DebouncerCall α) :
    (d.map f).call (c.map f) = ((d.call c).1.map f, (d.call c).2.map f) := by
  cases c with
  | submit payload now =>
    cases hp : d.pending <;> simp [DebouncerCall.map, call, submit, map, Pending.map, isPending, hp]
  | poll now =>
    cases hp : d.pending with
    | none => simp [DebouncerCall.map, call, poll, map, hp]
    | some p =>
      by_cases hdue : p.deadline ≤ now <;>
        simp [DebouncerCall.map, call, poll, map, Pending.map, hp, hdue]
  | cancel => cases hp : d.pending <;> simp [DebouncerCall.map, call, cancel, map, Pending.map, hp]

namespace Run

def map (f : α → β) (r : Run α) : Run β := ⟨r.debouncer.map f, r.history.map (Answered.map f)⟩

theorem after_map (f : α → β) (r : Run α) (calls : List (DebouncerCall α)) :
    (r.map f).after (calls.map (DebouncerCall.map f)) = (r.after calls).map f := by
  induction calls generalizing r with
  | nil => rfl
  | cons c calls ih =>
    have hcall : (r.map f).call (c.map f) = (r.call c).map f := by
      simp [call, map, call_map, Answered.map]
    simp only [after, List.map_cons, List.foldl_cons, hcall]
    exact ih (r.call c)

end Run

/-! ## Fates -/

def waiting (d : Debouncer α) : Option α := d.pending.map (·.payload)

theorem length_waiting (d : Debouncer α) :
    d.waiting.toList.length = if d.isPending then 1 else 0 := by
  cases hp : d.pending <;> simp [waiting, isPending, hp]

/-- The submission that a call takes out of the debouncer. -/
def takenBy (d : Debouncer α) (c : DebouncerCall α) : Option α :=
  match c with
  | .submit .. => d.waiting
  | .poll _ | .cancel => (d.call c).1

/-- The submissions that calls take, each with its call. -/
def ends : Debouncer α → List (DebouncerCall α) → List (α × DebouncerCall α)
  | _, [] => []
  | d, c :: calls => ((d.takenBy c).map (·, c)).toList ++ ends (d.call c).2 calls

/-- A call hands out what it takes, unless it is a submission. -/
theorem handed_call (d : Debouncer α) (c : DebouncerCall α) :
    (d.call c).1 = if c.fate = .replaced then none else d.takenBy c := by
  cases c <;> rfl

/-- What was waiting and what a call submits is taken by the call or waits afterwards. -/
theorem waiting_call (d : Debouncer α) (c : DebouncerCall α) :
    d.waiting.toList ++ c.payload?.toList = (d.takenBy c).toList ++ (d.call c).2.waiting.toList := by
  by_cases hc : ∃ payload now, c = .submit payload now
  · obtain ⟨payload, now, rfl⟩ := hc
    simp [DebouncerCall.payload?, takenBy, call, submit, waiting]
  have hc : ∀ payload now, c ≠ .submit payload now := fun payload now e => hc ⟨payload, now, e⟩
  obtain ⟨hpayload, htaken⟩ : c.payload? = none ∧ d.takenBy c = (d.call c).1 := by
    cases c with
    | submit payload now => exact absurd rfl (hc payload now)
    | poll now => exact ⟨rfl, rfl⟩
    | cancel => exact ⟨rfl, rfl⟩
  rcases d.call_spec c hc with hsame | ⟨p, hp, hhanded, hgone⟩
  · simp [hpayload, htaken, hsame]
  · simp [hpayload, htaken, hhanded, waiting, hp, hgone]

theorem count_call (d : Debouncer α) (c : DebouncerCall α) (fate : Fate) :
    (d.call c).2.count fate =
      d.count fate + if c.fate = fate then (d.takenBy c).toList.length else 0 := by
  cases c with
  | submit payload now =>
    cases hp : d.pending <;> cases fate <;>
      simp [DebouncerCall.fate, takenBy, call, submit, count, waiting, isPending, hp]
  | poll now =>
    cases hp : d.pending with
    | none => simp [takenBy, call, poll_of_none hp]
    | some p =>
      by_cases hdue : p.deadline ≤ now <;> cases fate <;>
        simp [DebouncerCall.fate, takenBy, call, poll_of_some hp, count, hdue]
  | cancel =>
    cases hp : d.pending <;> cases fate <;>
      simp [DebouncerCall.fate, takenBy, call, cancel, count, hp]

theorem submitted_call (d : Debouncer α) (c : DebouncerCall α) :
    (d.call c).2.submitted = d.submitted + c.payload?.toList.length := by
  cases c with
  | submit payload now => rfl
  | poll now =>
    rw [call, poll]
    split
    · split_ifs <;> rfl
    · rfl
  | cancel =>
    rw [call, cancel]
    split <;> rfl

namespace Run

/-- The submissions made, in their order, are those taken and the one that is waiting. -/
theorem ends_append_waiting (r : Run α) (calls : List (DebouncerCall α)) :
    (ends r.debouncer calls).map Prod.fst ++ (r.after calls).debouncer.waiting.toList =
      r.debouncer.waiting.toList ++ calls.filterMap DebouncerCall.payload? := by
  induction calls generalizing r with
  | nil => simp [ends, after]
  | cons c calls ih =>
    have hcall := r.debouncer.waiting_call c
    have hih := ih (r.call c)
    calc (ends r.debouncer (c :: calls)).map Prod.fst ++ (r.after (c :: calls)).debouncer.waiting.toList
        = (r.debouncer.takenBy c).toList ++ ((ends (r.call c).debouncer calls).map Prod.fst ++
            ((r.call c).after calls).debouncer.waiting.toList) := by
          cases h : r.debouncer.takenBy c <;> simp [ends, h, after, call]
      _ = (r.debouncer.takenBy c).toList ++ ((r.debouncer.call c).2.waiting.toList ++
            calls.filterMap DebouncerCall.payload?) := by rw [hih, call]
      _ = r.debouncer.waiting.toList ++ (c :: calls).filterMap DebouncerCall.payload? := by
          rw [← List.append_assoc, ← hcall, List.append_assoc]
          cases h : c.payload? <;> simp [h]

/-- The calls of some fates hand out the submissions that meet them, but none that is replaced. -/
theorem handed_after (p : Fate → Bool) (r : Run α) (calls : List (DebouncerCall α)) :
    ((r.after calls).history.filter fun e => p e.call.fate).filterMap Answered.handed =
      (r.history.filter fun e => p e.call.fate).filterMap Answered.handed ++
        ((ends r.debouncer calls).filter fun e => p e.2.fate && e.2.fate ≠ .replaced).map Prod.fst := by
  induction calls generalizing r with
  | nil => simp [ends, after]
  | cons c calls ih =>
    have hhanded := r.debouncer.handed_call c
    refine (ih (r.call c)).trans ?_
    rw [ends, List.filter_append, List.map_append, ← List.append_assoc]
    congr 1
    simp only [call, List.filter_append, List.filterMap_append]
    congr 1
    by_cases hp : p c.fate = true <;> by_cases hfate : c.fate = .replaced <;>
      cases htaken : r.debouncer.takenBy c <;> simp_all

theorem count_after (fate : Fate) (r : Run α) (calls : List (DebouncerCall α)) :
    (r.after calls).debouncer.count fate =
      r.debouncer.count fate + ((ends r.debouncer calls).filter fun e => e.2.fate = fate).length := by
  induction calls generalizing r with
  | nil => simp [ends, after]
  | cons c calls ih =>
    have hcall : (r.call c).debouncer.count fate = _ := r.debouncer.count_call c fate
    refine (ih (r.call c)).trans ?_
    rw [hcall, ends, List.filter_append, List.length_append, ← Nat.add_assoc]
    congr 2
    by_cases hfate : c.fate = fate <;> cases r.debouncer.takenBy c <;> simp [hfate]

theorem submitted_after (r : Run α) (calls : List (DebouncerCall α)) :
    (r.after calls).debouncer.submitted =
      r.debouncer.submitted + (calls.filterMap DebouncerCall.payload?).length := by
  induction calls generalizing r with
  | nil => simp [after]
  | cons c calls ih =>
    have hcall : (r.call c).debouncer.submitted = _ := r.debouncer.submitted_call c
    refine (ih (r.call c)).trans ?_
    rw [hcall, Nat.add_assoc]
    cases h : c.payload? <;> simp [h, Nat.add_comm]

end Run

theorem mem_ends_cons {d : Debouncer α} {first c : DebouncerCall α} {calls : List (DebouncerCall α)}
    {s : α} :
    (s, c) ∈ ends d (first :: calls) ↔
      d.takenBy first = some s ∧ first = c ∨ (s, c) ∈ ends (d.call first).2 calls := by
  rw [ends, List.mem_append]
  cases d.takenBy first <;> simp [eq_comm]

theorem call_mem_of_mem_ends {d : Debouncer α} {calls : List (DebouncerCall α)} {s : α}
    {c : DebouncerCall α} (h : (s, c) ∈ ends d calls) : c ∈ calls := by
  induction calls generalizing d with
  | nil => simp [ends] at h
  | cons first calls ih =>
    rcases mem_ends_cons.1 h with ⟨-, rfl⟩ | h
    · exact List.mem_cons_self
    · exact List.mem_cons_of_mem _ (ih h)

/-- A call that does not submit brings nothing to wait. -/
theorem waiting_of_call {d : Debouncer α} {c : DebouncerCall α} (hc : c.payload? = none) {s : α}
    (hs : (d.call c).2.waiting = some s) : d.waiting = some s := by
  have hcall := d.waiting_call c
  rw [hc, hs, Option.toList_none, List.append_nil] at hcall
  have hmem : s ∈ d.waiting.toList := by simp [hcall]
  exact Option.mem_toList.1 hmem

/-- If the submission that waits is the last one made, then each is replaced by the one behind it. -/
theorem succ_of_replaced {n : Nat} {d : Debouncer (α × Nat)} (calls : List (DebouncerCall α))
    (hlast : ∀ s, d.waiting = some s → s.2 + 1 = n) {s next : α × Nat} {now : Nat}
    (h : (s, .submit next now) ∈ ends d (DebouncerCall.numberedFrom n calls)) : next.2 = s.2 + 1 := by
  induction calls generalizing n d with
  | nil => simp [DebouncerCall.numberedFrom, ends] at h
  | cons c calls ih =>
    cases c with
    | submit payload time =>
      rcases mem_ends_cons.1 h with ⟨hs, hnext⟩ | h
      · obtain ⟨rfl, -⟩ := DebouncerCall.submit.inj hnext
        exact (hlast s hs).symm
      · refine ih (fun t ht => ?_) h
        obtain rfl : (payload, n) = t := by simpa [call, submit, waiting] using ht
        rfl
    | poll time =>
      rcases mem_ends_cons.1 h with ⟨-, hnext⟩ | h
      · cases hnext
      · exact ih (fun t ht => hlast t (waiting_of_call rfl ht)) h
    | cancel =>
      rcases mem_ends_cons.1 h with ⟨-, hnext⟩ | h
      · cases hnext
      · exact ih (fun t ht => hlast t (waiting_of_call rfl ht)) h

end Debouncer

theorem length_eq_add_fates (l : List (α × DebouncerCall α)) :
    l.length = (l.filter fun e => e.2.fate = .replaced).length +
      (l.filter fun e => e.2.fate = .fired).length + (l.filter fun e => e.2.fate = .cancelled).length := by
  induction l with
  | nil => rfl
  | cons e l ih =>
    cases h : e.2.fate <;> simp [h] <;> omega

/-- Where a list without repetition is cut into what was taken and what waits, each of its members is
taken once or waits. -/
theorem taken_or_waits {γ : Type} {all : List α} {taken : List (α × γ)} {waits : Option α}
    (h : taken.map Prod.fst ++ waits.toList = all) (hall : all.Nodup) {s : α} (hs : s ∈ all) :
    (∃! c, (s, c) ∈ taken) ∧ waits ≠ some s ∨ (∀ c, (s, c) ∉ taken) ∧ waits = some s := by
  rw [← h, List.mem_append, Option.mem_toList] at hs
  rw [← h, List.nodup_append] at hall
  obtain ⟨htaken, -, hapart⟩ := hall
  rcases hs with hs | hs
  · obtain ⟨⟨s, c⟩, hc, rfl⟩ := List.mem_map.1 hs
    refine Or.inl ⟨⟨c, hc, fun d hd => ?_⟩, fun hw => hapart s hs s (by simp [hw]) rfl⟩
    exact congrArg Prod.snd (List.inj_on_of_nodup_map htaken hd hc rfl)
  · refine Or.inr ⟨fun c hc => hapart s (List.mem_map_of_mem hc) s (by simpa using hs) rfl, hs⟩

theorem pairwise_zipIdx (l : List α) : l.zipIdx.Pairwise fun s t => s.2 < t.2 := by
  rw [← List.pairwise_map (f := Prod.snd) (R := (· < ·)), List.zipIdx_map_snd]
  exact List.pairwise_lt_range'

open Debouncer

/-- Each submission, told apart by its number, is taken by exactly one call or is pending, in the order in
which they were made. One that a submission takes is replaced by the next one. What polls and cancellations
take is what they hand out, so no submission is handed out twice or behind a later one. The counters count
the fates. -/
theorem one_fate_for_each (window : Nat) (calls : List (DebouncerCall α)) :
    let submitted := (calls.filterMap DebouncerCall.payload?).zipIdx
    let numbered := DebouncerCall.numberedFrom 0 calls
    let r := Run.after ⟨.new window, []⟩ numbered
    let d := (Run.after ⟨.new window, []⟩ calls).debouncer
    let taken := ends (.new window) numbered
    r.map Prod.fst = Run.after ⟨.new window, []⟩ calls ∧
    taken.map Prod.fst ++ r.debouncer.waiting.toList = submitted ∧
    (∀ s ∈ submitted, (∃! c, (s, c) ∈ taken) ∧ r.debouncer.waiting ≠ some s ∨
      (∀ c, (s, c) ∉ taken) ∧ r.debouncer.waiting = some s) ∧
    (∀ s next now, (s, .submit next now) ∈ taken → next ∈ submitted ∧ next.2 = s.2 + 1) ∧
    (∀ fate, fate ≠ .replaced →
      (r.history.filter fun e => e.call.fate = fate).filterMap Answered.handed =
        (taken.filter fun e => e.2.fate = fate).map Prod.fst) ∧
    (r.history.filterMap Answered.handed).Pairwise (fun s t => s.2 < t.2) ∧
    (∀ fate, d.count fate = (taken.filter fun e => e.2.fate = fate).length) ∧
    d.submitted = submitted.length ∧
    d.submitted = d.coalesced + d.fired + d.cancelled + if d.isPending then 1 else 0 := by
  intro submitted numbered r d taken
  have hplain : r.map Prod.fst = Run.after ⟨.new window, []⟩ calls := by
    have hmap := Run.after_map Prod.fst (⟨.new window, []⟩ : Run (α × Nat)) numbered
    rw [DebouncerCall.map_fst_numberedFrom] at hmap
    exact hmap.symm
  have hd : d = r.debouncer.map Prod.fst := congrArg Run.debouncer hplain.symm
  have hsubmitted : numbered.filterMap DebouncerCall.payload? = submitted :=
    DebouncerCall.payloads_numberedFrom 0 calls
  have hcut : taken.map Prod.fst ++ r.debouncer.waiting.toList = submitted :=
    (Run.ends_append_waiting ⟨.new window, []⟩ numbered).trans hsubmitted
  have hordered : submitted.Pairwise fun s t => s.2 < t.2 := pairwise_zipIdx _
  have hnodup : submitted.Nodup := hordered.imp fun hlt he => absurd (congrArg Prod.snd he) hlt.ne
  have hcount : ∀ fate, d.count fate = (taken.filter fun e => e.2.fate = fate).length := by
    intro fate
    have hnew : (new window : Debouncer (α × Nat)).count fate = 0 := by cases fate <;> rfl
    rw [hd, count_map]
    exact (Run.count_after fate ⟨.new window, []⟩ numbered).trans (by rw [hnew, Nat.zero_add])
  have hmade : d.submitted = submitted.length := by
    rw [hd, ← hsubmitted]
    exact (Run.submitted_after ⟨.new window, []⟩ numbered).trans (Nat.zero_add _)
  refine ⟨hplain, hcut, fun s hs => taken_or_waits hcut hnodup hs, fun s next now h => ⟨?_, ?_⟩,
    fun fate hfate => ?_, ?_, hcount, hmade, ?_⟩
  · rw [← hsubmitted]
    exact List.mem_filterMap.2 ⟨_, call_mem_of_mem_ends h, rfl⟩
  · exact succ_of_replaced calls (by simp [new, waiting]) h
  · have hhanded := Run.handed_after (fun f => f = fate) ⟨.new window, []⟩ numbered
    refine hhanded.trans ?_
    rw [List.filter_nil, List.filterMap_nil, List.nil_append]
    congr 1
    refine List.filter_congr fun e _ => ?_
    by_cases he : e.2.fate = fate <;> simp [he, hfate]
  · have hhanded := Run.handed_after (fun _ => true) ⟨.new window, []⟩ numbered
    simp only [List.filter_true, List.filterMap_nil, List.nil_append] at hhanded
    rw [hhanded]
    have htaken : (taken.map Prod.fst).Sublist submitted := by
      rw [← hcut]
      exact List.sublist_append_left _ _
    exact hordered.sublist ((List.filter_sublist.map Prod.fst).trans htaken)
  · have hlength := congrArg List.length hcut
    rw [List.length_append, List.length_map, length_eq_add_fates, ← hcount, ← hcount, ← hcount,
      length_waiting, ← isPending_map Prod.fst, ← hd, ← hmade] at hlength
    exact hlength.symm

/-- Four equal payloads: the first is replaced, the second fired, the third cancelled, and the last is
pending. -/
theorem one_fate_for_each_equal :
    let calls : List (DebouncerCall String) :=
      [.submit "a" 0, .submit "a" 10, .poll 510, .submit "a" 600, .cancel, .poll 1100, .submit "a" 1200]
    let submitted := (calls.filterMap DebouncerCall.payload?).zipIdx
    let r := Run.after ⟨.new 500, []⟩ (DebouncerCall.numberedFrom 0 calls)
    let taken := ends (.new 500) (DebouncerCall.numberedFrom 0 calls)
    taken = [(("a", 0), .submit ("a", 1) 10), (("a", 1), .poll 510), (("a", 2), .cancel)] ∧
      r.debouncer.waiting = some ("a", 3) ∧
      ("a", 0) ∈ submitted ∧
      ((∃! c, (("a", 0), c) ∈ taken) ∧ r.debouncer.waiting ≠ some ("a", 0) ∨
        (∀ c, (("a", 0), c) ∉ taken) ∧ r.debouncer.waiting = some ("a", 0)) ∧
      (("a", 0), .submit ("a", 1) 10) ∈ taken ∧ ("a", 1) ∈ submitted ∧ 1 = 0 + 1 ∧
      Fate.fired ≠ .replaced ∧
      (r.history.filter fun e => e.call.fate = .fired).filterMap Answered.handed =
        (taken.filter fun e => e.2.fate = .fired).map Prod.fst := by
  intro calls submitted r taken
  have hmem : ("a", 0) ∈ submitted := by decide
  have htaken : (("a", 0), .submit ("a", 1) 10) ∈ taken := by decide
  obtain ⟨-, -, heach, hreplaced, hhanded, -⟩ := one_fate_for_each 500 calls
  obtain ⟨hnext, hsucc⟩ := hreplaced ("a", 0) ("a", 1) 10 htaken
  exact ⟨by decide, by decide, hmem, heach ("a", 0) hmem, htaken, hnext, hsucc, nofun,
    hhanded .fired nofun⟩

end LiveMarkup
