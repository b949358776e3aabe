import Mathlib
import LiveMarkup.Editor

/-! # Subscriptions

A history lists the uses that are made of a new editor and its surface, each with the plain text at its
time and with its answer. The main statement says that the handler with a number is called with the plain
texts at the changes between its subscription and its unsubscription, and with nothing else. Numbers only
grow, so a subscription that has ended does not begin again, and those that last are in their order.
-/
namespace LiveMarkup

structure BoundEditor where
  editor : Editor
  surface : Surface

namespace BoundEditor

inductive Use where
  | subscribe
  | unsubscribe (id : Nat)
  | setText (text : String)
  | setMarkup (markup : String)
  | render
  | change
deriving DecidableEq

inductive Answer where
  | subscribed (id : Nat)
  | unsubscribed (found : Bool)
  | edited (changed : Bool)
  | done
  | changed (text : String) (notified : List Nat)
deriving DecidableEq

def use (b : BoundEditor) : Use → Answer × BoundEditor
  | .subscribe => (.subscribed b.editor.subscribe.1, { b with editor := b.editor.subscribe.2 })
  | .unsubscribe id =>
    (.unsubscribed (b.editor.unsubscribe id).1, { b with editor := (b.editor.unsubscribe id).2 })
  | .setText text =>
    (.edited (b.surface.setText text).1, { b with surface := (b.surface.setText text).2 })
  | .setMarkup markup => (.done, { b with surface := b.surface.setMarkup markup })
  | .render => (.done, { b with surface := b.editor.render b.surface })
  | .change =>
    let c := b.editor.handleChange b.surface
    (.changed c.text c.notified, ⟨c.editor, c.surface⟩)

/-- A new editor, bound to a surface. -/
def new (lexer : Lexer) (styles : StyleMap) (surface : Surface) : BoundEditor :=
  ⟨{ lexer, styles }, surface⟩

def run (b : BoundEditor) (uses : List Use) : BoundEditor := uses.foldl (fun b u => (b.use u).2) b

/-- The calls of handlers in an answer, one after the other, each with its text. -/
def Answer.calls : Answer → List (Nat × String)
  | changed text notified => notified.map (·, text)
  | _ => []

/-- A use with the plain text of the surface at its time, and its answer. -/
structure Used where
  text : String
  use : Use
  answer : Answer
deriving DecidableEq

namespace Used

/-- The subscription that begins with a use. -/
def begun? (e : Used) : Option Nat :=
  match e.answer with
  | .subscribed id => some id
  | _ => none

/-- The subscription that ends with a use. -/
def ended? (e : Used) : Option Nat :=
  match e.use, e.answer with
  | .unsubscribe id, .unsubscribed true => some id
  | _, _ => none

/-- The plain text at a change. -/
def changeText? (e : Used) : Option String := if e.use = .change then some e.text else none

/-- The texts with which a use calls the handler with a number. -/
def received (id : Nat) (e : Used) : List String :=
  (e.answer.calls.filter fun c => c.1 = id).map Prod.snd

end Used

def used (b : BoundEditor) (u : Use) : Used := ⟨b.surface.text, u, (b.use u).1⟩

def history : BoundEditor → List Use → List Used
  | _, [] => []
  | b, u :: uses => b.used u :: history (b.use u).2 uses

/-- The texts that the handler with a number has been called with. -/
def received (id : Nat) (history : List Used) : List String := history.flatMap (Used.received id)

def begun (history : List Used) : List Nat := history.filterMap Used.begun?

def ended (history : List Used) : List Nat := history.filterMap Used.ended?

/-- The subscriptions that have begun and not ended, in the order in which they began. -/
def subscribers (history : List Used) : List Nat :=
  (begun history).filter fun id => id ∉ ended history

/-- The part of a history behind the beginning of a subscription and in front of its end. -/
def during (id : Nat) (history : List Used) : List Used :=
  ((history.dropWhile fun e => e.begun? ≠ some id).drop 1).takeWhile fun e => e.ended? ≠ some id

theorem run_concat (b : BoundEditor) (uses : List Use) (u : Use) :
    b.run (uses ++ [u]) = ((b.run uses).use u).2 := by
  simp [run, List.foldl_append]

theorem history_concat (b : BoundEditor) (uses : List Use) (u : Use) :
    b.history (uses ++ [u]) = b.history uses ++ [(b.run uses).used u] := by
  induction uses generalizing b with
  | nil => rfl
  | cons first uses ih =>
    rw [List.cons_append, history, ih]
    rfl

theorem begun_concat (history : List Used) (e : Used) :
    begun (history ++ [e]) = begun history ++ e.begun?.toList := by
  simp [begun, List.filterMap_eq_flatMap_toList]

theorem ended_concat (history : List Used) (e : Used) :
    ended (history ++ [e]) = ended history ++ e.ended?.toList := by
  simp [ended, List.filterMap_eq_flatMap_toList]

/-- Unless it had ended before, the subscription that begins with a use is added to those that last. -/
theorem subscribers_concat {history : List Used} {e : Used}
    (hnew : ∀ id, e.begun? = some id → id ∉ ended history) :
    subscribers (history ++ [e]) =
      (subscribers history ++ e.begun?.toList).filter fun id => e.ended? ≠ some id := by
  have hbegun : e.begun?.toList.filter (fun id => id ∉ ended history) = e.begun?.toList :=
    List.filter_eq_self.2 fun id hid => decide_eq_true (hnew id (Option.mem_toList.1 hid))
  calc subscribers (history ++ [e])
      = ((begun history ++ e.begun?.toList).filter fun id => id ∉ ended history).filter
          fun id => e.ended? ≠ some id := by
        rw [subscribers, begun_concat, ended_concat, List.filter_filter]
        refine List.filter_congr fun id _ => ?_
        simp [Bool.and_comm]
    _ = _ := by rw [List.filter_append, hbegun, subscribers]

theorem getElem?_history (b : BoundEditor) (uses : List Use) (i : Nat) :
    (b.history uses)[i]? = uses[i]?.map (b.run (uses.take i)).used := by
  induction uses generalizing b i with
  | nil => rfl
  | cons u uses ih =>
    cases i with
    | zero => rfl
    | succ i => exact ih (b.use u).2 i

/-! ## What one use does -/

theorem begun?_used (b : BoundEditor) (u : Use) :
    (b.used u).begun? = if u = .subscribe then some b.editor.nextId else none := by
  cases u <;> rfl

theorem begun?_used_eq_some {b : BoundEditor} {u : Use} {id : Nat} :
    (b.used u).begun? = some id ↔ u = .subscribe ∧ b.editor.nextId = id := by
  rw [begun?_used]
  split_ifs with hu <;> simp [hu]

theorem ended?_used_eq_some {b : BoundEditor} {u : Use} {id : Nat} :
    (b.used u).ended? = some id ↔ u = .unsubscribe id ∧ id ∈ b.editor.subscriptions := by
  cases u with
  | unsubscribe j =>
    rw [Use.unsubscribe.injEq]
    by_cases hj : j ∈ b.editor.subscriptions
    · have hended : (b.used (.unsubscribe j)).ended? = some j := by
        simp [used, use, Editor.unsubscribe, Used.ended?, hj]
      rw [hended, Option.some.injEq, iff_self_and]
      exact fun h => h ▸ hj
    · have hended : (b.used (.unsubscribe j)).ended? = none := by
        simp [used, use, Editor.unsubscribe, Used.ended?, hj]
      rw [hended]
      exact iff_of_false nofun fun h => hj (h.1 ▸ h.2)
  | _ => simp [used, use, Used.ended?]

theorem nextId_use (b : BoundEditor) (u : Use) :
    (b.use u).2.editor.nextId = b.editor.nextId + if u = .subscribe then 1 else 0 := by
  cases u <;> rfl

theorem lt_nextId_use {b : BoundEditor} {id : Nat} (h : id < b.editor.nextId) (u : Use) :
    id < (b.use u).2.editor.nextId := by
  rw [nextId_use]
  exact Nat.lt_add_right _ h

theorem changes_use (b : BoundEditor) (u : Use) :
    (b.use u).2.editor.changes = b.editor.changes + if u = .change then 1 else 0 := by
  cases u <;> rfl

/-- A use changes the subscriptions by the one that begins and the one that ends with it. -/
theorem subscriptions_use (b : BoundEditor) (u : Use) :
    (b.use u).2.editor.subscriptions = (b.editor.subscriptions ++ (b.used u).begun?.toList).filter
      fun id => (b.used u).ended? ≠ some id := by
  cases u with
  | unsubscribe j =>
    rw [begun?_used, if_neg nofun, Option.toList_none, List.append_nil]
    refine List.filter_congr fun id hid => ?_
    rw [Bool.eq_iff_iff, bne_iff_ne, decide_eq_true_eq, ne_eq, ne_eq, ended?_used_eq_some]
    simp [hid, eq_comm]
  | _ => simp [used, use, Used.ended?, Used.begun?, Editor.subscribe, Editor.handleChange]

theorem mem_subscriptions_use {b : BoundEditor} {u : Use} {id : Nat} :
    id ∈ (b.use u).2.editor.subscriptions ↔
      (id ∈ b.editor.subscriptions ∨ (b.used u).begun? = some id) ∧
        (b.used u).ended? ≠ some id := by
  rw [subscriptions_use, List.mem_filter, List.mem_append, Option.mem_toList, decide_eq_true_eq]

/-- The subscriptions are in the order of their numbers, and the next number is greater. -/
structure Numbered (e : Editor) : Prop where
  ordered : e.subscriptions.Pairwise (· < ·)
  fresh : ∀ id ∈ e.subscriptions, id < e.nextId

theorem Numbered.use {b : BoundEditor} (h : Numbered b.editor) (u : Use) :
    Numbered (b.use u).2.editor := by
  constructor
  · rw [subscriptions_use]
    refine List.Pairwise.filter _ (List.pairwise_append.2 ⟨h.ordered, ?_, fun i hi id hid => ?_⟩)
    · cases (b.used u).begun? <;> simp
    · obtain ⟨-, rfl⟩ := begun?_used_eq_some.1 (Option.mem_toList.1 hid)
      exact h.fresh i hi
  · intro id hid
    rcases (mem_subscriptions_use.1 hid).1 with hid | hid
    · exact lt_nextId_use (h.fresh id hid) u
    · obtain ⟨rfl, rfl⟩ := begun?_used_eq_some.1 hid
      exact Nat.lt_succ_self _

/-- A change calls each handler that is subscribed once, with the plain text. -/
theorem received_used {b : BoundEditor} (h : Numbered b.editor) (u : Use) (id : Nat) :
    (b.used u).received id =
      if id ∈ b.editor.subscriptions then (b.used u).changeText?.toList else [] := by
  cases u with
  | change =>
    have hnodup : b.editor.subscriptions.Nodup := h.ordered.imp Nat.ne_of_lt
    have hfilter : b.editor.subscriptions.filter (· = id) =
        List.replicate (b.editor.subscriptions.count id) id := List.filter_beq id
    calc (b.used .change).received id
        = (b.editor.subscriptions.filter (· = id)).map fun _ => b.surface.text := by
          simp [used, use, Used.received, Answer.calls, Editor.handleChange, List.filter_map,
            Function.comp_def]
      _ = List.replicate (if id ∈ b.editor.subscriptions then 1 else 0) b.surface.text := by
          rw [hfilter, List.map_replicate, hnodup.count]
      _ = if id ∈ b.editor.subscriptions then (b.used .change).changeText?.toList else [] := by
          split_ifs <;> rfl
  | _ => simp [used, use, Used.received, Answer.calls, Used.changeText?]

/-! ## One handler along a history -/

theorem received_cons (id : Nat) (e : Used) (history : List Used) :
    received id (e :: history) = e.received id ++ received id history :=
  List.flatMap_cons

theorem received_of_ended {b : BoundEditor} (h : Numbered b.editor) {id : Nat}
    (hid : id < b.editor.nextId) (hgone : id ∉ b.editor.subscriptions) (uses : List Use) :
    received id (b.history uses) = [] := by
  induction uses generalizing b with
  | nil => rfl
  | cons u uses ih =>
    have hstill : id ∉ (b.use u).2.editor.subscriptions := by
      rw [mem_subscriptions_use, begun?_used_eq_some]
      rintro ⟨hid' | ⟨-, hid'⟩, -⟩
      · exact hgone hid'
      · exact hid.ne' hid'
    rw [history, received_cons, received_used h, if_neg hgone, List.nil_append]
    exact ih (h.use u) (lt_nextId_use hid u) hstill

/-- The handler of a subscription is called at every change up to its end. -/
theorem received_of_subscribed {b : BoundEditor} (h : Numbered b.editor) {id : Nat}
    (hid : id ∈ b.editor.subscriptions) (uses : List Use) :
    received id (b.history uses) =
      ((b.history uses).takeWhile fun e => e.ended? ≠ some id).filterMap Used.changeText? := by
  induction uses generalizing b with
  | nil => rfl
  | cons u uses ih =>
    rw [history, received_cons, received_used h, if_pos hid, List.takeWhile_cons]
    by_cases hended : (b.used u).ended? = some id
    · obtain ⟨hu, -⟩ := ended?_used_eq_some.1 hended
      have hgone : id ∉ (b.use u).2.editor.subscriptions := fun hmem =>
        (mem_subscriptions_use.1 hmem).2 hended
      have hquiet : (b.used u).changeText? = none := if_neg (hu ▸ nofun)
      rw [received_of_ended (h.use u) (lt_nextId_use (h.fresh id hid) u) hgone]
      simp [hended, hquiet]
    · have hstill : id ∈ (b.use u).2.editor.subscriptions :=
        mem_subscriptions_use.2 ⟨Or.inl hid, hended⟩
      rw [ih (h.use u) hstill]
      simp only [ne_eq, hended, not_false_eq_true, decide_true, if_true,
        List.filterMap_eq_flatMap_toList, List.flatMap_cons]

theorem received_of_not_begun {b : BoundEditor} (h : Numbered b.editor) {id : Nat}
    (hid : b.editor.nextId ≤ id) (uses : List Use) :
    received id (b.history uses) = (during id (b.history uses)).filterMap Used.changeText? := by
  induction uses generalizing b with
  | nil => rfl
  | cons u uses ih =>
    have hnot : id ∉ b.editor.subscriptions := fun hmem => (h.fresh id hmem).not_ge hid
    rw [history, received_cons, received_used h, if_neg hnot, List.nil_append]
    by_cases hbegun : (b.used u).begun? = some id
    · have hended : (b.used u).ended? ≠ some id := fun he => hnot (ended?_used_eq_some.1 he).2
      have hsubscribed : id ∈ (b.use u).2.editor.subscriptions :=
        mem_subscriptions_use.2 ⟨Or.inr hbegun, hended⟩
      rw [received_of_subscribed (h.use u) hsubscribed]
      simp [during, hbegun]
    · have hnext : (b.use u).2.editor.nextId ≤ id := by
        rw [nextId_use]
        split_ifs with hu
        · exact hid.lt_of_ne fun he => hbegun (begun?_used_eq_some.2 ⟨hu, he⟩)
        · exact hid
      rw [ih (h.use u) hnext]
      simp [during, hbegun]

/-! ## All subscriptions -/

section

variable (lexer : Lexer) (styles : StyleMap) (surface : Surface) (uses : List Use)

theorem numbered_new : Numbered (new lexer styles surface).editor := ⟨.nil, nofun⟩

theorem Numbered.run {b : BoundEditor} (h : Numbered b.editor) : Numbered (b.run uses).editor := by
  induction uses generalizing b with
  | nil => exact h
  | cons u uses ih => exact ih (h.use u)

theorem count_concat (u v : Use) :
    (uses ++ [u]).count v = uses.count v + if u = v then 1 else 0 := by
  simp [List.count_append, List.count_singleton]

theorem nextId_run :
    ((new lexer styles surface).run uses).editor.nextId = uses.count .subscribe := by
  induction uses using List.reverseRecOn with
  | nil => rfl
  | append_singleton uses u ih =>
    rw [run_concat, nextId_use, ih, count_concat]

theorem changes_run : ((new lexer styles surface).run uses).editor.changes = uses.count .change := by
  induction uses using List.reverseRecOn with
  | nil => rfl
  | append_singleton uses u ih =>
    rw [run_concat, changes_use, ih, count_concat]

/-- Subscriptions are numbered from zero on. -/
theorem begun_history :
    begun ((new lexer styles surface).history uses) = List.range (uses.count .subscribe) := by
  induction uses using List.reverseRecOn with
  | nil => rfl
  | append_singleton uses u ih =>
    rw [history_concat, begun_concat, ih, begun?_used, nextId_run, count_concat]
    by_cases hu : u = .subscribe <;> simp [hu, List.range_succ]

theorem lt_nextId_of_mem_ended {id : Nat} (hid : id ∈ ended ((new lexer styles surface).history uses)) :
    id < ((new lexer styles surface).run uses).editor.nextId := by
  induction uses using List.reverseRecOn with
  | nil => simp [ended, history] at hid
  | append_singleton uses u ih =>
    rw [history_concat, ended_concat, List.mem_append, Option.mem_toList, ended?_used_eq_some] at hid
    rw [run_concat]
    refine lt_nextId_use ?_ u
    rcases hid with hid | ⟨-, hid⟩
    · exact ih hid
    · exact ((numbered_new lexer styles surface).run uses).fresh id hid

theorem subscriptions_run :
    ((new lexer styles surface).run uses).editor.subscriptions =
      subscribers ((new lexer styles surface).history uses) := by
  induction uses using List.reverseRecOn with
  | nil => rfl
  | append_singleton uses u ih =>
    have hnew : ∀ id, (((new lexer styles surface).run uses).used u).begun? = some id →
        id ∉ ended ((new lexer styles surface).history uses) := by
      intro id hid hended
      obtain ⟨-, hnext⟩ := begun?_used_eq_some.1 hid
      exact (lt_nextId_of_mem_ended lexer styles surface uses hended).ne' hnext
    rw [run_concat, history_concat, subscriptions_use, ih, subscribers_concat hnew]

end

/-- The handler with a number is called with the plain texts at the changes made while it is subscribed, in
their order. A change calls those that are subscribed once, in the order of their subscriptions. Numbers
are not used again. An unsubscription answers whether there was one with its number and leaves all others
alone. The changes are counted. -/
theorem received_while_subscribed (lexer : Lexer) (styles : StyleMap) (surface : Surface)
    (uses : List Use) :
    let b := new lexer styles surface
    let history := b.history uses
    let after := b.run uses
    (∀ i, history[i]? = uses[i]?.map (b.run (uses.take i)).used) ∧
    (∀ id, received id history = (during id history).filterMap Used.changeText?) ∧
    (after.use .change).1.calls = (subscribers history).map (·, after.surface.text) ∧
    (subscribers history).Pairwise (· < ·) ∧
    begun history = List.range (uses.count .subscribe) ∧
    (∀ id, after.use (.unsubscribe id) =
      (.unsubscribed (decide (id ∈ subscribers history)),
        { after with editor := { after.editor with
            subscriptions := (subscribers history).filter (· ≠ id) } })) ∧
    after.editor.subscriptions = subscribers history ∧
    after.editor.changes = uses.count .change := by
  intro b history after
  have hnew : Numbered b.editor := numbered_new lexer styles surface
  have hsubscriptions : after.editor.subscriptions = subscribers history :=
    subscriptions_run lexer styles surface uses
  have hordered := (hnew.run uses).ordered
  refine ⟨getElem?_history b uses, fun id => received_of_not_begun hnew (Nat.zero_le id) uses, ?_,
    hsubscriptions ▸ hordered, begun_history lexer styles surface uses, fun id => ?_, hsubscriptions,
    changes_run lexer styles surface uses⟩
  · rw [← hsubscriptions]
    rfl
  · have hfilter : after.editor.subscriptions.filter (· != id) =
        after.editor.subscriptions.filter (· ≠ id) :=
      List.filter_congr fun s _ => by rw [Bool.eq_iff_iff, bne_iff_ne, decide_eq_true_eq]
    rw [← hsubscriptions, use, Editor.unsubscribe, hfilter, List.contains_eq_mem]

/-- A handler hears of the changes up to its first unsubscription; a second one finds nothing to end. -/
example (lexer : Lexer) (styles : StyleMap) (surface : Surface) :
    received 0 ((new lexer styles surface).history
      [.subscribe, .change, .unsubscribe 0, .unsubscribe 0, .setText "later", .change]) =
        [surface.text] := rfl

end BoundEditor
end LiveMarkup
