import Mathlib
import LiveMarkup.Command

/-! # The commands of a byte stream

A stream is read line by line. The main statement says which commands its consumer gets: those of the lines
in front of the first one that is not text, up to the first that ends the session and to the number after
which the consumer leaves. Blank lines and lines that are no command are passed over, but not a line that
is not text: what stands behind it is never read.
-/
namespace LiveMarkup

/-! ## Lines -/

def withoutReturn (line : List UInt8) : List UInt8 :=
  if line.getLast? = some 13 then line.dropLast else line

/-- The lines of a text that its line feeds cut into pieces. What stands behind the last line feed is a
line only if it is not empty. -/
def linesOfPieces : List (List UInt8) → List (List UInt8)
  | [] => []
  | [last] => if last = [] then [] else [last]
  | piece :: next :: more => withoutReturn piece :: linesOfPieces (next :: more)

theorem withoutReturn_reverse (before : List UInt8) :
    withoutReturn before.reverse =
      (match before with
        | 13 :: earlier => earlier
        | _ => before).reverse := by
  cases before with
  | nil => rfl
  | cons b earlier =>
    by_cases hb : b = 13
    · subst hb
      simp [withoutReturn]
    · simp [withoutReturn, hb]

theorem byteLinesFrom_cons (before : List UInt8) (b : UInt8) (bytes : List UInt8) :
    byteLinesFrom before (b :: bytes) =
      if b = 10 then withoutReturn before.reverse :: byteLinesFrom [] bytes
      else byteLinesFrom (b :: before) bytes := by
  rw [withoutReturn_reverse]
  cases before <;> rfl

theorem splitOn_cons (b : UInt8) (bytes : List UInt8) :
    (b :: bytes).splitOn 10 =
      if b = 10 then [] :: bytes.splitOn 10 else (bytes.splitOn 10).modifyHead (b :: ·) := by
  simp [List.splitOn_eq_splitOnP, List.splitOnP_cons_eq_if_modifyHead]

theorem byteLinesFrom_eq (before bytes : List UInt8) :
    byteLinesFrom before bytes =
      linesOfPieces ((bytes.splitOn 10).modifyHead (before.reverse ++ ·)) := by
  induction bytes generalizing before with
  | nil => cases before <;> simp [byteLinesFrom, linesOfPieces, List.splitOn_eq_splitOnP]
  | cons b bytes ih =>
    have hne : bytes.splitOn 10 ≠ [] := List.splitOnP_ne_nil _ _
    obtain ⟨piece, more, hpieces⟩ := List.exists_cons_of_ne_nil hne
    rw [hpieces] at ih
    rw [byteLinesFrom_cons, splitOn_cons, hpieces, ih, ih]
    by_cases hb : b = 10
    · simp [hb, linesOfPieces]
    · simp [hb]

theorem byteLines_eq (bytes : List UInt8) : byteLines bytes = linesOfPieces (bytes.splitOn 10) := by
  rw [byteLines, byteLinesFrom_eq]
  cases bytes.splitOn 10 <;> rfl

/-! ## Commands -/

def isText (line : List UInt8) : Bool := (decodeUtf8 line).isSome

/-- The command of a line of bytes; nothing if it is blank, no command, or no text. -/
def commandOf? (line : List UInt8) : Option Command := do
  let text ← decodeUtf8 line
  (← (Command.ofLine text).toOption)

/-- Commands up to the first that ends the session. -/
def untilQuit : List Command → List Command
  | [] => []
  | c :: more => if c = .quit then [c] else c :: untilQuit more

theorem untilQuit_append (commands more : List Command) :
    untilQuit (commands ++ more) =
      untilQuit commands ++ if .quit ∈ commands then [] else untilQuit more := by
  induction commands with
  | nil => simp [untilQuit]
  | cons c commands ih =>
    by_cases hc : c = .quit
    · simp [untilQuit, hc]
    · simp [untilQuit, hc, ih, eq_comm]

theorem untilQuit_eq_nil_iff {commands : List Command} : untilQuit commands = [] ↔ commands = [] := by
  cases commands with
  | nil => simp [untilQuit]
  | cons c commands => by_cases hc : c = .quit <;> simp [untilQuit, hc]

theorem quit_mem_untilQuit_iff {commands : List Command} :
    .quit ∈ untilQuit commands ↔ .quit ∈ commands := by
  induction commands with
  | nil => rfl
  | cons c commands ih => by_cases hc : c = .quit <;> simp [untilQuit, hc, ih]

namespace CommandStream
variable (leavesAfter : Option Nat)

/-- Hands commands over one by one, until one ends the session or the consumer is gone. -/
def send : List Command → CommandStream → CommandStream
  | [], s => s
  | c :: more, s =>
    let s := { s with received := s.received + 1 }
    if leavesAfter = some s.delivered.length then { s with failed := s.failed + 1 }
    else
      let s := { s with delivered := c :: s.delivered }
      if c = .quit then s else send more s

theorem readLines_eq_send (lines : List (List UInt8)) (s : CommandStream) :
    readLines leavesAfter lines s = send leavesAfter ((lines.takeWhile isText).filterMap commandOf?) s := by
  induction lines generalizing s with
  | nil => rfl
  | cons line later ih =>
    rw [readLines]
    cases hline : decodeUtf8 line with
    | none => simp [isText, hline, send]
    | some text =>
      have htext : isText line = true := by simp [isText, hline]
      rw [List.takeWhile_cons_of_pos htext]
      dsimp only
      cases hread : Command.ofLine text with
      | error fault =>
        have hnone : commandOf? line = none := by simp [commandOf?, hline, hread, Except.toOption]
        rw [List.filterMap_cons_none hnone]
        exact ih s
      | ok read =>
        cases read with
        | none =>
          have hnone : commandOf? line = none := by simp [commandOf?, hline, hread, Except.toOption]
          rw [List.filterMap_cons_none hnone]
          exact ih s
        | some c =>
          have hsome : commandOf? line = some c := by simp [commandOf?, hline, hread, Except.toOption]
          rw [List.filterMap_cons_some hsome, send]
          simp only [ih]

theorem received_send (commands : List Command) (s : CommandStream) :
    let sent := send leavesAfter commands s
    sent.received + s.delivered.length + s.failed =
      s.received + sent.delivered.length + sent.failed := by
  induction commands generalizing s with
  | nil => rfl
  | cons c commands ih =>
    intro sent
    simp only [sent, send]
    split_ifs with hleft hquit
    · simp only
      omega
    · simp only [List.length_cons]
      omega
    · have hih := ih { s with received := s.received + 1, delivered := c :: s.delivered }
      simp only [List.length_cons] at hih ⊢
      omega

theorem send_none (commands : List Command) (s : CommandStream) :
    (send none commands s).delivered.reverse = s.delivered.reverse ++ untilQuit commands ∧
      (send none commands s).failed = s.failed := by
  induction commands generalizing s with
  | nil => simp [send, untilQuit]
  | cons c commands ih =>
    by_cases hquit : c = .quit
    · simp [send, untilQuit, hquit]
    · simp [send, untilQuit, hquit, ih]

/-- A consumer who leaves after `room` more commands gets no more than these. -/
theorem send_some {n room : Nat} (commands : List Command) {s : CommandStream}
    (h : n = s.delivered.length + room) :
    (send (some n) commands s).delivered.reverse =
        s.delivered.reverse ++ (untilQuit commands).take room ∧
      (send (some n) commands s).failed =
        s.failed + if room < (untilQuit commands).length then 1 else 0 := by
  induction commands generalizing s room with
  | nil => simp [send, untilQuit]
  | cons c commands ih =>
    cases room with
    | zero =>
      have hpos : 0 < (untilQuit (c :: commands)).length := by
        rw [List.length_pos_iff, ne_eq, untilQuit_eq_nil_iff]
        exact List.cons_ne_nil _ _
      simp [send, h, hpos]
    | succ room =>
      have hstays : n ≠ s.delivered.length := by omega
      by_cases hquit : c = .quit
      · simp [send, untilQuit, hquit, hstays]
      · have hroom : n = (c :: s.delivered).length + room := by
          rw [List.length_cons]
          omega
        have hih := @ih room { s with received := s.received + 1, delivered := c :: s.delivered } hroom
        simpa [send, untilQuit, hquit, hstays] using hih

/-- What a consumer gets of commands, and whether one command more fails to be sent. -/
theorem send_new (commands : List Command) :
    let sent := send leavesAfter commands {}
    sent.delivered.reverse = leavesAfter.elim (untilQuit commands) (untilQuit commands).take ∧
      sent.failed = leavesAfter.elim 0 fun n => if n < (untilQuit commands).length then 1 else 0 := by
  cases leavesAfter with
  | none => exact send_none commands {}
  | some n => simpa using @send_some n n commands {} (Nat.zero_add n).symm

theorem ofBytes_eq_send (bytes : List UInt8) :
    ofBytes leavesAfter bytes =
      send leavesAfter (((byteLines bytes).takeWhile isText).filterMap commandOf?) {} :=
  readLines_eq_send leavesAfter (byteLines bytes) {}

end CommandStream

/-- Adding to a list changes nothing for a consumer exactly if nothing is added or the consumer leaves no
later than at the end of the list. -/
theorem elim_take_append_iff {α : Type} (leavesAfter : Option Nat) (l added : List α) :
    leavesAfter.elim l l.take = leavesAfter.elim (l ++ added) (l ++ added).take ↔
      added = [] ∨ ∃ n, leavesAfter = some n ∧ n ≤ l.length := by
  cases leavesAfter with
  | none => simp
  | some n =>
    have htake : l.take n = (l ++ added).take n ↔ n ≤ l.length ∨ added = [] := by
      rw [List.take_append, List.self_eq_append_right, List.take_eq_nil_iff, Nat.sub_eq_zero_iff_le]
    simp [htake, or_comm]

/-- A stream is cut into lines by its line feeds, each without a carriage return in front of it. Its
consumer gets the commands of the lines in front of the first that is not text, in their order, up to the
first that ends the session and to the number after which it leaves; one command more fails to be sent. So
the lines that are not text are passed over exactly unless there is a command behind one that the consumer
would still have waited for. -/
theorem delivered_commands (leavesAfter : Option Nat) (bytes : List UInt8) :
    let lines := byteLines bytes
    let before := (lines.takeWhile isText).filterMap commandOf?
    let behind := (lines.dropWhile isText).filterMap commandOf?
    let commands := untilQuit before
    let all := untilQuit (lines.filterMap commandOf?)
    let stream := CommandStream.ofBytes leavesAfter bytes
    lines = linesOfPieces (bytes.splitOn 10) ∧
    stream.delivered.reverse = leavesAfter.elim commands commands.take ∧
    stream.failed = leavesAfter.elim 0 (fun n => if n < commands.length then 1 else 0) ∧
    stream.received = stream.delivered.length + stream.failed ∧
    (stream.delivered.reverse = leavesAfter.elim all all.take ↔
      .quit ∈ commands ∨ behind = [] ∨ ∃ n, leavesAfter = some n ∧ n ≤ commands.length) := by
  intro lines before behind commands all stream
  have hstream : stream = CommandStream.send leavesAfter before {} :=
    CommandStream.ofBytes_eq_send leavesAfter bytes
  obtain ⟨hdelivered, hfailed⟩ := CommandStream.send_new leavesAfter before
  have hreceived := CommandStream.received_send leavesAfter before {}
  rw [← hstream] at hdelivered hfailed hreceived
  refine ⟨byteLines_eq bytes, hdelivered, hfailed, by simpa using hreceived, ?_⟩
  have hlines : lines.filterMap commandOf? = before ++ behind := by
    rw [← List.filterMap_append, List.takeWhile_append_dropWhile]
  have hall : all = commands ++ if .quit ∈ before then [] else untilQuit behind := by
    rw [← untilQuit_append, ← hlines]
  have hnothing : (if .quit ∈ before then [] else untilQuit behind) = [] ↔
      .quit ∈ commands ∨ behind = [] := by
    rw [quit_mem_untilQuit_iff]
    by_cases hquit : .quit ∈ before <;> simp [hquit, untilQuit_eq_nil_iff]
  rw [hdelivered, hall, elim_take_append_iff, hnothing, or_assoc]

/-- A line that is not text keeps the command behind it from the consumer. -/
theorem delivered_commands_malformed :
    let bytes := 0xff :: 10 :: encodeUtf8 ":quit\n".toList
    (CommandStream.ofBytes (some 1) bytes).delivered.reverse = [] ∧
      (untilQuit ((byteLines bytes).filterMap commandOf?)).take 1 = [.quit] := by
  decide

end LiveMarkup
