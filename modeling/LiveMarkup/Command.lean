import LiveMarkup.Format
import LiveMarkup.Text.Utf8

/-! # The command lines

One command a line: `:format` (or `:f`) with a tag selects the output format, `:quit` (or `:q`) ends
the session. Blank lines are passed over, lines that are no command are reported and passed over.
-/
namespace LiveMarkup

inductive Command where
  | setFormat (format : Format)
  | quit
deriving DecidableEq, Repr

inductive CommandFault where
  | unknownFormat (tag : String)
  | missingFormat
  | unknownCommand (word : String)
deriving DecidableEq, Repr

def CommandFault.message : CommandFault → String
  | unknownFormat tag => "unknown format `" ++ tag ++ "` (expected html, markdown, mdx or text)"
  | missingFormat => "`:format` needs a format tag"
  | unknownCommand word => "unknown command `" ++ word ++ "`"

namespace Command

/-- The command of a line, nothing for a blank line. Words behind a complete command do not count. -/
def ofLine (line : List Char) : Except CommandFault (Option Command) :=
  match (words line).map String.ofList with
  | [] => .ok none
  | head :: arguments =>
    if head = ":q" ∨ head = ":quit" then .ok (some quit)
    else if head = ":f" ∨ head = ":format" then
      match arguments with
      | [] => .error .missingFormat
      | tag :: _ =>
        match Format.ofTag? (String.ofList (tag.toList.map Char.toLower)) with
        | some format => .ok (some (.setFormat format))
        | none => .error (.unknownFormat tag)
    else .error (.unknownCommand head)

end Command

/-- The lines of a byte stream behind the bytes of a line begun before, which come last one first. -/
def byteLinesFrom : List UInt8 → List UInt8 → List (List UInt8)
  | [], [] => []
  | before, [] => [before.reverse]
  | before, b :: bytes =>
    if b = 10 then
      let line := match before with
        | 13 :: earlier => earlier
        | _ => before
      line.reverse :: byteLinesFrom [] bytes
    else byteLinesFrom (b :: before) bytes

/-- The lines of a byte stream. A line ends with a line feed, before which one carriage return is
dropped; a last line without a line feed counts if it is not empty. -/
def byteLines (bytes : List UInt8) : List (List UInt8) := byteLinesFrom [] bytes

/-- What becomes of the commands of a stream. -/
structure CommandStream where
  /-- The commands handed over, last one first. -/
  delivered : List Command := []
  received : Nat := 0
  failed : Nat := 0

namespace CommandStream

/-- Reads lines until one is not text, the consumer is gone, or the session is to end. The consumer
leaves after a given number of commands, if one is given. -/
def readLines (leavesAfter : Option Nat) : List (List UInt8) → CommandStream → CommandStream
  | [], s => s
  | line :: later, s =>
    match decodeUtf8 line with
    | none => s
    | some text =>
      match Command.ofLine text with
      | .error _ | .ok none => readLines leavesAfter later s
      | .ok (some command) =>
        let s := { s with received := s.received + 1 }
        if leavesAfter = some s.delivered.length then { s with failed := s.failed + 1 }
        else
          let s := { s with delivered := command :: s.delivered }
          if command = .quit then s else readLines leavesAfter later s

def ofBytes (leavesAfter : Option Nat) (bytes : List UInt8) : CommandStream :=
  readLines leavesAfter (byteLines bytes) {}

end CommandStream
end LiveMarkup
