import LiveMarkup.Position
import LiveMarkup.Text.Bytes

/-! # Positions in machine words

A position of a running pass is kept in two words of 64 bits. It is moved over a whole text at once: if
the text has line feeds, the column is counted from the last of them, otherwise it goes on from where it
was. A sum that does not fit into a word has no result.
-/
namespace LiveMarkup

def wordSize : Nat := 0x10000000000000000

def addWord? (a b : Nat) : Option Nat := if a + b < wordSize then some (a + b) else none

theorem addWord?_eq_some_iff {a b n : Nat} : addWord? a b = some n ↔ a + b < wordSize ∧ a + b = n := by
  simp [addWord?]

theorem addWord?_of_lt {a b : Nat} (h : a + b < wordSize) : addWord? a b = some (a + b) := if_pos h

/-- The position behind a text that starts at `p`. -/
def Position.advance? (p : Position) (text : List Char) : Option Position :=
  match lastLineFeed? text with
  | some last => do
    let line ← addWord? p.line (newlineCount text)
    let tail ← dropBytes? text (last + 1)
    let column ← addWord? (utf16Length tail) 1
    some ⟨line, column⟩
  | none => (addWord? p.column (utf16Length text)).map fun column => ⟨p.line, column⟩

end LiveMarkup
