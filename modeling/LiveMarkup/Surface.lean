/-! # The live text surface

The plain text is the user's; the markup is only shown. The revision counts the edits that changed the
text.
-/
namespace LiveMarkup

structure Surface where
  text : String
  markup : String := ""
  revision : Nat := 0
deriving DecidableEq, Repr

namespace Surface

def new (text : String) : Surface := { text }

/-- Whether an edit changes the text, and the surface after it. -/
def setText (s : Surface) (text : String) : Bool × Surface :=
  if text = s.text then (false, s) else (true, { s with text, revision := s.revision + 1 })

def setMarkup (s : Surface) (markup : String) : Surface := { s with markup }

end Surface

/-- Lets a text through when it differs from the last one let through. -/
structure ChangeFilter where
  last : Option String := none
deriving DecidableEq, Repr

/-- Whether a text is news, and the filter after it. -/
def ChangeFilter.accept (f : ChangeFilter) (text : String) : Bool × ChangeFilter :=
  if f.last = some text then (false, f) else (true, ⟨some text⟩)

end LiveMarkup
