/-! # Event sources

Sources of events wait until all of them are started at once; a source that has been started does not
wait any more, so none is started twice.
-/
namespace LiveMarkup

/-- The sources that wait to be started, in the order of their registration. -/
structure EventSources (α : Type) where
  waiting : List α := []

namespace EventSources

variable {α : Type}

def register (s : EventSources α) (source : α) : EventSources α := ⟨s.waiting ++ [source]⟩

def size (s : EventSources α) : Nat := s.waiting.length

def isEmpty (s : EventSources α) : Bool := s.waiting.isEmpty

def startAll (s : EventSources α) : List α × EventSources α := (s.waiting, {})

end EventSources
end LiveMarkup
