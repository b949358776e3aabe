/-! # Stopwatches

A stopwatch keeps the duration of the latest pass, in nanoseconds.
-/
namespace LiveMarkup

/-- The duration of the latest pass, zero before the first. -/
structure Stopwatch where
  last : Nat := 0
deriving DecidableEq, Repr

def Stopwatch.record (_ : Stopwatch) (duration : Nat) : Stopwatch := ⟨duration⟩

end LiveMarkup
