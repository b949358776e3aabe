/-! # The guard against stale results

Every update takes the next generation. Its result is let through only if it is newer than every
result let through before, so the order in which results arrive does not matter.
-/
namespace LiveMarkup

/-- Counters of the generations issued, applied and turned away. -/
structure GenerationGate where
  issued : Nat := 0
  applied : Nat := 0
  discarded : Nat := 0
deriving DecidableEq, Repr

namespace GenerationGate

def issue (g : GenerationGate) : Nat × GenerationGate :=
  (g.issued + 1, { g with issued := g.issued + 1 })

def accept (g : GenerationGate) (generation : Nat) : Bool × GenerationGate :=
  if g.applied < generation then (true, { g with applied := generation })
  else (false, { g with discarded := g.discarded + 1 })

/-- Whether a generation has been issued that no applied result has caught up with. -/
def inFlight (g : GenerationGate) : Bool := g.applied < g.issued

end GenerationGate
end LiveMarkup
