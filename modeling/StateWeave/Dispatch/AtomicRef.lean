/-! A reference that is only ever changed by compare-and-set. -/

namespace StateWeave

structure AtomicRef (α : Type) where
  value : α
deriving Repr, Inhabited

namespace AtomicRef

variable {α : Type} [BEq α]

def compareAndSet (r : AtomicRef α) (expected new : α) : Bool × AtomicRef α :=
  if r.value == expected then (true, ⟨new⟩) else (false, r)

end AtomicRef

end StateWeave
