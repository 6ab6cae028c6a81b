/-! The phases of a reload cycle. -/

namespace StateWeave

inductive Phase
  | idle | unloading | barrierWait | loading
deriving DecidableEq, Repr, Inhabited

def Phase.label : Phase → String
  | .idle => "idle"
  | .unloading => "unloading"
  | .barrierWait => "barrier_wait"
  | .loading => "loading"

end StateWeave
