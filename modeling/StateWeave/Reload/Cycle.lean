import StateWeave.Reload.Site

/-! One reload cycle: every registry unloads, garbage is collected, every registry loads. A failure
ends the cycle early and is reported; nothing is rolled back. -/

namespace StateWeave

structure Host (A σ E : Type) where
  call : A → Act A σ E Unit
  collect : Act A σ E Unit
  tell : A → E → String → Act A σ E Unit
  /-- A failure that a cycle reports; any other leaves the cycle. -/
  isReported : E → Bool
  /-- Puts a failure into words. What raised it may have code of its own for that, which may fail. -/
  describe : E → Act A σ E String

namespace Host

variable {A σ E : Type} (h : Host A σ E)

def registriesOf : Scope A → Act A σ E (List Nat)
  | .all => do return (← get).registries.all
  | .modules before names => do
    h.call before
    names.mapM fun name => Site.onRegistries (·.registryFor name)

def barrier : Act A σ E Unit := do
  if (← get).config.collectGarbage then h.collect

def phases (id : Nat) (registries : List Nat) : Act A σ E Unit := do
  Site.enter id .unloading
  registries.forM (Site.invoke h.call · .unload)
  Site.enter id .barrierWait
  h.barrier
  Site.enter id .loading
  registries.forM (Site.invoke h.call · .load)

/-- Reports a failure while the orchestrator is still in the phase that failed. A sink that fails
in turn is noted in the log; a failure that cannot be put into words is not reported at all. -/
def report (id : Nat) (e : E) : Act A σ E Unit := do
  let phase := ((← get).orchestrator id).phase
  let message := "Reload failed while " ++ phase.label ++ ": " ++ (← h.describe e)
  match ((← get).orchestrator id).sink with
  | none => Site.note [⟨.error, .orchestrator, message⟩]
  | some sink =>
    try h.tell sink e message
    catch e' =>
      if h.isReported e' then
        Site.note [⟨.error, .orchestrator,
          "Diagnostic sink failed while reporting: " ++ message⟩]
      else throw e'

def attempt (id : Nat) (registries : List Nat) : Act A σ E Bool :=
  try
    h.phases id registries
    pure true
  catch e =>
    if h.isReported e then
      h.report id e
      pure false
    else throw e

def settled {α : Type} (id : Nat) (x : Act A σ E α) : Act A σ E α := do
  let result ← try Except.ok <$> x catch e => pure (Except.error e)
  Site.enter id .idle
  match result with
  | .ok a => return a
  | .error e => throw e

def cycle (id : Nat) : Act A σ E Bool := do
  let registries ← h.registriesOf ((← get).orchestrator id).scope
  let done ← settled id (h.attempt id registries)
  if done then
    Site.note [⟨.info, .orchestrator,
      "Reloaded static state of " ++ toString registries.length ++ " module(s)"⟩]
  return done

end Host

end StateWeave
