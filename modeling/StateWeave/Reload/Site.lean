import StateWeave.Config
import StateWeave.Dispatch.Registry
import StateWeave.Log
import StateWeave.Reload.Phase

/-! Where reloading takes place: the registries, the orchestrators and their phases, the settings
and the log, together with whatever else the actions may touch. -/

namespace StateWeave

inductive Scope (A : Type)
  | all
  /-- Those of the listed modules, after an action of the host. -/
  | modules (before : A) (names : List String)

instance {A : Type} : Inhabited (Scope A) := ⟨.all⟩

structure Orchestrator (A : Type) where
  scope : Scope A := .all
  sink : Option A := none
  phase : Phase := .idle
deriving Inhabited

/-- The site of actions `A`, with `σ` for the rest of the program. -/
structure Site (A σ : Type) where
  registries : Registries A := {}
  orchestrators : List (Orchestrator A) := [{}]
  config : Config := {}
  log : List LogRecord := []
  rest : σ

instance {A σ : Type} [Inhabited σ] : Inhabited (Site A σ) := ⟨{ rest := default }⟩

/-- Work on a site that may raise `E`; what was done before that stays done. -/
abbrev Act (A σ E : Type) := ExceptT E (StateM (Site A σ))

namespace Site

variable {A σ E : Type}

def note (records : List LogRecord) : Act A σ E Unit :=
  modify fun s => { s with log := s.log ++ records }

def onRegistries {α : Type} (f : Registries A → α × Registries A) : Act A σ E α := do
  let s ← get
  let (a, registries) := f s.registries
  set { s with registries }
  return a

def orchestrator (s : Site A σ) (id : Nat) : Orchestrator A :=
  (s.orchestrators[id]?).getD default

def mainOrchestrator : Nat := 0

def modifyOrchestrator (id : Nat) (f : Orchestrator A → Orchestrator A) : Act A σ E Unit :=
  modify fun s => { s with orchestrators := s.orchestrators.modify id f }

def enter (id : Nat) (phase : Phase) : Act A σ E Unit :=
  modifyOrchestrator id ({ · with phase })

/-- Runs the actions that the channel holds now, in the order they were registered. What they
register themselves waits for the next time. -/
def invoke (call : A → Act A σ E Unit) (id : Nat) (name : ChannelName) : Act A σ E Unit := do
  (← onRegistries (·.snapshot id name)).forM call

end Site

end StateWeave
