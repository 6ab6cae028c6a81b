import StateWeave.Import.Fault
import StateWeave.Import.Hook
import StateWeave.Import.Thing
import StateWeave.Reload.Cycle
import StateWeave.Weave

/-! A session of imports: the modules that can be found, those that are loaded with the names they
bind, and the hook that decides which ones are woven. -/

namespace StateWeave

structure SourceModule where
  tree : Block
  isPackage : Bool := false
deriving Inhabited

structure LoadedModule where
  isPackage : Bool := false
  /-- Whether the module has not come to its end yet. -/
  isRunning : Bool := false
  /-- Whether it took over names that nothing is known of, so that any name may be bound. -/
  isOpen : Bool := false
  hasLazyAnnotations : Bool := false
  names : Table String Thing := ∅
deriving Inhabited

/-- Whether a name may be among those taken over that nothing is known of. -/
def LoadedModule.mayBind (m : LoadedModule) (name : String) : Bool :=
  m.isOpen && !name.startsWith "_"

structure Frame where
  isClass : Bool
  names : Table String Thing := ∅
  globals : List String := []
  /-- Names that stand for those of a function around it. -/
  outer : List String := []
deriving Inhabited

/-- A class that was made from a generic one by putting in types. -/
structure Specialization where
  origin : Nat
  args : List Thing
  made : Thing
deriving Inhabited

structure Imports where
  /-- The modules that can be found, by dotted name. -/
  files : Table String SourceModule := ∅
  hook : Option ImportHook := none
  loaded : Table String LoadedModule := ∅
  /-- What is running, the innermost first. -/
  frames : List Frame := []
  /-- How many things with a number have been made. -/
  made : Nat := 0
  shared : Table Nat Thing := ∅
  fields : Fields := ∅
  specializations : List Specialization := []
deriving Inhabited

/-- A registered unit; all that counts here is that it is there. -/
inductive RegisteredUnit
  | mk

abbrev Importing := Act RegisteredUnit Imports ImportFault

structure ImportOutcome where
  woven : Bool
  unload : Nat
  load : Nat
deriving DecidableEq, Repr, Inhabited

namespace Imports

def framework : List String :=
  ["typereload", "typereload.analyzer", "typereload.callbacks", "typereload.config",
    "typereload.copier", "typereload.emitter", "typereload.errors", "typereload.generic_context",
    "typereload.importer", "typereload.instrumentation", "typereload.inventory",
    "typereload.markers", "typereload.model", "typereload.orchestrator", "typereload.reader",
    "typereload.registry", "typereload.reified", "typereload.runtime", "typereload.synthesizer",
    "typereload.weaver"]

def fresh (config : Config) (files : List (String × SourceModule)) :
    Site RegisteredUnit Imports where
  config := config
  rest := {
    files := ⟨files⟩
    loaded := ⟨framework.map fun name => (name, { isPackage := name == "typereload" })⟩ }

/-- A directory that holds modules but is no module itself. -/
def isNamespace (i : Imports) (name : String) : Bool :=
  !i.files.contains name && i.files.keys.any (Dotted.within name)

/-- A module of which only the name is known. -/
def isForeign (i : Imports) (name : String) : Bool :=
  !i.files.contains name && !i.isNamespace name

def change (f : Imports → Imports) : Importing Unit :=
  modify fun s => { s with rest := f s.rest }

def isLoaded (name : String) : Importing Bool := do
  return (← get).rest.loaded.contains name

def moduleAt (name : String) : Importing LoadedModule := do
  return ((← get).rest.loaded.get? name).getD default

def setModule (name : String) (m : LoadedModule) : Importing Unit :=
  change fun i => { i with loaded := i.loaded.insert name m }

/-- Changes a module, as long as it is loaded. -/
def modifyModule (name : String) (f : LoadedModule → LoadedModule) : Importing Unit := do
  if ← isLoaded name then setModule name (f (← moduleAt name))

def forget (name : String) : Importing Unit :=
  change fun i => { i with loaded := i.loaded.erase name }

def setName (module name : String) (x : Thing) : Importing Unit :=
  modifyModule module fun m => { m with names := m.names.insert name x }

def unsetName (module name : String) : Importing Unit :=
  modifyModule module fun m => { m with names := m.names.erase name }

def setHook (hook : Option ImportHook) : Importing Unit :=
  change ({ · with hook })

def install (hook : ImportHook) : Importing Unit := do
  setHook (some hook)
  Site.note [⟨.info, .importer, hook.installedMessage⟩]

def weave (name : String) (tree : Block) : Importing WeaveResult := do
  let config := (← get).config
  let (result, records) := (Weave.module config.zeroValues config name tree).run
  Site.note records
  match result with
  | .ok r => return r
  | .error fault => throw (.weave fault)

def register : Thing → Importing Unit
  | .registration module channels _ => do
    let registry ← Site.onRegistries (·.registryFor module)
    for channel in channels do
      Site.onRegistries fun rs => ((), rs.register registry channel .mk)
  | _ => return

def attempt {α : Type} (x : Importing α) : Importing (Except ImportFault α) :=
  try Except.ok <$> x catch e => pure (Except.error e)

def ofExcept {α : Type} : Except ImportFault α → Importing α
  | .ok a => return a
  | .error e => throw e

/-- Runs code with a frame of its own and gives the frame as it was left. -/
def withFrame {α : Type} (frame : Frame) (x : Importing α) : Importing (α × Frame) := do
  change fun i => { i with frames := frame :: i.frames }
  let result ← attempt x
  let left := (← get).rest.frames.headD frame
  change fun i => { i with frames := i.frames.tail }
  return (← ofExcept result, left)

def modifyFrame (f : Frame → Frame) : Importing Unit :=
  change fun i => { i with frames := i.frames.modify 0 f }

/-- Whether a hook would load the module of this name from the top directory, where only its last
component counts. -/
def finds (i : Imports) (hook : ImportHook) (name : String) : Bool :=
  hook.covers name && i.files.contains (Dotted.last name)

def imported (i : Imports) : List String :=
  i.files.keys.filter i.loaded.contains

end Imports

end StateWeave
