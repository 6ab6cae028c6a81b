import StateWeave.Class.Read
import StateWeave.ReloadUnit.Render

/-! Weaving: every class of a module that has state to reset or callbacks to run is given its units
and a registration, at the end of its body. The module is woven as a whole or not at all. -/

namespace StateWeave

/-- What is added at the end of a class body and of the bodies of the classes nested in it. -/
structure Hook where
  path : String
  appended : Block
  nested : List Hook
deriving Inhabited

structure WeaveResult where
  tree : Block
  hooked : List String

def WeaveResult.changed (r : WeaveResult) : Bool :=
  !r.hooked.isEmpty

namespace Weave

def registrationName : String := "__typereload_registration"

def unitKeyword (arg : String) (u : Option ReloadUnit) : List Keyword :=
  (u.map fun u => ⟨some arg, .name u.name .load⟩).toList

def registration (runtimeAlias : String) (c : ClassModel) (unload load : Option ReloadUnit) :
    Stmt :=
  .assign [.name registrationName .store]
    (.call (.attribute (.name runtimeAlias .load) "TypeInitializer" .load)
      [.name "__module__" .load]
      (unitKeyword "unload" unload ++ unitKeyword "load" load
        ++ [⟨some "generic", .constant (.bool c.isGeneric)⟩]))

def renderUnits (runtimeAlias : String) : List ReloadUnit → Except Fault Block
  | [] => .ok []
  | u :: us => do
    let x ← (← u.qualify).render runtimeAlias
    return x :: (← renderUnits runtimeAlias us)

def instrument (runtimeAlias : String) (c : ClassModel) (copied unload load : Option ReloadUnit) :
    Except Fault Block := do
  let units ← renderUnits runtimeAlias (copied.toList ++ unload.toList ++ load.toList)
  return units ++ [registration runtimeAlias c unload load]

def addition (zeros : ZeroTable) (runtimeAlias : String) (c : ClassModel) : Logged Block := do
  let analysis ← c.analyze
  if !analysis.eligible then return []
  let copied := ReloadUnit.copy? c
  let unload := ReloadUnit.unload? c analysis.callbacks
  let load ← ReloadUnit.load? zeros c analysis.staticFields copied
  Logged.lift (instrument runtimeAlias c copied unload load)

mutual

/-- Outer classes come before the classes nested in them. -/
def hookTree (zeros : ZeroTable) (runtimeAlias : String) : ClassTree → Logged Hook
  | ⟨c, nested⟩ => do
    let appended ← addition zeros runtimeAlias c
    return ⟨c.lexicalPath, appended, ← hookForest zeros runtimeAlias nested⟩

def hookForest (zeros : ZeroTable) (runtimeAlias : String) : List ClassTree → Logged (List Hook)
  | [] => return []
  | t :: ts => do
    let hook ← hookTree zeros runtimeAlias t
    return hook :: (← hookForest zeros runtimeAlias ts)

end

mutual

def hookedPaths : Hook → List String
  | ⟨path, appended, nested⟩ =>
    (if appended.isEmpty then [] else [path]) ++ hookedPathsList nested

def hookedPathsList : List Hook → List String
  | [] => []
  | h :: hs => hookedPaths h ++ hookedPathsList hs

end

mutual

def graftStmt (hooks : List Hook) : Stmt → Stmt × List Hook
  | .classDef h body => match hooks with
    | [] => (.classDef h body, [])
    | hook :: rest => (.classDef h (graftBlock hook.nested body ++ hook.appended), rest)
  | s => (s, hooks)

def graftBlock (hooks : List Hook) : List Stmt → Block
  | [] => []
  | s :: rest =>
    let (s, hooks) := graftStmt hooks s
    s :: graftBlock hooks rest

end

def isFutureImport : Stmt → Bool
  | .imports (.fromModule (some "__future__") _) _ => true
  | _ => false

/-- Inserts a statement after the imports that have to come first. -/
def insertAfterFuture (x : Stmt) : Block → Block
  | [] => [x]
  | s :: rest => if isFutureImport s then s :: insertAfterFuture x rest else x :: s :: rest

def runtimeImport (config : Config) : Stmt :=
  .imports .plain [⟨config.runtimeModule, some config.runtimeAlias⟩]

/-- The runtime is imported before any class statement, but after the documentation of the module
and what has to come first. -/
def addRuntimeImport (config : Config) : Block → Block
  | s :: rest =>
    if s.isDocstring 0 then s :: insertAfterFuture (runtimeImport config) rest
    else insertAfterFuture (runtimeImport config) (s :: rest)
  | [] => [runtimeImport config]

def importsAlias (runtimeAlias : String) : Stmt → Bool
  | .imports .plain names => names.any fun a => a.asname == some runtimeAlias
  | _ => false

def hasUnits (c : ClassModel) : Bool :=
  c.methods.any fun m => m.isGenerated && ReloadUnit.unitNames.contains m.name

def checkNotWoven (config : Config) (tree : Block) (m : ModuleModel) : Except Fault Unit :=
  if tree.any (importsAlias config.runtimeAlias) then
    .error (.importsRuntime m.name config.runtimeModule)
  else match m.allClasses.find? hasUnits with
    | some c => .error (.hasUnits m.name c.lexicalPath)
    | none => .ok ()

def wovenMessage (module : String) (hooked : List String) : String :=
  "Wove " ++ module ++ ": hooked " ++ toString hooked.length ++ " class(es): "
    ++ Source.commaSeparated hooked

/-- Weaves a module. Names and aliases are those of `config`; zero values are those of the whole
process. -/
def module (zeros : ZeroTable) (config : Config) (name : String) (tree : Block) :
    Logged WeaveResult := do
  let m ← Logged.lift (ModuleModel.read name tree)
  Logged.lift (checkNotWoven config tree m)
  let hooks ← hookForest zeros config.runtimeAlias m.classes
  let hooked := hookedPathsList hooks
  if hooked.isEmpty then return { tree, hooked := [] }
  Logged.log .info .weaver (wovenMessage name hooked)
  return { tree := addRuntimeImport config (graftBlock hooks tree), hooked }

end Weave

end StateWeave
