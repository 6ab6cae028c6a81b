import StateWeave.Import.Execution

/-! Importing modules, woven or as written, and what shows of them afterwards. -/

namespace StateWeave.Imports

variable (r : Interpreter)

def runModule (name : String) (tree : Block) : Importing Unit :=
  discard (execBlock r { module := name } tree)

/-- A module before its first statement. Only one that is found knows the package around it. -/
def emptyModule (name : String) (isPackage isFound : Bool) : LoadedModule where
  isPackage := isPackage
  isRunning := isFound
  names :=
    let package := if isPackage then name else Dotted.join (Dotted.components name).dropLast
    ⟨[("__name__", .text name), ("__package__", if isFound then .text package else .null)]⟩

def treeOf (name : String) (file : SourceModule) : Importing Block := do
  if ((← get).rest.hook.map (·.covers name)).getD false then
    return (← weave name file.tree).tree
  else return file.tree

/-- Finds a module and runs it, woven if the hook covers it. It can be seen while it runs, and it is
gone again if it fails. -/
def find (name : String) : Importing Unit := do
  let i := (← get).rest
  match i.files.get? name with
  | some file =>
    let tree ← treeOf name file
    setModule name (emptyModule name file.isPackage true)
    match ← attempt (runModule r name tree) with
    | .ok _ => modifyModule name ({ · with isRunning := false })
    | .error e =>
      forget name
      throw e
  | none =>
    if i.isNamespace name then
      setModule name { emptyModule name true true with isRunning := false }
    else if Standard.isModule name then
      setModule name { isPackage := Standard.submodules.any (Dotted.within name) }
    else throw (.notFound name)

/-- Imports a module by the components of its name, the last one first. The package around it is
imported before, and binds it afterwards. -/
def importReversed : List String → Importing Unit
  | [] => return
  | last :: around => do
    let name := Dotted.join (last :: around).reverse
    if ← isLoaded name then return
    if around.isEmpty then find r name
    else
      let package := Dotted.join around.reverse
      importReversed around
      if ← isLoaded name then return
      if !(← moduleAt package).isPackage then throw (.notFound name)
      find r name
      setName package last (.module name)

/-- Runs a function. A parameter that is not given has its default. Nothing is run yet of a function
that is asynchronous or hands out values. -/
def callCode (code : Code) (args : List Thing) (kwargs : List (String × Thing)) :
    Importing Thing := do
  if code.isAsync then return .unknown
  let ps := code.params
  let positional := (ps.posOnly ++ ps.positional).map (·.name)
  let given := positional.zip args ++ kwargs
  let named := (positional ++ ps.kwOnly.map (·.name)).map fun name =>
    (name, (Place.inPairs? (given ++ code.defaults) name).getD .unknown)
  let variadic :=
    (ps.vararg.map fun a => (a.name, Thing.tuple (args.drop positional.length))).toList
      ++ (← ps.kwarg.mapM fun a => do
        let others := kwargs.filter fun (name, _) => !(named.any (·.1 == name))
        return (a.name, ← share (.dict (others.map fun (name, x) => (.text name, x))))).toList
  let bound := Binding.ofBlock code.body
  let place : Place := {
    module := code.module, path := code.name ++ ".<locals>.", isTop := false, cls := code.cls
    enclosing := code.enclosing
    locals := Binding.stores bound ++ Binding.declarations bound }
  let names := ⟨(named ++ variadic).map fun (name, x) => (place.key name, x)⟩
  let (flow, _) ← withFrame { isClass := false, names } (execBlock r place code.body)
  return match flow with
    | .ret x => x
    | _ => .null

def tooDeep : ImportFault :=
  .ofKind "RecursionError" "maximum recursion depth exceeded"

/-- Runs calls and imports that are nested no deeper than this. -/
def interpreterWithin : Nat → Interpreter
  | 0 => { call := fun _ _ _ => throw tooDeep, load := fun _ => throw tooDeep }
  | n + 1 =>
    let inner := interpreterWithin n
    { call := callCode inner
      load := fun name => importReversed inner (Dotted.components name).reverse }

def depthLimit : Nat := 300

def interpreter : Interpreter := interpreterWithin depthLimit

/-- How a module looks now; to ask for its actions makes its registry. -/
def outcome (name : String) : Importing ImportOutcome := do
  let registry ← Site.onRegistries (·.registryFor name)
  let unload ← Site.onRegistries (·.snapshot registry .unload)
  let load ← Site.onRegistries (·.snapshot registry .load)
  let runtimeAlias := (← get).config.runtimeAlias
  let m ← moduleAt name
  let woven ←
    if m.isOpen then pure (m.names.contains runtimeAlias)
    else (·.isSome) <$> member? interpreter name runtimeAlias
  return ⟨woven, unload.length, load.length⟩

def importModule (name : String) : Importing ImportOutcome := do
  if name = "" then throw (.refused "ValueError")
  if name.startsWith "." then throw (.refused "TypeError")
  interpreter.load name
  outcome name

/-- Weaves a module whether a hook covers it or not, and runs it as a new module of that name. -/
def compile (name : String) : Importing ImportOutcome := do
  match (← get).rest.files.get? name with
  | none => throw (.notFound name)
  | some file =>
    let woven ← weave name file.tree
    setModule name (emptyModule name false false)
    runModule interpreter name woven.tree
    outcome name

/-- Units only reset and restore values, which nobody looks at. -/
def host : Host RegisteredUnit Imports ImportFault where
  call _ := return
  collect := return
  tell _ _ _ := return
  isReported _ := true
  describe _ := return ""

def reload : Importing Bool :=
  host.cycle Site.mainOrchestrator

end StateWeave.Imports
