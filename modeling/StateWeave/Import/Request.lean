import StateWeave.Import.Evaluation

/-! Import statements: the modules that they load and the names that they bind. -/

namespace StateWeave.Imports

variable (r : Interpreter) (p : Place)

/-- A name taken from a module: a member of it, or else a module below it that is loaded. -/
def taken (module name : String) : Importing Thing := do
  match ← member? r module name with
  | some x => return x
  | none =>
    let below := module ++ "." ++ name
    if ← isLoaded below then return .module below else throw .noSuchName

/-- `import a.b` loads both modules and binds the first one, `import a.b as c` binds the last. -/
def importWhole (a : Alias) : Importing Unit := do
  r.load a.name
  let head := Dotted.head a.name
  r.load head
  match a.asname with
  | none => p.bind head (.module head)
  | some asname =>
    let x ← (Dotted.components a.name).tail.foldlM (fun x name =>
      match x with
      | .module m => taken r m name
      | _ => attributeOf r x name) (Thing.module head)
    p.bind asname x

/-- Loads the modules below a package that are imported from it and that it does not bind. -/
def loadBelow (package : String) (names : List String) : Importing Unit := do
  if !(← moduleAt package).isPackage then return
  names.forM fun name => do
    if (← member? r package name).isNone then
      let below := package ++ "." ++ name
      match ← attempt (r.load below) with
      | .ok _ => return
      | .error (.notFound missing) => if missing != below then throw (.notFound missing)
      | .error e => throw e

def publicNames (module : String) : Importing (Option (List String)) := do
  let i := (← get).rest
  let m ← moduleAt module
  match ← ((m.names.get? "__all__").mapM contents) with
  | some (.sequence _ items) =>
    return some (items.filterMap fun x => match x with
      | .constant (.str name) => some name
      | _ => none)
  | some _ => return none
  | none =>
    if i.isForeign module then return exports? module
    else if m.isOpen then return none
    else return some (m.names.keys.filter (!·.startsWith "_"))

/-- Takes over all names of a module; a module that lists its names has to bind them all. -/
def importAll (module : String) : Importing Unit := do
  let isListed := (← moduleAt module).names.contains "__all__"
  match ← publicNames module with
  | none =>
    for (name, x) in (← moduleAt module).names.entries do
      if !name.startsWith "_" then p.bind name x
    modifyModule p.module ({ · with isOpen := true })
  | some names =>
    if isListed then loadBelow r module names
    for name in names do
      p.bind name (← member r module name)

/-- `from a import b`, where `b` may be a module below `a`. -/
def importFrom (module : String) (names : List Alias) : Importing Unit := do
  r.load module
  let plain := (names.map (·.name)).filter (· != "*")
  loadBelow r module plain
  for a in names do
    if a.name = "*" then importAll r p module
    else p.bind (a.asname.getD a.name) (← taken r module a.name)
  if module = "__future__" && plain.contains "annotations" then
    modifyModule p.module ({ · with hasLazyAnnotations := true })

def importStmt (source : ImportSource) (names : List Alias) : Importing Unit := do
  match source with
  | .plain => names.forM (importWhole r p)
  | .fromModule module level =>
    let target ← match level with
      | none | some 0 => pure (module.getD "")
      | some n => absolute p.module n.toNat module
    importFrom r p target names

end StateWeave.Imports
