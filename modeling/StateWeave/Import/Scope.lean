import StateWeave.Import.Store

/-! Names of running code: where they are looked up and where they are bound. -/

namespace StateWeave

structure Place where
  module : String
  /-- What stands before the names that functions and classes written here go by in messages. -/
  path : String := ""
  /-- Whether names belong to the module itself and not to a frame. -/
  isTop : Bool := true
  cls : Option String := none
  /-- The variables of comprehensions around the code. -/
  inner : List (String × Thing) := []
  /-- Whether the code stands inside a comprehension, where the names of a class are out of sight.
  -/
  isInner : Bool := false
  /-- The names of functions around the code. -/
  enclosing : List (String × Thing) := []
  locals : List String := []
  /-- The failure that is being handled. -/
  handled : Option ImportFault := none

/-- What code needs in order to run other code: calls of functions and imports. -/
structure Interpreter where
  call : Code → List Thing → List (String × Thing) → Importing Thing
  load : String → Importing Unit

namespace Place

variable (p : Place)

def key (id : String) : String :=
  p.cls.elim id (mangle · id)

def frame : Importing Frame := do
  return (← get).rest.frames.headD default

def isGlobal (name : String) : Importing Bool := do
  return p.isTop || (← frame).globals.contains name

def unbound (name : String) : ImportFault :=
  .ofKind "NameError" ("name '" ++ name ++ "' is not defined")

/-- Why a name of a function stands for nothing: the function binds it later or has taken it away.
Comprehensions see the names of the function around them from outside. -/
def unboundLocal (name : String) : ImportFault :=
  if p.isInner then
    .ofKind "NameError" ("cannot access free variable '" ++ name ++
      "' where it is not associated with a value in enclosing scope")
  else
    .ofKind "UnboundLocalError" ("cannot access local variable '" ++ name ++
      "' where it is not associated with a value")

def isLocal (name : String) : Importing Bool := do
  let f ← frame
  return !p.isTop && !f.isClass && !f.globals.contains name && !f.outer.contains name &&
    (p.locals.map p.key).contains name

def inPairs? (xs : List (String × Thing)) (name : String) : Option Thing :=
  (xs.find? (·.1 == name)).map (·.2)

def global? (name : String) : Importing (Option Thing) := do
  let m ← Imports.moduleAt p.module
  return (m.names.get? name).or
    (if Standard.isBound name then some (.builtin name)
      else if m.mayBind name || Standard.moduleAttributes.contains name then some .unknown
      else none)

def lookup (id : String) : Importing Thing := do
  let name := p.key id
  let f ← frame
  let own := if p.isInner && f.isClass then none else f.names.get? name
  let isLocal ← p.isLocal name
  let around := if isLocal then none else inPairs? p.enclosing name
  let near := if ← p.isGlobal name then none else own.or around
  match (inPairs? p.inner name).or near with
  | some x => return x
  | none =>
    if isLocal then throw (p.unboundLocal name)
    match ← p.global? name with
    | some x => return x
    | none => throw (unbound name)

def bind (id : String) (x : Thing) : Importing Unit := do
  let name := p.key id
  if ← p.isGlobal name then Imports.setName p.module name x
  else Imports.modifyFrame fun f => { f with names := f.names.insert name x }

def unbind (id : String) : Importing Unit := do
  let name := p.key id
  if ← p.isGlobal name then
    if !(← Imports.moduleAt p.module).names.contains name then throw (unbound name)
    Imports.unsetName p.module name
  else
    if !(← frame).names.contains name then
      throw (if ← p.isLocal name then p.unboundLocal name else unbound name)
    Imports.modifyFrame fun f => { f with names := f.names.erase name }

/-- The names that functions written here can see beside those of the module. What is bound only
later is there, but not known. -/
def visible : Importing (List (String × Thing)) := do
  let f ← frame
  let own := if p.isTop || f.isClass then []
    else f.names.entries ++ p.locals.map fun name => (name, .unknown)
  return p.inner ++ own ++ p.enclosing

end Place

end StateWeave
