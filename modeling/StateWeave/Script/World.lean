import StateWeave.Dispatch.AtomicRef
import StateWeave.Object.Event
import StateWeave.Reload.Cycle
import StateWeave.Script.Failure
import StateWeave.Script.Step

/-! The world that scripts run in: the site of a reload together with classes, events, initializers,
the instantiations of generic classes, and the handles that scripts name them by. -/

namespace StateWeave

/-- Actions of a program: scripts, and the units of an initializer. A unit without a target runs on
whatever owns the initializer at that time. -/
inductive Action
  | script (body : Script)
  | unit (initializer : Nat) (channel : ChannelName) (target : Option Value)

instance : Inhabited Action := ⟨.script []⟩

structure Initializer where
  module : String
  unload : Option UnitCode
  load : Option UnitCode
  isGeneric : Bool
  /-- Nearly always a class. -/
  owner : Option Value := none
deriving Inhabited

def Initializer.unit? (i : Initializer) : ChannelName → Option UnitCode
  | .unload => i.unload
  | .load => i.load

structure Instantiation where
  origin : Nat
  args : List Value
  cls : Nat
deriving Inhabited

structure HandlerObject where
  label : String
  action : Script
deriving Inhabited

/-- What a value looks like from outside: objects go by their handles. -/
inductive Shown
  | null
  | bool (b : Bool)
  | int (n : Int)
  | float (text : String)
  | text (s : String)
  | list (items : List Shown)
  | tuple (items : List Shown)
  | listOf (item : Shown)
  | ref (handle : String)
  | row (items : List Shown)
  | record (fields : List (String × Shown))

instance : Inhabited Shown := ⟨.null⟩

structure Objects where
  hierarchy : Hierarchy := {}
  lists : List (List Value) := []
  events : List (EventObject Value) := []
  handlers : List HandlerObject := []
  initializers : List Initializer := []
  references : List (AtomicRef Value) := []
  instantiations : List Instantiation := []
  tokens : Nat := 0
  passing : Nat := 0
  extras : Table Ref (Table String Value) := ∅
  /-- What the collector of garbage does. -/
  barrier : Script := []
  handles : Table String Value := ∅
  /-- Every object that was ever named, under its first handle. -/
  known : Table Ref String := ∅
  trace : List Shown := []
deriving Inhabited

abbrev World := Site Action Objects

abbrev Run := Act Action Objects Failure

namespace World

def objects (f : Objects → Objects) : Run Unit :=
  modify fun w => { w with rest := f w.rest }

def trace (s : Shown) : Run Unit :=
  objects fun o => { o with trace := o.trace ++ [s] }

def hierarchy : Run Hierarchy := do
  return (← get).rest.hierarchy

def setHierarchy (hierarchy : Hierarchy) : Run Unit :=
  objects ({ · with hierarchy })

def onHierarchy (f : Hierarchy → Except AttributeFault Hierarchy) : Run Unit := do
  match f (← hierarchy) with
  | .ok h => setHierarchy h
  | .error fault => throw (.attribute fault)

def read (f : Hierarchy → Except AttributeFault Value) : Run Value := do
  match f (← hierarchy) with
  | .ok v => return v
  | .error fault => throw (.attribute fault)

def classOf (c : Nat) : Run ClassObject := do
  return (← hierarchy).classAt c

def eventAt (e : Nat) : Run (EventObject Value) := do
  return ((← get).rest.events[e]?).getD default

def initializerAt (i : Nat) : Run Initializer := do
  return ((← get).rest.initializers[i]?).getD default

-- New objects get the next number of their kind.

def newPassing : Run Ref := do
  let id := (← get).rest.passing
  objects ({ · with passing := id + 1 })
  return .passing id

def newList (items : List Value) : Run Value := do
  let id := (← get).rest.lists.length
  objects fun o => { o with lists := o.lists ++ [items] }
  return .list id

def bind (handle : String) (v : Value) : Run Unit := do
  let r ← match v with
    | .ref r => pure r
    | _ => newPassing
  objects fun o => {
    o with
    handles := o.handles.insert handle v
    known := if o.known.contains r then o.known else o.known.insert r handle }

/-- The first handle of an object; one that never had a handle is numbered. -/
def nameOf (r : Ref) : Run String := do
  let o := (← get).rest
  match o.known.get? r with
  | some name => return name
  | none =>
    let name := "#" ++ toString o.known.size
    objects fun o => { o with known := o.known.insert r name }
    return name

/-- What a handle stands for; `cls` is what the running unit runs on. -/
def resolve (running : Option Value) (handle : String) : Run Value := do
  match handle, running with
  | "cls", some v => return v
  | _, _ =>
    match (← get).rest.handles.get? handle with
    | some v => return v
    | none => throw (.unknownHandle handle)

def predefined : List (String × Ref) :=
  [("int", .cls Builtin.int), ("str", .cls Builtin.str), ("float", .cls Builtin.float),
    ("bool", .cls Builtin.bool), ("list", .cls Builtin.list), ("dict", .cls Builtin.dict),
    ("bytes", .cls Builtin.bytes), ("T", .variable ⟨"T", .type⟩), ("U", .variable ⟨"U", .type⟩),
    ("V", .variable ⟨"V", .type⟩), ("P", .variable ⟨"P", .parameters⟩),
    ("Ts", .variable ⟨"Ts", .types⟩), ("never_reload", .neverReload),
    ("default", .orchestrator Site.mainOrchestrator)]

def fresh (config : Config) : World where
  config := config
  rest := {
    hierarchy := { classes := Builtin.classes }
    handles := ⟨predefined.map fun (name, r) => (name, .ref r)⟩
    known := ⟨predefined.map fun (name, r) => (r, name)⟩ }

end World

end StateWeave
