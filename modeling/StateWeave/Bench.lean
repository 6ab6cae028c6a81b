import StateWeave.Table
import StateWeave.Weave

/-! A bench for working on single units: the classes of a module and the units that have been made
for them, numbered in the order they were made. -/

namespace StateWeave

structure Bench where
  classes : List ClassModel
  units : List ReloadUnit := []
  log : List LogRecord := []
deriving Inhabited

/-- Work on a bench; what was done before a fault stays done. -/
abbrev BenchM := ExceptT Fault (StateM Bench)

namespace Bench

def findClass? (b : Bench) (path : String) : Option ClassModel :=
  b.classes.find? (·.lexicalPath == path)

def methods (b : Bench) (c : ClassModel) : List Method :=
  c.methods ++ (b.units.filter (·.home.place == c.place)).map (·.method)

def logged {α : Type} (x : Logged α) : BenchM α := do
  let (result, records) := x.run
  modify fun b => { b with log := b.log ++ records }
  match result with
  | .ok a => return a
  | .error fault => throw fault

def add : Option ReloadUnit → BenchM (Option Nat)
  | none => return none
  | some u => do
    let b ← get
    set { b with units := b.units ++ [u] }
    return some b.units.length

def replace (number : Nat) (u : ReloadUnit) : BenchM Unit :=
  modify fun b => { b with units := b.units.set number u }

def copy (c : ClassModel) : BenchM (Option Nat) :=
  add (ReloadUnit.copy? c)

def callbacks (c : ClassModel) : BenchM (List UnloadCallback) :=
  logged c.collectCallbacks

def unload (c : ClassModel) (names : Option (List String)) : BenchM (Option Nat) := do
  let called ← match names with
    | none => callbacks c
    | some names => do
      let methods := (← get).methods c
      pure (names.filterMap fun name => (methods.find? (·.name == name)).map (⟨·, 0⟩))
  add (ReloadUnit.unload? c called)

/-- Makes a load unit for the inventory of the class, or for its fields of these names. -/
def load (zeros : ZeroTable) (c : ClassModel) (names : Option (List String))
    (copied : Option ReloadUnit) : BenchM (Option Nat) := do
  let fields := match names with
    | none => c.inventory
    | some names => names.filterMap c.findField?
  add (← logged (ReloadUnit.load? zeros c fields copied))

def qualify (number : Nat) (u : ReloadUnit) : BenchM ReloadUnit := do
  match u.qualify with
  | .ok u => replace number u; return u
  | .error fault => throw fault

def render (runtimeAlias : String) (number : Nat) (u : ReloadUnit) : BenchM Stmt := do
  match u.render runtimeAlias with
  | .ok x => replace number (u.spent runtimeAlias); return x
  | .error fault => throw fault

/-- Writes out units one after the other. Writing a unit again changes what was written of it
before, so a number stands for its last writing. -/
def renderAll (runtimeAlias : String) (numbers : List Nat) : BenchM (Table Nat Stmt) :=
  numbers.foldlM (fun written number => do
    match (← get).units[number]? with
    | none => return written
    | some u => return written.insert number (← render runtimeAlias number (← qualify number u))) ∅

def instrument (runtimeAlias : String) (c : ClassModel) (copied unload load : Option Nat) :
    BenchM Block := do
  let numbers := copied.toList ++ unload.toList ++ load.toList
  let written ← renderAll runtimeAlias numbers
  let named (number : Option Nat) : BenchM (Option ReloadUnit) := do
    return number.bind ((← get).units[·]?)
  let registration := Weave.registration runtimeAlias c (← named unload) (← named load)
  return numbers.filterMap written.get? ++ [registration]

end Bench

end StateWeave
