import StateWeave.Script.Attribute

/-! Initializers register the units of a class when the class is created. A class that is made anew
from the same namespace takes the place of the first one: its units stay registered once. -/

namespace StateWeave.World

/-- How a script runs: on behalf of what the running unit runs on, if there is one. -/
abbrev Runner := Option Value → Script → Run Unit

/-- Runs a unit on a class. A static unit does not know which class that is. -/
def runUnit (run : Runner) (running : Option Value) (target : Value) : UnitCode → Run Unit
  | .mk true steps => run (some target) steps
  | .mk false steps => run running steps

def call (run : Runner) (running : Option Value) : Action → Run Unit
  | .script body => run running body
  | .unit i channel target => do
    let initializer ← initializerAt i
    match initializer.unit? channel, target.or initializer.owner with
    | none, _ => return
    | some _, none => throw (.operation .unboundUnit)
    | some code, some target => runUnit run running target code

def addAction (registry : Nat) (channel : ChannelName) (a : Action) : Run Unit :=
  Site.onRegistries fun rs => ((), rs.register registry channel a)

/-- Whatever a unit runs on has to have a full name. -/
def requireName (v : Value) : Run Unit :=
  discard (attributeOf v "__qualname__")

/-- Adds the units of an initializer to the registry of its module, bound to a target or to whatever
owns the initializer later. -/
def registerUnits (i : Nat) (target : Option Value) : Run Unit := do
  let initializer ← initializerAt i
  let registry ← Site.onRegistries (·.registryFor initializer.module)
  for channel in ChannelName.all do
    if (initializer.unit? channel).isSome then
      addAction registry channel (.unit i channel target)
  requireName ((target.or initializer.owner).getD .null)

def given? : Value → Option Value
  | .null => none
  | v => some v

/-- Makes the class the owner. The first owner brings the registration; a generic owner makes a
class of its own for every choice of type arguments. -/
def setOwner (i : Nat) (owner : Value) : Run Unit := do
  let initializer ← initializerAt i
  objects fun o => {
    o with initializers := o.initializers.modify i ({ · with owner := given? owner }) }
  if initializer.owner.isNone then registerUnits i none else requireName owner
  match initializer.isGeneric, owner with
  | true, .ref (.cls c) => writeTo owner subscriptionName (.subscription (.reify c i))
  | _, _ => return

/-- Gives a new instantiation its own state, then registers it. -/
def setUp (run : Runner) (running : Option Value) (i : Nat) (target : Value) : Run Unit := do
  let initializer ← initializerAt i
  match initializer.load, given? target with
  | some code, some target => runUnit run running target code
  | some _, none => throw (.operation .unboundUnit)
  | none, _ => pure ()
  registerUnits i (given? target)

def nameProperty (p : Nat) (owner : Value) (attr : String) : Run Unit := do
  onHierarchy fun h => .ok (h.nameProperty p attr)
  writeTo owner (backingName attr) ((← hierarchy).propertyAt p).value

def nameValue (owner : Value) (attr : String) : Value → Run Unit
  | .ref (.property p) => nameProperty p owner attr
  | .ref (.initializer i) => setOwner i owner
  | _ => return

/-- Stores a value the way a class statement does: the value is told its name. -/
def storeStatic (owner : Value) (attr : String) (v : Value) : Run Unit := do
  writeTo owner attr v
  nameValue owner attr v

end StateWeave.World
