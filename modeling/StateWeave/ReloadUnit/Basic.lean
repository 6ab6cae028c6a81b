import StateWeave.Class.Analysis
import StateWeave.Zero

/-! Reload units: the functions that are added to a class so that its state can be set up anew. A
unit is made of instructions, or of statements copied from the class body. -/

namespace StateWeave

/-- A type argument: a parameter of some class, known by the place of the class and its number, or
a parameter that no class of the module declares. -/
structure TypeArgument where
  name : String
  binder : Option (List Nat × Nat) := none
deriving DecidableEq, Repr, Inhabited

/-- A class as a reference names it: as it is written, or applied to type arguments. -/
inductive TypeRef
  | plain (c : ClassModel)
  | applied (c : ClassModel) (arguments : List TypeArgument)

namespace ClassModel

def ownArguments (c : ClassModel) : List TypeArgument :=
  c.typeParams.mapIdx fun i p => ⟨p.name, some (c.place, i)⟩

/-- Whether these are exactly the parameters of the class, in order. -/
def isIdentity (c : ClassModel) (arguments : List TypeArgument) : Bool :=
  arguments.map (·.binder) == c.ownArguments.map (·.binder)

end ClassModel

structure MemberRef where
  name : String
  through : TypeRef

inductive Instruction
  | reset (target : MemberRef) (zero : Constant)
  | call (method : MemberRef)
  | invalid (text : String)

inductive UnitBody
  | instructions (list : List Instruction)
  | source (statements : Block)

structure ReloadUnit where
  name : String
  home : ClassModel
  kind : MethodKind := .static
  parameters : List String := []
  /-- How the unit reaches its own class, once that is settled. -/
  owner : Option TypeRef := none
  /-- Units are made by weaving, unless somebody wrote the method by hand. -/
  isGenerated : Bool := true
  body : UnitBody

namespace ReloadUnit

def initCopyName : String := "__typereload_init_copy"
def unloadName : String := "__typereload_unload"
def loadName : String := "__typereload_load"

def unitNames : List String :=
  [initCopyName, unloadName, loadName]

def method (u : ReloadUnit) : Method where
  name := u.name
  kind := u.kind
  parameters := u.parameters
  isGenerated := u.isGenerated
  markers := if u.isGenerated then [⟨.generated, ∅⟩] else []

def ref (u : ReloadUnit) : MemberRef :=
  ⟨u.name, .plain u.home⟩

def copy? (c : ClassModel) : Option ReloadUnit :=
  if c.initializer.isEmpty then none
  else some { name := initCopyName, home := c, body := .source (c.initializer.map (·.2)) }

def unload? (c : ClassModel) (callbacks : List UnloadCallback) : Option ReloadUnit :=
  if callbacks.isEmpty then none
  else some
    { name := unloadName, home := c,
      body := .instructions (callbacks.map fun cb => .call ⟨cb.method.name, .plain c⟩) }

def resets (zeros : ZeroTable) (c : ClassModel) : List Field → Logged (List Instruction)
  | [] => return []
  | f :: fs => do
    let zero ← zeroValue zeros f.annot
    return .reset ⟨f.name, .plain c⟩ zero :: (← resets zeros c fs)

/-- The unit that resets the fields and then runs the copy of the initializer, if there is anything
to do. -/
def load? (zeros : ZeroTable) (c : ClassModel) (fields : List Field)
    (copied : Option ReloadUnit) : Logged (Option ReloadUnit) := do
  if fields.isEmpty && copied.isNone then return none
  let resets ← resets zeros c fields
  return some
    { name := loadName, home := c,
      body := .instructions (resets ++ (copied.map fun u => .call u.ref).toList) }

end ReloadUnit

end StateWeave
