import StateWeave.Class.Callback
import StateWeave.Class.Inventory

/-! Whether a class takes part in reloads, and with what. -/

namespace StateWeave

structure Analysis where
  optedOut : Bool := false
  unsupported : Bool := false
  staticFields : List Field := []
  callbacks : List UnloadCallback := []
deriving Inhabited

/-- A class takes part when it has storage to reset or callbacks to run. -/
def Analysis.eligible (a : Analysis) : Bool :=
  !a.optedOut && !a.unsupported && (!a.staticFields.isEmpty || !a.callbacks.isEmpty)

namespace ClassModel

/-- Enums and opted-out classes are not looked into. -/
def isInspected (c : ClassModel) : Bool :=
  !c.isEnum && !StateWeave.optedOut c.markers

def analysis (c : ClassModel) : Analysis :=
  if c.isEnum then { unsupported := true }
  else if StateWeave.optedOut c.markers then { optedOut := true }
  else { staticFields := c.inventory, callbacks := c.callbacks }

def collectCallbacks (c : ClassModel) : Logged (List UnloadCallback) := do
  modify (· ++ c.callbackWarnings)
  match c.orderFault? with
  | some fault => Logged.fail fault
  | none => return c.callbacks

def analyze (c : ClassModel) : Logged Analysis := do
  if c.isInspected then let _ ← c.collectCallbacks
  return c.analysis

end ClassModel

end StateWeave
