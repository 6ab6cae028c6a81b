import StateWeave.Class.Basic
import StateWeave.Class.Literal
import StateWeave.Fault

/-! Unload callbacks: methods that run before their class is reset, lower order first. -/

namespace StateWeave

structure UnloadCallback where
  method : Method
  order : Int
deriving Inhabited

namespace UnloadCallback

/-- A whole-number literal under at most one sign. -/
def literalOrder? : Expr → Option Int
  | .constant (.int n) => some n
  | .unaryOp .plus (.constant (.int n)) => some n
  | .unaryOp .minus (.constant (.int n)) => some (-n)
  | _ => none

/-- The marker that makes a method a callback: it has to be synchronous, must not need type
parameters or arguments, and may not return anything. -/
def marker? (m : Method) : Option Marker :=
  if m.isGenerated || !m.typeParams.isEmpty || m.isAsync || m.hasParameters ||
      !m.returnsNothing then
    none
  else Marker.first? .onTypeUnload m.markers

def ofMethod? (m : Method) : Option UnloadCallback := do
  let marker ← marker? m
  some ⟨m, ((marker.keywords.get? "order").bind literalOrder?).getD 0⟩

def givenOrder? (m : Method) : Option Expr := do
  let marker ← marker? m
  marker.keywords.get? "order"

def unreadableOrder? (m : Method) : Option Expr := do
  let e ← givenOrder? m
  if (literalOrder? e).isSome then none else some e

/-- What keeps an order from being told to be unreadable: it is out of range, or has no text that a
warning could quote. -/
def orderFault? (m : Method) : Option Fault := do
  let e ← unreadableOrder? m
  if Literal.isOutOfRange e then some .orderOutOfRange
  else match e.source with
    | .ok _ => none
    | .error why => some (.unwritable why)

end UnloadCallback

namespace ClassModel

/-- The callbacks of a class by ascending order; ties keep declaration order. -/
def callbacks (c : ClassModel) : List UnloadCallback :=
  (c.methods.filterMap UnloadCallback.ofMethod?).mergeSort fun a b => a.order ≤ b.order

def unreadableOrderMessage (path method source : String) : String :=
  "Unreadable unload order on " ++ path ++ "." ++ method ++ ": " ++ Quoted.text source
    ++ "; using 0"

def orderFault? (c : ClassModel) : Option Fault :=
  c.methods.findSome? UnloadCallback.orderFault?

def orderWarning? (c : ClassModel) (m : Method) : Option LogRecord := do
  let e ← UnloadCallback.unreadableOrder? m
  let source ← e.source.toOption
  some ⟨.warning, .callbacks, unreadableOrderMessage c.lexicalPath m.name source⟩

/-- One warning for each order that cannot be read, up to the first that stops the reading. -/
def callbackWarnings (c : ClassModel) : List LogRecord :=
  (c.methods.takeWhile fun m => (UnloadCallback.orderFault? m).isNone).filterMap c.orderWarning?

end ClassModel

end StateWeave
