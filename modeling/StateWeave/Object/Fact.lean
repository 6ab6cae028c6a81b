import StateWeave.Object.Layout

/-! The facts that every class tells about itself under names of their own: its name, its place, its
ancestors. They come before anything that is stored under these names. -/

namespace StateWeave.Hierarchy

variable (h : Hierarchy)

/-- The table of a class and the facts about its layout, which are put together anew whenever
somebody asks for them. -/
def passingFacts : List String :=
  ["__dict__", "__basicsize__", "__itemsize__", "__flags__", "__weakrefoffset__",
    "__dictoffset__"]

def fact? (c : Nat) (attr : String) : Option (Except AttributeFault Value) :=
  let x := h.classAt c
  let stored (other : Value) : Except AttributeFault Value :=
    match x.own.get? attr with
    | none => .ok other
    | some (.ref (.property p)) => h.getProperty p c
    | some v => .ok v
  match attr with
  | "__name__" => some (.ok (.text x.name))
  | "__qualname__" => some (.ok (.text x.qualname))
  | "__module__" =>
    if x.isTraced then none else some ((x.own.get? attr).elim (.error (.unset attr)) .ok)
  | "__doc__" => if x.isTraced then none else some (stored .null)
  | "__class__" =>
    some (.ok (Value.ofClass (if x.isTraced then Builtin.tracingType else Builtin.type)))
  | "__bases__" => some (.ok (.tuple (x.bases.map Value.ofClass)))
  | "__base__" => some (.ok (if x.bases.isEmpty then .null else Value.ofClass x.layout.base))
  | "__mro__" => some (.ok (.tuple (x.order.map Value.ofClass)))
  | "__text_signature__" => some (.ok .null)
  | "__annotations__" =>
    if x.isBuiltin then some (.error (.missingOnClass x.name attr))
    else some (stored (.ref (.annotations c)))
  | "__abstractmethods__" => some ((x.own.get? attr).elim (.error (.unset attr)) .ok)
  | _ => none

/-- Gives a class new bases. Where they stand in the search order is found anew for the class and
for all below it, in the order they were made. -/
def rebase (c : Nat) (bases : List Nat) : Except ClassFault Hierarchy :=
  let moved := h.modifyClass c ({ · with bases })
  (List.range h.classes.length).foldlM (fun h d =>
    if (h.classAt d).order.contains c then
      match h.orderOf (h.classAt d).bases with
      | .ok order => .ok (h.modifyClass d ({ · with order := d :: order }))
      | .error classes => .error (.noOrder (classes.map fun b => (h.classAt b).name))
    else .ok h) moved

/-- Why an attribute cannot be written: for a reason of its own, or because a class could not have
been created like that. -/
inductive WriteFault
  | attribute (fault : AttributeFault)
  | cls (fault : ClassFault)

def setBases (c : Nat) (v : Value) (kindOf : Value → String) : Except WriteFault Hierarchy := do
  let x := h.classAt c
  match v with
  | .tuple [] => throw (.attribute (.noBases x.name))
  | .tuple vs =>
    let bases ← vs.mapM fun
      | .ref (.cls b) => Except.ok b
      | v => .error (.attribute (.baseNotClass x.name (kindOf v)))
    if bases.any (h.isSubclass · c) then throw (.attribute .baseCycle)
    let base ← (h.bestBase bases).mapError .cls
    let old := h.classAt x.layout.base
    let new := h.classAt base
    if old.isBuiltin != new.isBuiltin then
      throw (.attribute (.otherStorage "__bases__" new.name old.name))
    if !h.haveSameLayout base x.layout.base then
      throw (.attribute (.otherLayout "__bases__" new.name old.name))
    match bases.find? fun b => bases.count b > 1 with
    | some b => throw (.cls (.duplicateBase (h.classAt b).name))
    | none => (h.rebase c bases).mapError .cls
  | v => throw (.attribute (.basesNotTuple x.name (kindOf v)))

def setFact? (c : Nat) (attr : String) (v : Value) (kindOf : Value → String) :
    Option (Except WriteFault Hierarchy) :=
  let x := h.classAt c
  let fault (f : AttributeFault) : Option (Except WriteFault Hierarchy) :=
    some (.error (.attribute f))
  let own : Option (Except WriteFault Hierarchy) :=
    some (.ok (h.modifyClass c fun x => { x with own := x.own.insert attr v }))
  match attr, v with
  | "__name__", .text name => some (.ok (h.modifyClass c ({ · with name })))
  | "__qualname__", .text qualname => some (.ok (h.modifyClass c ({ · with qualname })))
  | "__name__", v | "__qualname__", v => fault (.notText x.name attr (kindOf v))
  | "__module__", _ | "__doc__", _ | "__annotations__", _ | "__abstractmethods__", _ => own
  | "__bases__", v => some (h.setBases c v kindOf)
  | "__class__", .ref (.cls _) => fault .classFixed
  | "__class__", v => fault (.classNotClass (kindOf v))
  | "__base__", _ | "__mro__", _ | "__basicsize__", _ | "__itemsize__", _ | "__flags__", _
  | "__weakrefoffset__", _ | "__dictoffset__", _ => fault .fixed
  | "__dict__", _ | "__text_signature__", _ => fault (.notWritable attr "type")
  | _, _ => none

/-- Deletes a fact of a class, if the name stands for one; only what was stored can go. -/
def delFact? (c : Nat) (attr : String) : Option (Except AttributeFault Hierarchy) :=
  let x := h.classAt c
  match attr with
  | "__module__" | "__doc__" =>
    if x.isTraced then none else some (.error (.notDeletable x.name attr))
  | "__name__" | "__qualname__" | "__bases__" => some (.error (.notDeletable x.name attr))
  | "__class__" => some (.error .deletesClass)
  | "__base__" | "__mro__" | "__basicsize__" | "__itemsize__" | "__flags__" | "__weakrefoffset__"
  | "__dictoffset__" => some (.error .fixed)
  | "__dict__" | "__text_signature__" => some (.error (.notWritable attr "type"))
  | "__annotations__" | "__abstractmethods__" =>
    if x.own.contains attr then
      some (.ok (h.modifyClass c fun x => { x with own := x.own.erase attr }))
    else some (.error (.unset attr))
  | _ => none

end StateWeave.Hierarchy
