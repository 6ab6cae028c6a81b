import StateWeave.Object.AttributeFault
import StateWeave.Object.Linearization
import StateWeave.Object.Value
import StateWeave.Table
import StateWeave.Text.Private

/-! Classes, their instances and their static properties, and how attributes are found. -/

namespace StateWeave

structure Layout where
  base : Nat
  slots : List String := []
  hasTable : Bool := false
  /-- Whether weak references to instances can be made. -/
  hasWeakLink : Bool := false
  isSized : Bool := false
  /-- The nearest class, itself included, that keeps more than a table. -/
  solid : Nat
  /-- The nearest class, itself included, that adds anything. -/
  shape : Nat
deriving DecidableEq, Repr, Inhabited

structure ClassObject where
  name : String
  qualname : String
  bases : List Nat
  order : List Nat
  own : Table String Value := ∅
  layout : Layout := default
  genericBases : List (List TypeVariable) := []
  isTraced : Bool := false
  isBuiltin : Bool := false
  isFinal : Bool := false
deriving Repr, Inhabited

structure InstanceObject where
  cls : Nat
  own : Table String Value := ∅
  slots : Table (Nat × String) Value := ∅
deriving Repr, Inhabited

/-- A static property keeps its value in another attribute of the class, once it is bound to a
name. -/
structure StaticProperty where
  value : Value
  name : Option String := none
deriving Repr, Inhabited

def StaticProperty.backing? (p : StaticProperty) : Option String :=
  p.name.map backingName

structure Hierarchy where
  classes : List ClassObject := []
  instances : List InstanceObject := []
  properties : List StaticProperty := []
deriving Repr, Inhabited

namespace Hierarchy

variable (h : Hierarchy)

def classAt (c : Nat) : ClassObject :=
  (h.classes[c]?).getD default

def instanceAt (i : Nat) : InstanceObject :=
  (h.instances[i]?).getD default

def propertyAt (p : Nat) : StaticProperty :=
  (h.properties[p]?).getD default

def own? (c : Nat) (attr : String) : Option Value :=
  (h.classAt c).own.get? attr

def firstOwn? (classes : List Nat) (attr : String) : Option Value :=
  classes.findSome? (h.own? · attr)

def lookup? (c : Nat) (attr : String) : Option Value :=
  h.firstOwn? (h.classAt c).order attr

def isSubclass (c d : Nat) : Bool :=
  (h.classAt c).order.contains d

def getWithin : Nat → Nat → String → Except AttributeFault Value
  | 0, _, _ => .error .endless
  | n + 1, c, attr =>
    match h.lookup? c attr with
    | none => .error (.missingOnClass (h.classAt c).name attr)
    | some (.ref (.property p)) =>
      match (h.propertyAt p).backing? with
      | none => .error .unboundRead
      | some backing => getWithin n c backing
    | some v => .ok v

/-- Reads an attribute of a class. Who passes more properties than there are is going in circles. -/
def get (c : Nat) (attr : String) : Except AttributeFault Value :=
  h.getWithin (h.properties.length + 1) c attr

def getProperty (p c : Nat) : Except AttributeFault Value :=
  match (h.propertyAt p).backing? with
  | none => .error .unboundRead
  | some backing => h.get c backing

def missingOn (x : InstanceObject) (attr : String) : AttributeFault :=
  .missing (h.classAt x.cls).name attr

/-- A property or a slot of the class comes before what the instance holds itself. -/
def getInstance (i : Nat) (attr : String) : Except AttributeFault Value :=
  let x := h.instanceAt i
  match h.lookup? x.cls attr, x.own.get? attr with
  | some (.ref (.property p)), _ => h.getProperty p x.cls
  | some (.ref (.slot c name)), _ =>
    match x.slots.get? (c, name) with
    | some v => .ok v
    | none => .error (.emptySlot (h.classAt x.cls).name name)
  | _, some v => .ok v
  | some v, none => .ok v
  | none, none => .error (h.missingOn x attr)

/-- What is called for an instance when its class holds `held` under a name: a handler is given the
instance first, properties and slots give what they hold for it. -/
def memberOf (i : Nat) (attr : String) (held : Value) :
    Except AttributeFault (Value × List Value) :=
  match held with
  | .ref (.handler _) => .ok (held, [.ref (.object i)])
  | .ref (.property _) | .ref (.slot _ _) => (h.getInstance i attr).map (·, [])
  | f => .ok (f, [])

def modifyClass (c : Nat) (f : ClassObject → ClassObject) : Hierarchy :=
  { h with classes := h.classes.modify c f }

def modifyInstance (i : Nat) (f : InstanceObject → InstanceObject) : Hierarchy :=
  { h with instances := h.instances.modify i f }

def set (c : Nat) (attr : String) (v : Value) : Except AttributeFault Hierarchy :=
  if (h.classAt c).isBuiltin then .error (.immutable (h.classAt c).name attr)
  else .ok (h.modifyClass c fun x => { x with own := x.own.insert attr v })

def setProperty (p c : Nat) (v : Value) : Except AttributeFault Hierarchy :=
  match (h.propertyAt p).backing? with
  | none => .error .unboundWrite
  | some backing => h.set c backing v

def onTable (i : Nat) (attr : String)
    (f : Table String Value → Except AttributeFault (Table String Value)) :
    Except AttributeFault Hierarchy :=
  let x := h.instanceAt i
  let c := h.classAt x.cls
  if c.layout.hasTable then do
    let own ← f x.own
    return h.modifyInstance i ({ · with own })
  else if (h.lookup? x.cls attr).isSome then .error (.readOnly c.name attr)
  else .error (.noRoom c.name attr)

def setInstance (i : Nat) (attr : String) (v : Value) : Except AttributeFault Hierarchy :=
  match h.lookup? (h.instanceAt i).cls attr with
  | some (.ref (.property p)) => h.setProperty p (h.instanceAt i).cls v
  | some (.ref (.slot c name)) =>
    .ok (h.modifyInstance i fun x => { x with slots := x.slots.insert (c, name) v })
  | _ => h.onTable i attr fun own => .ok (own.insert attr v)

def del (c : Nat) (attr : String) : Except AttributeFault Hierarchy :=
  let x := h.classAt c
  if x.isBuiltin then .error (.immutable x.name attr)
  else if x.own.contains attr then
    .ok (h.modifyClass c fun x => { x with own := x.own.erase attr })
  else .error (.missingOnClass x.name attr)

def delInstance (i : Nat) (attr : String) : Except AttributeFault Hierarchy :=
  let x := h.instanceAt i
  match h.lookup? x.cls attr with
  | some (.ref (.property _)) => .error .noDelete
  | some (.ref (.slot c name)) =>
    if x.slots.contains (c, name) then
      .ok (h.modifyInstance i fun x => { x with slots := x.slots.erase (c, name) })
    else .error (.deletesEmptySlot name)
  | _ => h.onTable i attr fun own =>
    if own.contains attr then .ok (own.erase attr)
    else .error (.noRoom (h.classAt x.cls).name attr)

/-- The attribute that a class-level assignment to `attr` writes: the backing attribute, if the
first class that has `attr` has a property there. -/
def assigned (c : Nat) (attr : String) : Except AttributeFault String :=
  match h.lookup? c attr with
  | some (.ref (.property p)) =>
    match (h.propertyAt p).backing? with
    | none => .error .unboundWrite
    | some backing => .ok backing
  | _ => .ok attr

def nameProperty (p : Nat) (attr : String) : Hierarchy :=
  { h with properties := h.properties.modify p ({ · with name := some attr }) }

/-- The order of a class with these bases; the class itself will stand first. Without one, the
classes that stand in each other's way. -/
def orderOf (bases : List Nat) : Except (List Nat) (List Nat) :=
  Linearization.merge (bases.map (fun b => (h.classAt b).order) ++ [bases])

end Hierarchy

end StateWeave
