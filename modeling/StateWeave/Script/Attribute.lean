import StateWeave.Script.Description
import StateWeave.Text.Expression

/-! Attributes of values. Classes and instances follow the rules of the hierarchy; other objects
have a few fields and members of their kind and keep what else is written to them. -/

namespace StateWeave.World

/-- A class attribute as reading it from the class gives it: some values are bound anew each time.
-/
def classAttribute (c : Nat) (attr : String) : Run Value := do
  let h ← hierarchy
  match h.fact? c attr, h.lookup? c attr with
  | some (.ok v), _ => return v
  | some (.error fault), _ => throw (.attribute fault)
  | none, none =>
    if Hierarchy.passingFacts.contains attr || Builtin.typeMembers.contains attr then
      .ref <$> newPassing
    else throw (.attribute (.missingOnClass (h.classAt c).name attr))
  | none, some _ =>
    if Hierarchy.passingFacts.contains attr then .ref <$> newPassing
    else match ← read (·.get c attr) with
      | .subscription _ => .ref <$> newPassing
      | .ref (.member name) =>
        if Builtin.boundMembers.contains name then .ref <$> newPassing
        else return .ref (.member name)
      | v => return v

/-- An attribute of an instance. What comes from its class is bound to the instance, if it is code.
-/
def instanceAttribute (i : Nat) (attr : String) : Run Value := do
  let h ← hierarchy
  let x := h.instanceAt i
  let layout := (h.classAt x.cls).layout
  match h.lookup? x.cls attr, x.own.get? attr with
  | none, none =>
    match attr with
    | "__class__" => return Value.ofClass x.cls
    | "__dict__" => if layout.hasTable then return .ref (.table i)
    | "__weakref__" => if layout.hasWeakLink then return .null
    | _ => pure ()
    throw (.attribute (h.missingOn x attr))
  | some (.ref (.handler f)), none => return .bound (.ref (.object i)) f
  | some (.subscription _), none => .ref <$> newPassing
  | some (.ref (.member name)), none =>
    if name = "__new__" then return .ref (.member name) else .ref <$> newPassing
  | _, _ => read (·.getInstance i attr)

def field? (r : Ref) (attr : String) : Run (Option Value) := do
  let o := (← get).rest
  let passing : Run (Option Value) := do return some (.ref (← newPassing))
  match r, attr with
  | .property p, "default" => return some (o.hierarchy.propertyAt p).value
  | .property p, "name" => return some ((o.hierarchy.propertyAt p).name.elim .null .text)
  | .property p, "backing_name" =>
    return some ((o.hierarchy.propertyAt p).backing?.elim .null .text)
  | .property _, "__get__" | .property _, "__set__" | .property _, "__set_name__" => passing
  | .event e, "_handlers" => return some (← newList (← eventAt e).handlers)
  | .event _, "subscribe" | .event _, "unsubscribe" | .event _, "fire" => passing
  | .initializer i, "module_name" => return some (.text (← initializerAt i).module)
  | .initializer i, "generic" => return some (.bool (← initializerAt i).isGeneric)
  | .initializer i, "owner" => return some ((← initializerAt i).owner.getD .null)
  | .initializer i, "unload" =>
    if (← initializerAt i).unload.isSome then passing else return some .null
  | .initializer i, "load" => if (← initializerAt i).load.isSome then passing else return some .null
  | .initializer _, "register" | .initializer _, "initialize_instantiation"
  | .initializer _, "__set_name__" => passing
  | .orchestrator _, "run_cycle" | .orchestrator _, "state" | .orchestrator _, "diagnostic_sink" =>
    passing
  | .handler _, "__name__" => return some (.text Objects.handlerName)
  | .handler _, "__qualname__" => return some (.text Objects.handlerName)
  | .variable v, "__name__" => return some (.text v.name)
  | _, "__class__" => return some (.ref (.member ("class " ++ o.kindOf (.ref r))))
  | _, _ => return none

def tableFields : Ref → List String
  | .property _ => ["default", "name", "backing_name"]
  | .event _ => ["_handlers"]
  | .initializer _ => ["module_name", "unload", "load", "generic", "owner"]
  | _ => []

def extra? (r : Ref) (attr : String) : Run (Option Value) := do
  return ((← get).rest.extras.get? r).bind (·.get? attr)

/-- What a list type has under a name; what is not reserved belongs to the class of lists. -/
def listTypeAttribute (item : Value) (typeVars : List Value) (attr : String) : Run Value := do
  match attr with
  | "__name__" | "__qualname__" | "_name" => return .text "List"
  | "__origin__" => return Value.ofClass Builtin.list
  | "__args__" => return .tuple [item]
  | "__parameters__" => return .tuple typeVars
  | "__module__" => return .text "typing"
  | _ =>
    if opensPrivate attr && closesReserved attr then throw (.attribute (.unset attr))
    else classAttribute Builtin.list attr

def attributeOf (v : Value) (attr : String) : Run Value := do
  match v with
  | .ref (.cls c) => classAttribute c attr
  | .ref (.object i) => instanceAttribute i attr
  | .listOf item typeVars => listTypeAttribute item typeVars attr
  | .bound _ _ =>
    match attr with
    | "__name__" | "__qualname__" => return .text Objects.handlerName
    | _ => throw (.missing "function" attr)
  | .ref r =>
    match ← extra? r attr with
    | some v => return v
    | none =>
      match ← field? r attr with
      | some v => return v
      | none => throw (.missing (← kindOf v) attr)
  | v =>
    match attr with
    | "__class__" => return .ref (.member ("class " ++ (← kindOf v)))
    | _ => throw (.missing (← kindOf v) attr)

/-- The attribute, or nothing for a value that has none of this name. -/
def attribute? (v : Value) (attr : String) : Run (Option Value) := do
  try some <$> attributeOf v attr
  catch e => if e.kind = "AttributeError" then pure none else throw e

def ofWrite : Except Hierarchy.WriteFault Hierarchy → Run Unit
  | .ok h => setHierarchy h
  | .error (.attribute fault) => throw (.attribute fault)
  | .error (.cls fault) => throw (.cls fault)

def modifyExtras (r : Ref) (f : Table String Value → Table String Value) : Run Unit :=
  objects fun o => { o with extras := o.extras.insert r (f ((o.extras.get? r).getD ∅)) }

def noRoom (v : Value) (attr : String) : Run Unit := do
  throw (.attribute (.noRoom (← kindOf v) attr))

def writeTo (target : Value) (attr : String) (v : Value) : Run Unit := do
  let o := (← get).rest
  let h := o.hierarchy
  match target with
  | .ref (.cls c) =>
    if (h.classAt c).isBuiltin then onHierarchy (·.set c attr v)
    else match h.setFact? c attr v o.kindOf with
      | some result => ofWrite result
      | none => onHierarchy (·.set c attr v)
  | .ref (.object i) =>
    match attr, v with
    | "__class__", .ref (.cls c) => onHierarchy (·.switchClass i c)
    | "__class__", v => throw (.attribute (.classNotClass (o.kindOf v)))
    | "__dict__", v =>
      if (h.classAt (h.instanceAt i).cls).layout.hasTable then
        throw (.attribute (.tableNotTable (o.kindOf v)))
      else onHierarchy (·.setInstance i attr v)
    | _, _ => onHierarchy (·.setInstance i attr v)
  | .ref (.property p) =>
    if attr = "default" then
      setHierarchy { h with properties := h.properties.modify p ({ · with value := v }) }
    else modifyExtras (.property p) (·.insert attr v)
  | .ref r => modifyExtras r (·.insert attr v)
  | target => noRoom target attr

def deleteFrom (target : Value) (attr : String) : Run Unit := do
  let h ← hierarchy
  match target with
  | .ref (.cls c) =>
    if (h.classAt c).isBuiltin then onHierarchy (·.del c attr)
    else match h.delFact? c attr with
      | some result => onHierarchy fun _ => result
      | none => onHierarchy (·.del c attr)
  | .ref (.object i) =>
    match attr with
    | "__class__" => throw (.attribute .deletesClass)
    | _ => onHierarchy (·.delInstance i attr)
  | .ref r =>
    if (← extra? r attr).isSome then modifyExtras r (·.erase attr) else noRoom target attr
  | target => noRoom target attr

def ownAttributes (v : Value) : Run (List (String × Value)) := do
  let h ← hierarchy
  match v with
  | .ref (.cls c) => return (h.classAt c).own.entries
  | .ref (.object i) =>
    let x := h.instanceAt i
    if (h.classAt x.cls).layout.hasTable then return x.own.entries
    else throw (.operation .noTable)
  | .ref r =>
    let fields ← (tableFields r).filterMapM fun attr => do
      return (← field? r attr).map (attr, ·)
    let extras := (((← get).rest.extras.get? r).getD ∅).entries
    return fields ++ extras
  | _ => throw (.operation .noTable)

def isTruthy (v : Value) : Run Bool := do
  let o := (← get).rest
  match v with
  | .null => return false
  | .bool b => return b
  | .int n => return n != 0
  | .float _ => return v != .int 0
  | .text s => return !s.isEmpty
  | .list i => return !((o.lists[i]?).getD []).isEmpty
  | .tuple vs => return !vs.isEmpty
  | .ref (.event e) => return !(← eventAt e).handlers.isEmpty
  | _ => return true

/-- A text that stands for a type has to be an expression. -/
def checkText (v : Value) : Run Unit := do
  match v with
  | .text s => if !Expression.isValid s then throw (.typing (.notExpression s))
  | _ => return

def openVariables (v : Value) : Run (List Value) := do
  match v with
  | .ref (.variable _) => return [v]
  | .listOf _ typeVars => return typeVars
  | .ref (.cls _) => return []
  | v =>
    match ← attribute? v variablesName with
    | some (.tuple vs) => return vs
    | some (.list i) => return ((← get).rest.lists[i]?).getD []
    | _ => return []

end StateWeave.World
