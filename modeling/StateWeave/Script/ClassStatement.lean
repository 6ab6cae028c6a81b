import StateWeave.Script.Registration

/-! Class statements: laying out the class, finding its search order, making it, naming the values
of its namespace in their order, and telling the ancestors. -/

namespace StateWeave.World

def slotNames (v : Value) : Run (Except ClassFault (List (Except ClassFault String))) := do
  let o := (← get).rest
  let name : Value → Except ClassFault String
    | .text s => .ok s
    | v => .error (.slotNotText (o.kindOf v))
  match v with
  | .text s => return .ok [.ok s]
  | .tuple vs => return .ok (vs.map name)
  | .list i => return .ok (((o.lists[i]?).getD []).map name)
  | v => return .error (.notIterable (o.kindOf v))

def layoutFor (id : Nat) (c : ClassObject) : Run (Except ClassFault Layout) := do
  let h ← hierarchy
  match h.bestBase c.bases, c.own.get? "__slots__" with
  | .error fault, _ => return .error fault
  | .ok best, none => return .ok (h.openLayout id best)
  | .ok best, some v => return (← slotNames v).bind (h.slotLayout id best c.bases c.name c.own)

def fullNameFor (c : ClassObject) : Run (Except ClassFault String) := do
  match c.own.get? "__qualname__" with
  | none => return .ok c.qualname
  | some (.text s) => return .ok s
  | some v => return .error (.qualnameNotText (← kindOf v))

def orderFor (bases : List Nat) : Run (Except ClassFault (List Nat)) := do
  let h ← hierarchy
  match bases.find? fun b => bases.count b > 1 with
  | some b => return .error (.duplicateBase (h.classAt b).name)
  | none =>
    return (h.orderOf bases).mapError fun heads =>
      .noOrder (heads.map fun b => (h.classAt b).name)

/-- The members of a class that code in its namespace makes methods of the class. -/
def classMethods : List String :=
  [subscriptionName, "__init_subclass__"]

/-- The namespace of a class once it is made. A class that says when its instances are equal, but not
how they are looked up, has instances that are not looked up. -/
def settledNamespace (id : Nat) (c : ClassObject) (layout : Layout) : Table String Value :=
  let own := layout.slots.foldl (fun t name => t.insert name (.ref (.slot id name)))
    (c.own.erase "__qualname__")
  let documented := if own.contains "__doc__" then own else own.insert "__doc__" .null
  let settled := if own.contains "__eq__" && !own.contains "__hash__" then
      documented.insert "__hash__" .null
    else documented
  ⟨settled.entries.map fun (attr, v) =>
    match v with
    | .ref (.handler i) =>
      (attr, if classMethods.contains attr then .bound (Value.ofClass id) i else v)
    | _ => (attr, v)⟩

def storeVariables (id : Nat) : Run Unit := do
  let listed := (← classOf id).genericBases
  if listed.length > 1 then throw (.typing .listedTwice)
  let typeVars := (listed.headD []).map (Value.ref <| Ref.variable ·)
  onHierarchy (·.set id variablesName (.tuple typeVars))

def callHandler (run : Runner) (running : Option Value) (args : List Value)
    (kwargs : List (String × Value)) (i : Nat) : Run Unit := do
  let x := ((← get).rest.handlers[i]?).getD default
  let shownArgs ← args.mapM shown
  let shownKwargs ← kwargs.mapM fun (k, v) => do return (k, ← shown v)
  trace (.row [.text x.label, .row shownArgs, .record shownKwargs])
  run running x.action

def tellAncestors (run : Runner) (running : Option Value) (id : Nat) : Run Unit := do
  let h ← hierarchy
  let cares (c : Nat) := c = Builtin.generic || (h.own? c "__init_subclass__").any fun v =>
    match v with
    | .bound _ _ | .ref (.handler _) => true
    | _ => false
  match (h.classAt id).order.tail.find? cares with
  | none => return
  | some c =>
    match h.own? c "__init_subclass__" with
    | some (.bound _ i) => callHandler run running [Value.ofClass id] [] i
    | some (.ref (.handler i)) => callHandler run running [] [] i
    | _ => storeVariables id

/-- Makes a class from its namespace; `fail` words what stands against it. -/
def makeClass (run : Runner) (running : Option Value) (fail : ClassFault → Failure)
    (c : ClassObject) : Run Nat := do
  let h ← hierarchy
  let c := { c with bases := if c.bases.isEmpty then [Builtin.object] else c.bases }
  let isTraced := c.isTraced || c.bases.any fun b => (h.classAt b).isTraced
  if isTraced then trace (.text ("meta " ++ c.name))
  let checked {α : Type} (x : Except ClassFault α) : Run α := ExceptT.mk (pure (x.mapError fail))
  let id := h.classes.length
  let layout ← checked (← layoutFor id c)
  let qualname ← checked (← fullNameFor c)
  let order ← checked (← orderFor c.bases)
  let own := settledNamespace id c layout
  let made := {
    c with qualname, order := id :: order, own, layout, isTraced
           isBuiltin := false, isFinal := false }
  setHierarchy { h with classes := h.classes ++ [made] }
  own.entries.forM fun (attr, v) => nameValue (Value.ofClass id) attr v
  tellAncestors run running id
  return id

/-- Makes a class again from a copy of its namespace. The full name is not part of the namespace, so
the new class goes by its plain name. -/
def rebuild (run : Runner) (running : Option Value) (v : Value) : Run Nat := do
  match v with
  | .ref (.cls c) =>
    let x ← classOf c
    makeClass run running .cls { x with qualname := x.name }
  | v =>
    discard (attributeOf v "__name__")
    discard (attributeOf v "__bases__")
    throw (.operation .noTable)

inductive Base
  | cls (c : Nat)
  | generic (typeVars : List TypeVariable)
  | other
deriving DecidableEq

def base (running : Option Value) : BaseTerm → Run Base
  | .handle id => do
    match ← resolve running id with
    | .ref (.cls c) => return .cls c
    | _ => return .other
  | .generic names => do
    let vs ← names.mapM (resolve running)
    let typeVars := vs.filterMap fun
      | .ref (.variable v) => if v.kind = .types then none else some v
      | _ => none
    if vs.isEmpty then throw (.typing .noVariables)
    if typeVars.length < vs.length then throw (.typing .notVariables)
    if !typeVars.Nodup then throw (.typing .repeatedVariables)
    return .generic typeVars

/-- The classes that stand for the written bases. Lists of type variables stand for one class, and
of different lists only the last one does. -/
def classesOf (bases : List Base) : List Nat :=
  bases.filterMap fun
    | .cls c => some c
    | .other => none
    | .generic typeVars =>
      let behind := (bases.dropWhile (· ≠ .generic typeVars)).tail
      let isReplaced := behind.any fun
        | .generic others => others ≠ typeVars
        | _ => false
      if isReplaced then none else some Builtin.generic

/-- Makes a class from its bases and its namespace. Only a traced class says why it cannot be made.
-/
def classStatement (run : Runner) (running : Option Value) (name : String) (bases : List Base)
    (own : Table String Value) (isTraced : Bool) : Run Nat := do
  let h ← hierarchy
  let classes := classesOf bases
  if bases.contains .other then throw (.statement .otherMetaclass)
  let isWorded := isTraced || classes.any fun b => (h.classAt b).isTraced
  makeClass run running (if isWorded then .cls else .statement) {
    name, qualname := name, bases := classes, order := [], own, isTraced
    genericBases := bases.filterMap fun
      | .generic typeVars => some typeVars
      | _ => none }

end StateWeave.World
