import StateWeave.Script.Subscriber
import StateWeave.Script.Subscription

/-! What the steps of a script answer. -/

namespace StateWeave

inductive Reply
  | shown (s : Shown)
  | config (c : Config)

instance : Inhabited Reply := ⟨.shown .null⟩

inductive Answer
  /-- A value that is shown the way it looks when the step is over, if anybody asked. -/
  | value (v : Value)
  | reply (r : Reply)

instance : Inhabited Answer := ⟨.value .null⟩

namespace Answer

def null : Answer := .value .null

def shown (s : Shown) : Answer := .reply (.shown s)

def config (c : Config) : Answer := .reply (.config c)

end Answer

namespace World

variable (run : Runner) (running : Option Value)

def done (x : Run Unit) : Run Answer := do
  x
  return Answer.null

def answerBool (x : Run Bool) : Run Answer := do
  return .value (.bool (← x))

def answerText (x : Run String) : Run Answer := do
  return .value (.text (← x))

def answerNat (x : Run Nat) : Run Answer := do
  return .value (.int (← x))

def answerValue (x : Run Value) : Run Answer := do
  return .value (← x)

def changeConfig (f : Config → Config) : Run Answer := do
  let config := f (← get).config
  modify ({ · with config })
  return .config config

def answerMade (id : String) (x : Run Value) : Run Answer := do
  let v ← x
  bind id v
  return .value v

def answerClass (id name module qualname : String) (bases : List BaseTerm)
    (body : List (String × Term)) (isTraced : Bool) : Run Answer := do
  let found ← bases.mapM (base running)
  let entries ← evalNamed running body
  let own := Table.ofList
    (("__module__", .text module) :: ("__qualname__", .text qualname) :: entries)
  answerMade id (Value.ofClass <$> classStatement run running name found own isTraced)

/-- Whether a value stands for the class of lists, whose method then lacks a list. -/
def isListClass (v : Value) : Run Bool := do
  let h ← hierarchy
  return match v with
    | .ref (.cls c) => h.isSubclass c Builtin.list && (h.lookup? c "append").isNone
    | .listOf _ _ => true
    | _ => false

def appendTo (on attr : String) (t : Term) : Run Value := do
  let target ← attributeOf (← resolve running on) attr
  if ← isListClass target then
    match ← eval running t with
    | .list _ => throw (.operation .nothingToAdd)
    | v => throw (.operation (.notList "append" (← kindOf v)))
  match target with
  | .list i =>
    let v ← eval running t
    objects fun o => { o with lists := o.lists.modify i (· ++ [v]) }
    return .null
  | v => ask run running v "append" (return [← eval running t])

def answerVars (on : String) : Run Answer := do
  let own ← ownAttributes (← resolve running on)
  let visible := own.filter fun (name, _) => !(opensPrivate name && closesReserved name)
  return .shown (.record (← visible.mapM fun (name, v) => do return (name, ← shown v)))

def isSubclass (a b : Value) : Run Bool := do
  match a, b with
  | .ref (.cls c), .ref (.cls d) => return (← hierarchy).isSubclass c d
  | .ref (.cls _), _ => throw (.operation .notClassToTest)
  | _, _ => throw (.operation .notClass)

/-- Writes a class-level value through the property that is declared for it, if one is. -/
def assignStatic (target : Value) (attr : String) (v : Value) : Run Unit := do
  match target with
  | .ref (.cls c) =>
    match (← hierarchy).assigned c attr with
    | .ok assigned => writeTo target assigned v
    | .error fault => throw (.attribute fault)
  | target =>
    discard (attributeOf target "__mro__")
    writeTo target attr v

/-- The value of a property for an owner; without an owner, for the class of the instance. -/
def propertyValue (id : String) (holder owner : Option String) : Run Value := do
  match ← resolve running id with
  | .ref (.property p) =>
    let holder ← holder.mapM (resolve running)
    let given ← owner.mapM (resolve running)
    match given, (← hierarchy).propertyAt p |>.backing? with
    | _, none => throw (.attribute .unboundRead)
    | some target, some backing => attributeOf target backing
    | none, some backing =>
      match holder.getD .null with
      | .ref (.object i) => classAttribute ((← hierarchy).instanceAt i).cls backing
      | .ref (.cls c) =>
        let kind := if (← classOf c).isTraced then Builtin.tracingType else Builtin.type
        classAttribute kind backing
      | v => throw (.attribute (.missingOnClass (← kindOf v) backing))
  | v =>
    discard (attributeOf v "__get__")
    throw (.operation (.notCallable (← kindOf v)))

def setName (id cls name : String) : Run Unit := do
  match ← resolve running id with
  | .ref (.property p) => do nameProperty p (← resolve running cls) name
  | .ref (.initializer i) => do setOwner i (← resolve running cls)
  | v => discard (ask run running v "__set_name__" (return [← resolve running cls, .text name]))

def answerSubscript (cls : String) (args : List Term) (isSingle : Bool) (name? : Option String) :
    Run Answer := do
  let given ← evalAll running args
  let param ← match isSingle, given with
    | true, v :: _ => pure v
    | true, [] => throw (.raised "IndexError" "list index out of range")
    | false, vs => pure (.tuple vs)
  let made ← match ← subscript run running (← resolve running cls) param with
    | .alias => return .shown (.record [("alias", .bool true)])
    | .answer (.listOf _ _) => return .shown (.record [("alias", .bool true)])
    | .cls c => pure (Value.ofClass c)
    | .answer v => pure v
  match name?, made with
  | some name, .ref r => if !(← get).rest.known.contains r then bind name made
  | _, _ => pure ()
  let ref ← shown made
  let handle := match ref with
    | .ref handle => .text handle
    | s => s
  let named (attr : String) : Run Shown := do shown (← attributeOf made attr)
  return .shown (.record [("ref", handle), ("name", ← named "__name__"),
    ("qualname", ← named "__qualname__"), ("module", ← named "__module__")])

def answerReified (v : Value) : Run Answer := do
  let h ← hierarchy
  let own (attr : String) (other : Value) : Value := match v with
    | .ref (.cls c) => (h.own? c attr).getD other
    | _ => other
  let is := own "__reified__" (.bool false)
  let isReified ← isTruthy is
  let ofReified (attr : String) (other : Value) : Run Shown :=
    shown (if isReified then own attr other else other)
  return .shown (.record [("is", ← shown is), ("args", ← ofReified "__args__" (.tuple [])),
    ("origin", ← ofReified "__origin__" v)])

def answerInstantiations (v : Value) : Run Answer := do
  let found := (← get).rest.instantiations.filter fun x => Value.ofClass x.origin == v
  return .shown (.row (← found.mapM fun x => do
    return .row [← shown (.tuple x.args), ← shown (Value.ofClass x.cls)]))

end World

end StateWeave
