import StateWeave.Script.Calling

/-! Subscripting classes. A generic class with an initializer makes one class per choice of concrete
type arguments, sets it up once and keeps it; everything else follows the typing rules. -/

namespace StateWeave

def Hierarchy.behind? (h : Hierarchy) (c ancestor : Nat) : Option (List Nat) :=
  match (h.classAt c).order.dropWhile (· != ancestor) with
  | [] => none
  | _ :: rest => some rest

def Value.arguments : Value → List Value
  | .tuple vs => vs
  | v => [v]

inductive Subscripted
  | cls (c : Nat)
  | alias
  | answer (v : Value)

namespace World

variable (run : Runner) (running : Option Value)

def isOpen (v : Value) : Run Bool := do
  match v with
  | .ref (.variable _) => return true
  | v =>
    if ["ParamSpec", "TypeVarTuple"].contains (← kindOf v) then return true
    match ← attribute? v variablesName with
    | some typeVars => isTruthy typeVars
    | none => return false

def describeArgument (v : Value) : Run Value := do
  match ← attribute? v "__name__" with
  | some name => return name
  | none => return .text (← describe v)

def describeArguments (args : List Value) : Run String := do
  let names ← args.mapM describeArgument
  let texts ← names.zipIdx.mapM fun (name, index) => do
    match name with
    | .text s => return s
    | v => throw (.operation (.itemNotText index (← kindOf v)))
  return "[" ++ Source.commaSeparated texts ++ "]"

mutual

/-- The kind of the first part of a value that can change: a list, a dictionary, or an object whose
class says so. -/
def changing? (h : Hierarchy) : Value → Option String
  | .list _ => some "list"
  | .tuple xs => changingAmong? h xs
  | .listOf x _ => changing? h x
  | .ref (.object i) =>
    let c := (h.instanceAt i).cls
    let own? := (h.classAt c).order.find? fun d =>
      d == Builtin.list || d == Builtin.dict || (h.own? d "__hash__").isSome
    match own? with
    | none => none
    | some d =>
      if (h.own? d "__hash__").getD .null == .null then some (h.classAt c).name else none
  | _ => none

def changingAmong? (h : Hierarchy) : List Value → Option String
  | [] => none
  | x :: xs => (changing? h x).or (changingAmong? h xs)

end

def findInstantiation? (o : Objects) (origin : Nat) (args : List Value) : Option Nat :=
  (o.instantiations.find? fun x => x.origin == origin && Value.sameAll x.args args).map (·.cls)

/-- Makes the class for these arguments. It is kept only once it is set up, so that a failure leaves
nothing behind. -/
def makeInstantiation (origin initializer : Nat) (args : List Value) : Run Nat := do
  let shown ← describeArguments args
  let c ← classOf origin
  let id ← makeClass run running .cls {
    name := c.name ++ shown, qualname := c.qualname ++ shown, bases := [origin], order := []
    own := ⟨[("__origin__", Value.ofClass origin), ("__args__", .tuple args),
      ("__reified__", .bool true),
      ("__module__", ← attributeOf (Value.ofClass origin) "__module__")]⟩ }
  setUp run running initializer (Value.ofClass id)
  objects fun o => { o with instantiations := o.instantiations ++ [⟨origin, args, id⟩] }
  return id

def instantiate (origin initializer : Nat) (args : List Value) : Run Nat := do
  match changingAmong? (← hierarchy) args with
  | some kind => throw (.operation (.unhashable kind))
  | none => pure ()
  match findInstantiation? (← get).rest origin args with
  | some c => return c
  | none => makeInstantiation run running origin initializer args

/-- Lets a variable for the parameters of a function take its arguments: if it is the only variable
of the class, it takes all of them. -/
def takeParameters (cls : String) (typeVars args : List Value) (v : TypeVariable) :
    Run (List Value) := do
  let index := typeVars.findIdx (· == .ref (.variable v))
  match args[index]?, args with
  | none, _ => throw (.typing (.noArgumentLeft cls))
  | some arg, first :: _ =>
    let isWhole := match first with
      | .tuple _ | .list _ => true
      | .ref (.variable w) => w.kind = .parameters
      | _ => false
    if typeVars.length = 1 && !isWhole then return [.tuple args]
    match arg with
    | .list i => return args.set index (.tuple (((← get).rest.lists[i]?).getD []))
    | _ => return args
  | some _, [] => return args

def checkArguments (c : Nat) (args : List Value) : Run Unit := do
  args.forM checkText
  let cls := (← get).rest.describeClass c
  let typeVars ← match ← attributeOf (Value.ofClass c) variablesName with
    | .tuple vs => pure vs
    | .list i => pure (((← get).rest.lists[i]?).getD [])
    | .text s => pure (s.toList.map fun x => Value.text (String.singleton x))
    | v => throw (.typing (.variablesNotIterable (← kindOf v)))
  let taken ← typeVars.foldlM (fun args v => match v with
    | .ref (.variable ⟨name, .parameters⟩) => takeParameters cls typeVars args ⟨name, .parameters⟩
    | _ => return args) args
  if typeVars.isEmpty then throw (.typing (.notGeneric cls))
  if typeVars.length != taken.length then
    throw (.typing (.wrongNumber cls taken.length typeVars.length))

/-- Subscripts `c` by the first subscription found on `classes`. An installed one passes open
arguments, and any arguments of a subclass, on to the ancestors behind its own class. -/
def subscriptWithin (c : Nat) (param : Value) (absent : Failure) (unset : Failure) :
    Nat → List Nat → Run Subscripted
  | 0, _ => throw .tooDeep
  | n + 1, classes => do
    let args := param.arguments
    let h ← hierarchy
    match h.firstOwn? classes subscriptionName with
    | none => throw absent
    | some .null => throw unset
    | some (.subscription .alias) => return .alias
    | some (.subscription .generic) =>
      checkArguments c args
      return .alias
    | some (.subscription (.reify origin initializer)) =>
      if c != origin || (← args.anyM isOpen) then
        match h.behind? c origin with
        | none => throw (.operation .notBelow)
        | some rest =>
          subscriptWithin c (.tuple args) (.missing "super" subscriptionName)
            (.operation (.notCallable "NoneType")) n rest
      else .cls <$> instantiate run running origin initializer args
    | some v => .answer <$> callValue run running v [param] []

def subscript (v param : Value) : Run Subscripted := do
  match v with
  | .ref (.cls c) =>
    let x ← classOf c
    let fault := Failure.operation (.classNotSubscriptable x.name)
    subscriptWithin run running c param fault fault (x.order.length + 1) x.order
  | v => throw (.operation (.notSubscriptable (← kindOf v)))

end World

end StateWeave
