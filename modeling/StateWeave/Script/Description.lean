import StateWeave.Script.World
import StateWeave.Tree.Source

/-! How values describe themselves in messages and in the names of instantiations, and how they look
from outside. -/

namespace StateWeave

namespace VariableKind

def label : VariableKind → String
  | .type => "TypeVar"
  | .parameters => "ParamSpec"
  | .types => "TypeVarTuple"

end VariableKind

namespace TypeVariable

def describe (v : TypeVariable) : String :=
  if v.kind = .types then v.name else "~" ++ v.name

end TypeVariable

namespace Objects

variable (o : Objects)

/-- The full name of a class; what comes with the language and what has no module needs none. -/
def fullName (c : ClassObject) : String :=
  match c.own.get? "__module__" with
  | some (.text "builtins") => c.qualname
  | some (.text module) => module ++ "." ++ c.qualname
  | _ => c.name

def describeClass (c : Nat) : String :=
  "<class '" ++ fullName (o.hierarchy.classAt c) ++ "'>"

def kindOf : Value → String
  | .null => "NoneType"
  | .bool _ => "bool"
  | .int _ => "int"
  | .float _ => "float"
  | .text _ => "str"
  | .list _ => "list"
  | .tuple _ => "tuple"
  | .listOf _ _ => "_GenericAlias"
  | .subscription _ | .bound _ _ => "method"
  | .ref r => match r with
    | .cls c => if (o.hierarchy.classAt c).isTraced then "TracingType" else "type"
    | .object i => (o.hierarchy.classAt (o.hierarchy.instanceAt i).cls).name
    | .property _ => "static_property"
    | .event _ => "StaticEvent"
    | .handler _ => "function"
    | .initializer _ => "TypeInitializer"
    | .variable v => v.kind.label
    | .neverReload => "_NeverReloadMarker"
    | .orchestrator _ => "ReloadOrchestrator"
    | .reference _ => "AtomicReference"
    | .token _ | .passing _ => "object"
    | .slot _ _ => "member_descriptor"
    | .member _ => "wrapper_descriptor"
    | .table _ | .annotations _ => "dict"

/-- What a function is called: all handlers are made by one piece of code. -/
def handlerName : String := "handler"

def emptyText? (c : Nat) : Option String :=
  if c = Builtin.int then some "0"
  else if c = Builtin.str then some "''"
  else if c = Builtin.float then some "0.0"
  else if c = Builtin.list then some "[]"
  else if c = Builtin.dict then some "\x7b\x7d"
  else if c = Builtin.bytes then some "b''"
  else none

def describeTo : Nat → Value → String
  | 0, _ => "..."
  | n + 1, v => match v with
    | .null => "None"
    | .bool b => Constant.boolText b
    | .int i => toString i
    | .float s => s
    | .text s => Quoted.text s
    | .list i => "[" ++ Source.commaSeparated (((o.lists[i]?).getD []).map (describeTo n)) ++ "]"
    | .tuple vs => "(" ++ Source.tupleItems (vs.map (describeTo n)) ++ ")"
    | .listOf item _ =>
      let text := match item with
        | .null => "NoneType"
        | .text s => "ForwardRef(" ++ Quoted.text s ++ ")"
        | .ref (.cls c) => fullName (o.hierarchy.classAt c)
        | .ref (.handler _) => handlerName
        | item => describeTo n item
      "typing.List[" ++ text ++ "]"
    | .subscription _ => "<bound method>"
    | .bound receiver _ =>
      "<bound method " ++ handlerName ++ " of " ++ describeTo n receiver ++ ">"
    | .ref r => match r with
      | .cls c => o.describeClass c
      | .object i =>
        let c := (o.hierarchy.instanceAt i).cls
        match (o.hierarchy.classAt c).order.findSome? emptyText? with
        | some text => text
        | none => "<" ++ fullName (o.hierarchy.classAt c) ++ " object>"
      | .property p =>
        "static_property(" ++ ((o.hierarchy.propertyAt p).name.elim "None" Quoted.text) ++ ")"
      | .event e => ((o.events[e]?).getD default).describe
      | .handler _ => "<function " ++ handlerName ++ ">"
      | .initializer i =>
        let x := (o.initializers[i]?).getD default
        let owner := match x.owner with
          | none => "None"
          | some (.ref (.cls c)) => (o.hierarchy.classAt c).qualname
          | some v => describeTo n v
        "TypeInitializer(" ++ Quoted.text x.module ++ ", owner=" ++ owner ++ ", generic=" ++
          Constant.boolText x.isGeneric ++ ")"
      | .variable v => v.describe
      | .neverReload => "never_reload"
      | .orchestrator _ => "<ReloadOrchestrator>"
      | .reference _ => "<AtomicReference object>"
      | .token _ | .passing _ => "<object object>"
      | .slot c name =>
        "<member '" ++ name ++ "' of '" ++ (o.hierarchy.classAt c).name ++ "' objects>"
      | .member name => "<slot wrapper '" ++ name ++ "' of 'object' objects>"
      | .table _ | .annotations _ => "\x7b\x7d"

/-- Values are nested at most this deep. -/
def depth : Nat := 1000

def describe (v : Value) : String :=
  o.describeTo depth v

end Objects

namespace World

def describe (v : Value) : Run String := do
  return (← get).rest.describe v

def kindOf (v : Value) : Run String := do
  return (← get).rest.kindOf v

def showTo : Nat → Value → Run Shown
  | 0, _ => throw .tooDeep
  | n + 1, v => match v with
    | .null => return .null
    | .bool b => return .bool b
    | .int i => return .int i
    | .float s => return .float s
    | .text s => return .text s
    | .list i => do
      let o := (← get).rest
      return .list (← ((o.lists[i]?).getD []).mapM (showTo n))
    | .tuple vs => do return .tuple (← vs.mapM (showTo n))
    | .listOf item _ => do
      match item with
      | .null => return .listOf (.ref (← nameOf (.member "NoneType")))
      | .text s => return .listOf (.ref (← nameOf (.member ("ForwardRef " ++ s))))
      | item => return .listOf (← showTo n item)
    | .ref r => do return .ref (← nameOf r)
    | .subscription _ | .bound _ _ => do return .ref (← nameOf (← newPassing))

def shown (v : Value) : Run Shown :=
  showTo Objects.depth v

end World

end StateWeave
