import StateWeave.Import.Attribute
import StateWeave.Import.Collection

/-! Subscripts and calls of things. -/

namespace StateWeave

namespace Imports

variable (r : Interpreter) (p : Place)

def typeArguments : Thing → List Thing
  | .sequence .tuple items => items
  | x => [x]

def isGenericRegistration : Thing → Bool
  | .registration _ _ isGeneric => isGeneric
  | _ => false

/-- Puts types in for the type variables of a class. Of a generic class that is registered, every
new instantiation is a class of its own that registers the same units. -/
def instantiate (serial : Nat) (name : String) (names : List (String × Thing))
    (bases : List Thing) (index : Thing) : Importing Thing := do
  let origin := Thing.cls serial name names bases
  let args := typeArguments index
  let registered := names.reverse.find? (isGenericRegistration ·.2)
  match registered, ← classMember? origin "__class_getitem__" with
  | none, some (.function code) => r.call code [origin, index] []
  | none, _ => return .alias origin args
  | some (_, registration), _ =>
    if Thing.anyOpen args then return .alias origin args
    match (← get).rest.specializations.find? fun i =>
      i.origin == serial && Thing.areAlike i.args args with
    | some i => return i.made
    | none =>
      let made ← makeClass name [] [origin]
      register registration
      change fun i => { i with specializations := ⟨serial, args, made⟩ :: i.specializations }
      return made

def notSubscriptable (x : Thing) : ImportFault :=
  .ofKind "TypeError" ("'" ++ x.kindName ++ "' object is not subscriptable")

/-- An item of a thing. The table of a module gives what is bound in it. -/
def subscript (x index : Thing) : Importing Thing := do
  match ← contents x, index with
  | .globals module, .constant (.str name) =>
    match (← moduleAt module).names.get? name with
    | some x => return x
    | none => throw (noKey index)
  | .foreign "sys.modules", .constant (.str name) =>
    if ← isLoaded name then return .module name else throw (noKey index)
  | .sequence .set items, _ => throw (notSubscriptable (.sequence .set items))
  | .sequence kind items, .constant (.int place) => match Thing.item? items place with
    | some x => return x
    | none => throw (noIndex (Thing.kindName (.sequence kind items)))
  | .sequence kind items, .slice lower upper step =>
    match Thing.part? items lower upper step with
    | some part => settle (.sequence kind part)
    | none => return .unknown
  | .constant (.str s), .slice lower upper step =>
    return ((Thing.part? s.toList lower upper step).map fun cs => Thing.text (String.ofList cs)).getD
      .unknown
  | .dict entries, index => found entries index
  | .constant (.str s), .constant (.int place) =>
    match Thing.item? (s.toList.map fun c => .text (String.singleton c)) place with
    | some x => return x
    | none => throw (noIndex "string")
  | .constant (.str _), _ | .constant (.bytes _), _ => return .unknown
  | .constant c, _ => throw (notSubscriptable (.constant c))
  | .function code, _ => throw (notSubscriptable (.function code))
  | .module name, _ => throw (notSubscriptable (.module name))
  | .object serial kind, index => match ← classMember? kind "__getitem__" with
    | some (.function code) => r.call code [.object serial kind, index] []
    | _ => return .unknown
  | .cls serial name names bases, _ => instantiate r serial name names bases index
  | .foreign _, _ | .builtin _, _ | .alias _ _, _ => return .alias x (typeArguments index)
  | _, _ => return .unknown

def numbers : List Thing → Thing
  | [.constant (.int n)] => upTo 0 n
  | [.constant (.int m), .constant (.int n)] => upTo m n
  | _ => .unknown
where
  upTo (m n : Int) : Thing :=
    .tuple ((List.range (min (n - m).toNat Thing.countLimit)).map fun (k : Nat) =>
      Thing.ofInt (m + k))

def collect (kind : CollectionKind) : List Thing → Importing Thing
  | [] => settle (.sequence kind [])
  | x :: _ => do
    let items ← itemsOf x
    settle (.sequence kind (if kind = .set then items.foldl adding [] else items))
where
  adding (items : List Thing) (x : Thing) : List Thing :=
    if Thing.among? x items == some true then items else items ++ [x]

def unpacking (x : Thing) : Importing Thing := do
  match ← contents x with
  | .typeVariable => return .typeVariable
  | .sequence kind items => return .sequence kind items
  | .dict entries => return .tuple (entries.map (·.1))
  | .constant c => return .tuple (← itemsOf (.constant c))
  | _ => return .unknown

def binary (op : BinOp) (isStored : Bool) (x y : Thing) : Importing Thing := do
  settle (← ofExcept (Thing.binary op isStored (← contents x) (← contents y)))

def comparison? (op : CmpOp) (x y : Thing) : Importing (Option Bool) := do
  match op with
  | .is | .isNot => ofExcept (Thing.comparison? op x y)
  | op => ofExcept (Thing.comparison? op (← view x) (← view y))

/-- Imports a module by a name that is relative if it opens with dots. -/
def importNamed (name : String) (package : Option String) : Importing Thing := do
  let dots := (name.toList.takeWhile (· == '.')).length
  let rest := String.ofList (name.toList.drop dots)
  let full := match dots, package with
    | 0, _ => name
    | n + 1, some package =>
      let parts := Dotted.components package
      Dotted.join (parts.take (parts.length - n) ++ if rest.isEmpty then [] else [rest])
    | _, none => rest
  r.load full
  return .module full

def numberOf (s : String) : Importing Thing := do
  let cs := s.toList.dropWhile (·.isWhitespace)
  let cs := (cs.reverse.dropWhile (·.isWhitespace)).reverse
  let digits := match cs with
    | '-' :: ds | '+' :: ds | ds => ds
  if digits.isEmpty || !digits.all (·.isDigit) then
    throw (.ofKind "ValueError"
      ("invalid literal for int() with base 10: " ++ Quoted.text s))
  let n : Int := (String.ofList digits).toNat?.getD 0
  return Thing.ofInt (if cs.head? = some '-' then -n else n)

def textOf (c : Constant) : Importing Thing :=
  match c.shown? with
  | some text => return .text text
  | none => throw (.ofKind "ValueError" Written.digitsMessage)

def lengthOf (x : Thing) : Importing Thing := do
  match ← contents x with
  | .sequence _ items => return Thing.ofInt items.length
  | .dict entries => return Thing.ofInt entries.length
  | .constant (.str s) => return Thing.ofInt s.length
  | .constant (.bytes octets) => return Thing.ofInt octets.length
  | .object serial kind => match ← classMember? kind "__len__" with
    | some (.function code) => r.call code [.object serial kind] []
    | _ => return .unknown
  | .constant c => refuse (.constant c)
  | .function code => refuse (.function code)
  | .module name => refuse (.module name)
  | _ => return .unknown
where
  refuse (x : Thing) : Importing Thing :=
    throw (.ofKind "TypeError" ("object of type '" ++ x.kindName ++ "' has no len()"))

def callPlain (name : String) (args : List Thing) (kwargs : List (String × Thing)) :
    Importing Thing := do
  match name, args with
  | "list", _ | "sorted", _ => collect .list args
  | "tuple", _ | "iter", _ | "frozenset", _ => collect .tuple args
  | "set", _ => collect .set args
  | "reversed", [x] => return .tuple (← itemsOf x).reverse
  | "dict", [] => share (.dict (kwargs.map fun (k, x) => (.text k, x)))
  | "dict", [x] => match ← contents x with
    | .dict entries =>
      share (.dict (kwargs.foldl (fun es (k, x) => Thing.stored (.text k) x es) entries))
    | _ => return .unknown
  | "int", [] => return Thing.ofInt 0
  | "int", [.constant (.str s)] => numberOf s
  | "int", [.constant (.int n)] => return Thing.ofInt n
  | "int", [.constant (.bool b)] => return Thing.ofInt (if b then 1 else 0)
  | "str", [] => return .text ""
  | "str", [.constant (.str s)] => return .text s
  | "str", [.constant c] => textOf c
  | "str", [.failure _ text] => return .text text
  | "float", [] => return .constant (.float "0.0")
  | "bool", [] => return .bool false
  | "bool", [x] => return .bool (← holds r x)
  | _, _ => return .unknown

def callBuiltin (name : String) (args : List Thing) (kwargs : List (String × Thing)) :
    Importing Thing := do
  if Standard.isException name then
    return .failure (Standard.kindsOf name) (Thing.failureText name (← args.mapM view))
  match name, args with
  | "range", _ => return numbers args
  | "len", [x] => lengthOf r x
  | "any", [x] => return .bool ((← (← itemsOf x).mapM (holds r)).any id)
  | "all", [x] => return .bool ((← (← itemsOf x).mapM (holds r)).all id)
  | "enumerate", [x] =>
    return .tuple ((← itemsOf x).zipIdx.map fun (x, k) => .tuple [Thing.ofInt k, x])
  | "zip", [x, y] =>
    return .tuple (((← itemsOf x).zip (← itemsOf y)).map fun (x, y) => .tuple [x, y])
  | "isinstance", [x, kind] =>
    return (Thing.isInstance? (← view x) kind).elim .unknown .bool
  | "print", _ => return .null
  | "globals", [] => return .globals p.module
  | "vars", [] | "locals", [] => return if p.isTop then .globals p.module else .unknown
  | "vars", [.module m] => return .globals m
  | "staticmethod", [x] => return .staticMethod x
  | "classmethod", [x] => return .classMethod x
  | "property", x :: _ => return .property x
  | "hasattr", [x, .constant (.str attr)] => return .bool (← attribute? r x attr).isSome
  | "getattr", [x, .constant (.str attr)] => attributeOf r x attr
  | "getattr", [x, .constant (.str attr), y] => return (← attribute? r x attr).getD y
  | "setattr", [x, .constant (.str attr), y] =>
    setAttribute x attr y
    return .null
  | "delattr", [x, .constant (.str attr)] =>
    removeAttribute x attr
    return .null
  | "__import__", .constant (.str module) :: _ =>
    r.load module
    return .module (Dotted.head module)
  | _, _ => callPlain r name args kwargs

def registration (args : List Thing) (kwargs : List (String × Thing)) : Thing :=
  let isGiven (name : String) : Bool := kwargs.any fun (k, x) =>
    k == name && match x with
      | .constant .null => false
      | _ => true
  let module := match args with
    | .constant (.str module) :: _ => module
    | _ => ""
  .registration module (ChannelName.all.filter fun c => isGiven c.label)
    (kwargs.any fun (k, x) => k == "generic" && x.isTruthy)

/-- How an object shows itself at this time. -/
def showing (x : Thing) : Importing (Except ShowFault String) := do
  let .object _ kind := x | return .ok x.shown
  match ← classMember? kind "__repr__" with
  | some (.function code) =>
    match ← attempt (r.call code [x] []) with
    | .ok (.constant (.str text)) => return .ok text
    | .ok .unknown => return .ok x.shown
    | .ok y =>
      return .error (.raised "TypeError" ("__repr__ returned non-string (type " ++ y.kindName ++ ")"))
    | .error e => return .error (.raised e.kind (e.message?.getD ""))
  | _ => return .ok x.shown

mutual

def datumOf : Thing → Importing Datum
  | .constant c => return .constant c
  | .sequence .list items => do return .list (← datumsOf items)
  | .sequence .tuple items => do return .tuple (← datumsOf items)
  | x => do return .object (← showing r x)

def datumsOf : List Thing → Importing (List Datum)
  | [] => return []
  | x :: xs => do
    let d ← datumOf x
    return d :: (← datumsOf xs)

end

def withSetting (s : Settings) : String × Thing → Importing Settings
  | ("runtime_module", .constant (.str module)) => return { s with runtimeModule := module }
  | ("runtime_alias", .constant (.str name)) => return { s with runtimeAlias := name }
  | ("collect_garbage", x) => do return { s with collectGarbage := ← holds r x }
  | ("zero_values", x) => do
    let .dict entries ← view x | return s
    let zeros ← entries.filterMapM fun (key, x) => do
      let .constant (.str name) := key | return none
      return some (name, ← datumOf r x)
    return { s with zeroValues := some ⟨zeros⟩ }
  | _ => return s

def updateConfig (args : List Thing) (kwargs : List (String × Thing)) : Importing Thing := do
  let refuse (text : String) : Importing Thing := throw (.ofKind "TypeError" text)
  let settings := ["runtime_module", "runtime_alias", "zero_values", "collect_garbage"]
  match args, kwargs.find? fun (name, _) => !settings.contains name with
  | [], none =>
    let changes ← kwargs.foldlM (withSetting r) {}
    modify fun s => { s with config := s.config.update changes }
    return .unknown
  | [], some (name, _) =>
    refuse ("ReloadConfig.__init__() got an unexpected keyword argument '" ++ name ++ "'")
  | args, _ =>
    refuse ("update_reload_config() takes 0 positional arguments but " ++ toString args.length
      ++ if args.length = 1 then " was given" else " were given")

def callForeign (path : String) (args : List Thing) (kwargs : List (String × Thing)) :
    Importing Thing := do
  match path, args, kwargs with
  | "typereload.runtime.TypeInitializer", _, _ => return registration args kwargs
  | "typereload.update_reload_config", _, _ | "typereload.config.update_reload_config", _, _ =>
    updateConfig r args kwargs
  | "typereload.reset_reload_config", [], [] | "typereload.config.reset_reload_config", [], [] =>
    modify ({ · with config := {} })
    return .null
  | "typing.TypeVar", _, _ | "typing.ParamSpec", _, _ | "typing.TypeVarTuple", _, _ =>
    return .typeVariable
  | "typing.cast", [_, x], _ => return x
  | "contextlib.suppress", _, _ => return .suppression args
  | "os.environ.get", _ :: rest, _ | "os.getenv", _ :: rest, _ => return rest.headD .null
  | "importlib.import_module", [.constant (.str name)], [] => importNamed r name none
  | "importlib.import_module", [.constant (.str name), .constant (.str package)], _
  | "importlib.import_module", [.constant (.str name)], [(_, .constant (.str package))] =>
    importNamed r name (some package)
  | _, _, _ =>
    match errorKinds (Dotted.last path) with
    | [] => return .unknown
    | kinds => return .failure kinds (Thing.failureText "" (← args.mapM view))

/-- Makes an instance of a class, which runs the code of the class that sets it up. Without such
code, what is given by name is taken to be stored under that name. -/
def makeInstance (cls : Thing) (args : List Thing) (kwargs : List (String × Thing)) :
    Importing Thing := do
  match cls.kinds with
  | [] =>
    let serial ← newSerial
    let x := Thing.object serial cls
    match ← classMember? cls "__init__" with
    | some (.function code) => discard (r.call code (x :: args) kwargs)
    | _ => kwargs.forM fun (name, y) => setField serial name (some y)
    return x
  | kinds => return .failure kinds (Thing.failureText "" (← args.mapM view))

def callTable (module method : String) (args : List Thing) (kwargs : List (String × Thing)) :
    Importing Thing := do
  match method, args with
  | "update", _ =>
    match ← args.mapM contents with
    | [.dict entries] =>
      for (key, x) in entries do
        match key with
        | .constant (.str name) => setName module name x
        | _ => pure ()
    | _ => pure ()
    for (name, x) in kwargs do setName module name x
    return .null
  | "get", .constant (.str name) :: rest =>
    return ((← moduleAt module).names.get? name).getD (rest.headD .null)
  | "setdefault", .constant (.str name) :: rest =>
    match (← moduleAt module).names.get? name with
    | some x => return x
    | none =>
      setName module name (rest.headD .null)
      return rest.headD .null
  | "pop", .constant (.str name) :: rest =>
    match (← moduleAt module).names.get? name, rest with
    | some x, _ =>
      unsetName module name
      return x
    | none, x :: _ => return x
    | none, [] => throw (noKey (.text name))
  | _, _ => return .unknown

def callText (s : String) (method : String) (args : List Thing) : Importing Thing := do
  let asked (f : String → Bool) : Thing → Thing
    | .constant (.str t) => .bool (f t)
    | .sequence _ items => .bool (items.any fun
      | .constant (.str t) => f t
      | _ => false)
    | _ => .unknown
  match method, args with
  | "startswith", [x] => return asked (s.startsWith ·) x
  | "endswith", [x] => return asked (s.endsWith ·) x
  | "upper", [] => return .text s.toUpper
  | "lower", [] => return .text s.toLower
  | "strip", [] => return .text (String.ofList
      ((s.toList.dropWhile (·.isWhitespace)).reverse.dropWhile (·.isWhitespace)).reverse)
  | "split", [.constant (.str mark)] =>
    if mark.isEmpty then throw (.ofKind "ValueError" "empty separator")
    share (.list ((s.splitOn mark).map .text))
  | "join", [x] =>
    let items ← itemsOf x
    let texts := items.filterMap fun
      | .constant (.str t) => some t
      | _ => none
    return if texts.length = items.length then .text (s.intercalate texts) else .unknown
  | _, _ => return .unknown

def callThing (f : Thing) (args : List Thing) (kwargs : List (String × Thing)) :
    Importing Thing := do
  match f with
  | .function code => r.call code args kwargs
  | .builtin name => callBuiltin r p name args kwargs
  | .foreign path => callForeign r path args kwargs
  | .cls _ _ _ _ | .alias _ _ => makeInstance r f args kwargs
  | .staticMethod (.function code) => r.call code args kwargs
  | .bound owner (.function code) => r.call code (owner :: args) kwargs
  | .method (.globals module) name => callTable module name args kwargs
  | .method (.shared serial) name => callShared serial name args kwargs
  | .method (.constant (.str s)) name => callText s name args
  | .method (.property f) _ => return .property f
  | .object _ cls => match ← classMember? cls "__call__" with
    | some (.function code) => r.call code (f :: args) kwargs
    | _ => return .unknown
  | .constant _ =>
    throw (.ofKind "TypeError" ("'" ++ f.kindName ++ "' object is not callable"))
  | .module _ => throw (.ofKind "TypeError" "'module' object is not callable")
  | _ => return .unknown

end Imports

end StateWeave
