import StateWeave.Dispatch.ChannelName
import StateWeave.Import.Fault
import StateWeave.Table
import StateWeave.Text.Cut
import StateWeave.Text.Dotted
import StateWeave.Text.Decimal
import StateWeave.Tree.Source
import StateWeave.Tree.Stmt

/-! What names stand for while modules run. Only what decides which modules are imported, which
names are bound and which classes register is followed; all else is unknown. -/

namespace StateWeave

inductive CollectionKind
  | tuple
  | list
  | set
deriving DecidableEq, Repr, Inhabited

mutual

inductive Thing
  | unknown
  | constant (value : Constant)
  | sequence (kind : CollectionKind) (items : List Thing)
  | dict (entries : List (Thing × Thing))
  /-- A list, a set or a dictionary that can change, by its number. -/
  | shared (serial : Nat)
  /-- The bounds and the step of a part of a row. -/
  | slice (lower upper step : Thing)
  | builtin (name : String)
  | module (name : String)
  /-- The names of a module as a table. -/
  | globals (module : String)
  | function (code : Code)
  | staticMethod (function : Thing)
  /-- A function of a class that is given the class. -/
  | classMethod (function : Thing)
  | property (function : Thing)
  /-- A method together with what it belongs to. -/
  | bound (owner method : Thing)
  | method (owner : Thing) (name : String)
  /-- A member of a module without a file, by its dotted name. -/
  | foreign (path : String)
  | cls (serial : Nat) (name : String) (names : List (String × Thing)) (bases : List Thing)
  /-- A type that is put together from others and is no class itself. -/
  | alias (origin : Thing) (args : List Thing)
  | object (serial : Nat) (cls : Thing)
  | typeVariable
  | failure (kinds : List String) (text : String)
  /-- A context that failures of these kinds do not leave. -/
  | suppression (caught : List Thing)
  /-- Registers units with a module when the class that holds it is made. -/
  | registration (module : String) (channels : List ChannelName) (isGeneric : Bool)

structure Code where
  /-- The name by which messages call the function. -/
  name : String
  params : Params
  body : Block
  isAsync : Bool
  defaults : List (String × Thing)
  module : String
  cls : Option String
  /-- The names of the functions around it. -/
  enclosing : List (String × Thing)

end

instance : Inhabited Thing := ⟨.unknown⟩

/-- What was stored in classes and objects after they were made, by their number and the name; there
is nothing under a name that was taken away. -/
abbrev Fields := Table (Nat × String) (Option Thing)

namespace Thing

def text (s : String) : Thing := .constant (.str s)

def bool (b : Bool) : Thing := .constant (.bool b)

def null : Thing := .constant .null

def ofInt (n : Int) : Thing := .constant (.int n)

def tuple (items : List Thing) : Thing := .sequence .tuple items

def list (items : List Thing) : Thing := .sequence .list items

def version : List Thing :=
  [ofInt 3, ofInt 11, ofInt 10, text "final", ofInt 0]

/-- What a path outside the modules with a file stands for. -/
def ofForeign (path : String) : Thing :=
  match path with
  | "typing.TYPE_CHECKING" => bool false
  | "sys.platform" => text "linux"
  | "os.name" => text "posix"
  | "sys.version_info.major" => ofInt 3
  | "sys.version_info.minor" => ofInt 11
  | _ => .foreign path

/-- Whether a thing counts as true; what is unknown does. -/
def isTruthy : Thing → Bool
  | .constant c => match c with
    | .null => false
    | .ellipsis => true
    | .bool b => b
    | .int n => n != 0
    | .float s => Decimal.integer? s != some 0
    | .complex re im => Decimal.integer? re != some 0 || Decimal.integer? im != some 0
    | .str s => !s.isEmpty
    | .bytes octets => !octets.isEmpty
  | .sequence _ items => !items.isEmpty
  | .dict entries => !entries.isEmpty
  | _ => true

/-- A whole number; booleans count as 0 and 1. -/
def integer? : Thing → Option Int
  | .constant (.int n) => some n
  | .constant (.bool b) => some (if b then 1 else 0)
  | _ => none

def whole? : Thing → Option Int
  | .constant (.float s) => Decimal.integer? s
  | x => x.integer?

def isPlain : Thing → Bool
  | .constant _ | .sequence _ _ | .dict _ => true
  | _ => false

/-- Whether a thing equals no thing of another kind. -/
def isDistinct : Thing → Bool
  | .builtin _ | .module _ | .function _ => true
  | x => x.isPlain

mutual

def same? : Thing → Thing → Option Bool
  | .constant a, .constant b => match whole? (.constant a), whole? (.constant b) with
    | some m, some n => some (m == n)
    | _, _ => some (a == b)
  | .sequence k xs, .sequence l ys =>
    if k != l then some false
    else match k, sameAll? xs ys with
      | .set, some false => if xs.isEmpty || ys.isEmpty then some false else none
      | _, found => found
  | .dict xs, .dict ys => if xs.isEmpty || ys.isEmpty then some (xs.isEmpty && ys.isEmpty) else none
  | .shared a, .shared b => if a = b then some true else none
  | .builtin a, .builtin b => some (a == b)
  | .module a, .module b => some (a == b)
  | .cls a _ _ _, .cls b _ _ _ => some (a == b)
  | .object a _, .object b _ => if a = b then some true else none
  | .function _, .function _ => none
  | x, y => if x.isDistinct && y.isDistinct then some false else none

def sameAll? : List Thing → List Thing → Option Bool
  | [], [] => some true
  | x :: xs, y :: ys => match same? x y, sameAll? xs ys with
    | some true, rest => rest
    | found, _ => found
  | _, _ => some false

end

def compare? : Thing → Thing → Option Ordering
  | .constant (.str s), .constant (.str t) => some (compare s t)
  | .sequence k xs, .sequence l ys => if k = l && k != .set then go xs ys else none
  | x, y => match x.integer?, y.integer? with
    | some m, some n => some (compare m n)
    | _, _ => none
where
  go : List Thing → List Thing → Option Ordering
    | [], [] => some .eq
    | [], _ :: _ => some .lt
    | _ :: _, [] => some .gt
    | x :: xs, y :: ys => match x.integer?, y.integer? with
      | some m, some n => if m = n then go xs ys else some (compare m n)
      | _, _ => none

mutual

/-- How a thing shows itself in a message; what is not known of it, or is too long, is left out. -/
def shown : Thing → String
  | .constant c => c.shown?.getD "..."
  | .sequence .tuple items => "(" ++ Source.tupleItems (shownAll items) ++ ")"
  | .sequence .list items => "[" ++ Source.commaSeparated (shownAll items) ++ "]"
  | .sequence .set [] => "set()"
  | .sequence .set items => "\x7b" ++ Source.commaSeparated (shownAll items) ++ "\x7d"
  | .dict entries => "\x7b" ++ Source.commaSeparated (shownEntries entries) ++ "\x7d"
  | .builtin name => "<class '" ++ name ++ "'>"
  | _ => "..."

def shownAll : List Thing → List String
  | [] => []
  | x :: xs => x.shown :: shownAll xs

def shownEntries : List (Thing × Thing) → List String
  | [] => []
  | (k, v) :: es => (k.shown ++ ": " ++ v.shown) :: shownEntries es

end

def failureText (kind : String) : List Thing → String
  | [] => ""
  | [.constant (.str s)] => if kind = "KeyError" then Quoted.text s else s
  | [x] => x.shown
  | xs => "(" ++ Source.tupleItems (shownAll xs) ++ ")"

mutual

def kinds : Thing → List String
  | .builtin name => if Standard.isException name then Standard.kindsOf name else []
  | .foreign path => errorKinds (Dotted.last path)
  | .cls _ name _ bases => match kindsAll bases with
    | [] => []
    | general => name :: general
  | _ => []

def kindsAll : List Thing → List String
  | [] => []
  | x :: xs => x.kinds ++ kindsAll xs

end

mutual

/-- Whether two things stand for the same type, where what is unknown is taken to be one type. -/
def isAlike : Thing → Thing → Bool
  | .unknown, .unknown => true
  | .foreign a, .foreign b => a == b
  | .cls a _ _ _, .cls b _ _ _ => a == b
  | .alias a xs, .alias b ys => isAlike a b && areAlike xs ys
  | .sequence _ xs, .sequence _ ys => areAlike xs ys
  | x, y => same? x y == some true

def areAlike : List Thing → List Thing → Bool
  | [], [] => true
  | x :: xs, y :: ys => isAlike x y && areAlike xs ys
  | _, _ => false

end

mutual

/-- Whether a type has type variables that nothing has been put in for. A class has those of the
types that it is made from. -/
def isOpen : Thing → Bool
  | .typeVariable => true
  | .alias _ args => anyOpen args
  | .sequence _ items => anyOpen items
  | .cls _ _ _ bases => anyOpenAlias bases
  | _ => false

def anyOpen : List Thing → Bool
  | [] => false
  | x :: xs => x.isOpen || anyOpen xs

def anyOpenAlias : List Thing → Bool
  | [] => false
  | .alias _ args :: xs => anyOpen args || anyOpenAlias xs
  | _ :: xs => anyOpenAlias xs

end

mutual

def classMember? (fields : Fields) (name : String) : Thing → Option Thing
  | .cls serial _ names bases =>
    let own := (fields.get? (serial, name)).getD ((names.find? (·.1 == name)).map (·.2))
    own.or (firstMember? fields name bases)
  | .alias origin _ => classMember? fields name origin
  | _ => none

def firstMember? (fields : Fields) (name : String) : List Thing → Option Thing
  | [] => none
  | x :: xs => (classMember? fields name x).or (firstMember? fields name xs)

end

mutual

/-- Whether all that a class can have is known, apart from reserved names. -/
def isSealed : Thing → Bool
  | .cls _ _ _ bases => areSealed bases
  | .builtin name => name == "object" || Standard.isException name
  | .foreign path => path == "typing.Generic"
  | .alias origin _ => origin.isSealed
  | _ => false

def areSealed : List Thing → Bool
  | [] => true
  | x :: xs => x.isSealed && areSealed xs

end

def catches (kinds : List String) : Thing → Bool
  | .sequence _ items => items.any (isAmong kinds)
  | x => isAmong kinds x
where
  isAmong (kinds : List String) (x : Thing) : Bool :=
    match x.kinds with
    | kind :: _ => kinds.contains kind
    | [] => false

def kindName : Thing → String
  | .constant c => match c with
    | .null => "NoneType"
    | .ellipsis => "ellipsis"
    | .bool _ => "bool"
    | .int _ => "int"
    | .float _ => "float"
    | .complex _ _ => "complex"
    | .str _ => "str"
    | .bytes _ => "bytes"
  | .sequence kind _ => match kind with
    | .tuple => "tuple"
    | .list => "list"
    | .set => "set"
  | .dict _ => "dict"
  | .function _ | .staticMethod _ => "function"
  | .bound _ _ => "method"
  | .module _ => "module"
  | .builtin _ | .cls _ _ _ _ => "type"
  | .object _ (.cls _ name _ _) => name
  | .failure (kind :: _) _ => kind
  | _ => "object"

/-- The items that a loop goes through; of what is unknown there is taken to be one. -/
def items? : Thing → Option (List Thing)
  | .sequence _ items => some items
  | .dict entries => some (entries.map (·.1))
  | .constant (.str s) => some (s.toList.map fun c => text (String.singleton c))
  | .constant (.bytes octets) => some (octets.map fun o => ofInt o.toNat)
  | .constant _ | .function _ | .module _ => none
  | _ => some [.unknown]

end Thing

end StateWeave
