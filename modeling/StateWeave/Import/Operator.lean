import StateWeave.Import.Thing

/-! Operators on things, as far as their outcome is known. -/

namespace StateWeave.Thing

def isFloat : Thing → Bool
  | .constant (.float _) => true
  | _ => false

def isComplex : Thing → Bool
  | .constant (.complex _ _) => true
  | _ => false

def isNumber (x : Thing) : Bool :=
  x.integer?.isSome || x.isFloat || x.isComplex

def isZero (x : Thing) : Bool :=
  x.integer? == some 0 || (x.isFloat && !x.isTruthy)

def divisionText (isFloat : Bool) : BinOp → Option String
  | .div => some (if isFloat then "float division by zero" else "division by zero")
  | .floorDiv => some (if isFloat then "float floor division by zero"
      else "integer division or modulo by zero")
  | .mod => some (if isFloat then "float modulo" else "integer modulo by zero")
  | _ => none

def isType : Thing → Bool
  | .constant c => c == .null
  | .builtin _ | .foreign _ | .cls _ _ _ _ | .alias _ _ | .typeVariable => true
  | _ => false

def isRepeatable : Thing → Bool
  | .constant (.str _) | .constant (.bytes _) => true
  | .sequence kind _ => kind != .set
  | _ => false

def canFollow : Thing → Thing → Bool
  | .constant (.str _), .constant (.str _) | .constant (.bytes _), .constant (.bytes _) => true
  | .sequence k _, .sequence l _ => k == l && k != .set
  | _, _ => false

def takesNumbers (op : BinOp) (x y : Thing) : Bool :=
  match op with
  | .lShift | .rShift | .bitOr | .bitXor | .bitAnd => x.integer?.isSome && y.integer?.isSome
  | .floorDiv | .mod => !x.isComplex && !y.isComplex
  | .matMult => false
  | _ => true

def takes (op : BinOp) (x y : Thing) : Bool :=
  if x.isNumber && y.isNumber then takesNumbers op x y
  else match op, x, y with
    | .add, x, y => canFollow x y
    | .mult, x, y =>
      (x.isRepeatable && y.integer?.isSome) || (x.integer?.isSome && y.isRepeatable)
    | .mod, .constant (.str _), _ | .mod, .constant (.bytes _), _ => true
    | .bitOr, .dict _, .dict _ => true
    | .bitOr, .sequence .set _, .sequence .set _ | .bitAnd, .sequence .set _, .sequence .set _
    | .bitXor, .sequence .set _, .sequence .set _ | .sub, .sequence .set _, .sequence .set _ => true
    | _, _, _ => false

/-- What an operator that is not there for two things is reported as; `mark` is its sign. -/
def refusal (op : BinOp) (mark : String) (x y : Thing) : ImportFault :=
  let common := "unsupported operand type(s) for " ++ mark ++ ": '" ++ x.kindName ++ "' and '" ++
    y.kindName ++ "'"
  .ofKind "TypeError" <| match op, x with
    | .add, .constant (.str _) | .add, .sequence .list _ | .add, .sequence .tuple _ =>
      "can only concatenate " ++ x.kindName ++ " (not \"" ++ y.kindName ++ "\") to " ++ x.kindName
    | .add, .constant (.bytes _) => "can't concat " ++ y.kindName ++ " to bytes"
    | .mult, _ =>
      if x.isRepeatable then "can't multiply sequence by non-int of type '" ++ y.kindName ++ "'"
      else if y.isRepeatable then
        "can't multiply sequence by non-int of type '" ++ x.kindName ++ "'"
      else common
    | _, _ => common

def countLimit : Nat := 1000

def repeated (items : List Thing) (count : Int) : List Thing :=
  if items.length * count.toNat ≤ countLimit then (List.replicate count.toNat items).flatten
  else [.unknown]

def sign (op : BinOp) (isStored : Bool) : String :=
  match op, isStored with
  | .pow, false => "** or pow()"
  | op, false => op.symbol
  | op, true => op.symbol ++ "="

def stored (key value : Thing) : List (Thing × Thing) → List (Thing × Thing)
  | [] => [(key, value)]
  | (k, v) :: es =>
    if same? k key == some true then (k, value) :: es else (k, v) :: stored key value es

def binary (op : BinOp) (isStored : Bool) (x y : Thing) : Except ImportFault Thing :=
  match divisionText (x.isFloat || y.isFloat) op, x.isNumber && !x.isComplex, y.isZero with
  | some text, true, true => .error (.ofKind "ZeroDivisionError" text)
  | _, _, _ =>
    if x.isPlain && y.isPlain && !takes op x y then .error (refusal op (sign op isStored) x y)
    else .ok <| match op, x, y with
      | .add, .constant (.str s), .constant (.str t) => .text (s ++ t)
      | .add, .sequence k xs, .sequence l ys => if k = l then .sequence k (xs ++ ys) else .unknown
      | .mult, .sequence k xs, .constant (.int n) | .mult, .constant (.int n), .sequence k xs =>
        .sequence k (repeated xs n)
      | .bitOr, .dict xs, .dict ys => .dict (ys.foldl (fun es (k, v) => stored k v es) xs)
      | op, x, y => match op, x.integer?, y.integer? with
        | .add, some m, some n => ofInt (m + n)
        | .sub, some m, some n => ofInt (m - n)
        | .mult, some m, some n => ofInt (m * n)
        | .floorDiv, some m, some n => ofInt (m.fdiv n)
        | .mod, some m, some n => ofInt (m.fmod n)
        | .bitOr, none, _ | .bitOr, _, none =>
          if x.isType && y.isType then .alias (.foreign "types.UnionType") [x, y] else .unknown
        | _, _, _ => .unknown

def unary (op : UnaryOp) (x : Thing) : Except ImportFault Thing :=
  match op, x.integer? with
  | .minus, some n => .ok (ofInt (-n))
  | .plus, some n => .ok (ofInt n)
  | .invert, some n => .ok (ofInt (-n - 1))
  | .invert, none => if x.isPlain then refused else .ok .unknown
  | _, none => if x.isPlain && !x.isNumber then refused else .ok .unknown
  | _, _ => .ok .unknown
where
  refused : Except ImportFault Thing :=
    .error (.ofKind "TypeError"
      ("bad operand type for unary " ++ op.symbol ++ ": '" ++ x.kindName ++ "'"))

def identical? : Thing → Thing → Option Bool
  | .constant .null, .constant .null => some true
  | .constant .null, _ | _, .constant .null => some false
  | .shared a, .shared b => some (a == b)
  | .object a _, .object b _ => some (a == b)
  | x, y => same? x y

def anyOf (found : List (Option Bool)) : Option Bool :=
  if found.contains (some true) then some true
  else if found.all (· == some false) then some false
  else none

def among? (x : Thing) (items : List Thing) : Option Bool :=
  anyOf (items.map (same? x))

def isPart (s t : List Char) : Bool :=
  s.isPrefixOf t || match t with
    | [] => false
    | _ :: rest => isPart s rest

def within? (x : Thing) : Thing → Except ImportFault (Option Bool)
  | .sequence _ items => .ok (among? x items)
  | .dict entries => .ok (among? x (entries.map (·.1)))
  | .constant (.str t) => match x with
    | .constant (.str s) => .ok (some (isPart s.toList t.toList))
    | x =>
      if x.isPlain then
        .error (.ofKind "TypeError"
          ("'in <string>' requires string as left operand, not " ++ x.kindName))
      else .ok none
  | .constant (.bytes _) => .ok none
  | .constant c => notIterable (.constant c)
  | .function code => notIterable (.function code)
  | .module name => notIterable (.module name)
  | _ => .ok none
where
  notIterable (y : Thing) : Except ImportFault (Option Bool) :=
    .error (.ofKind "TypeError" ("argument of type '" ++ y.kindName ++ "' is not iterable"))

def areOrdered (x y : Thing) : Bool :=
  (x.isNumber && y.isNumber && !x.isComplex && !y.isComplex) || canFollow x y ||
    match x, y with
    | .sequence .set _, .sequence .set _ => true
    | _, _ => false

def ordered? (op : CmpOp) (x y : Thing) (f : Ordering → Bool) : Except ImportFault (Option Bool) :=
  if x.isPlain && y.isPlain && !areOrdered x y then
    .error (.ofKind "TypeError" ("'" ++ op.symbol ++ "' not supported between instances of '" ++
      x.kindName ++ "' and '" ++ y.kindName ++ "'"))
  else .ok ((compare? x y).map f)

def comparison? (op : CmpOp) (x y : Thing) : Except ImportFault (Option Bool) :=
  match op with
  | .eq => .ok (same? x y)
  | .notEq => .ok ((same? x y).map (!·))
  | .lt => ordered? op x y (· == .lt)
  | .ltE => ordered? op x y (· != .gt)
  | .gt => ordered? op x y (· == .gt)
  | .gtE => ordered? op x y (· != .lt)
  | .is => .ok (identical? x y)
  | .isNot => .ok ((identical? x y).map (!·))
  | .isIn => within? x y
  | .notIn => do return (← within? x y).map (!·)

/-- An item by its place, which counts from the end if it is negative. -/
def item? (items : List Thing) (place : Int) : Option Thing :=
  if 0 ≤ place then items[place.toNat]? else items.reverse[(-place - 1).toNat]?

/-- The place in a row that a bound stands for, where bounds beyond the ends stand for these. -/
def bound? (length missing : Nat) : Thing → Option Nat
  | .constant .null => some missing
  | x => x.integer?.map fun (n : Int) =>
    let k : Int := if 0 ≤ n then n else length + n
    min length k.toNat

def part? {α : Type} (items : List α) (lower upper step : Thing) : Option (List α) :=
  match bound? items.length 0 lower, bound? items.length items.length upper, step with
  | some k, some l, .constant .null | some k, some l, .constant (.int 1) =>
    some ((items.take l).drop k)
  | _, _, _ => none

def place? (length : Nat) (place : Int) : Option Nat :=
  let k := if 0 ≤ place then place else length + place
  if 0 ≤ k && k < length then some k.toNat else none

/-- What a table holds under a key; the outer level is missing if that is not known. -/
def found? (key : Thing) (entries : List (Thing × Thing)) : Option (Option Thing) :=
  match entries.find? fun (k, _) => same? k key == some true with
  | some (_, v) => some (some v)
  | none => if (among? key (entries.map (·.1))) == some false then some none else none

mutual

def descends (serial : Nat) : Thing → Bool
  | .cls own _ _ bases => own == serial || anyDescends serial bases
  | .alias origin _ => origin.descends serial
  | _ => false

def anyDescends (serial : Nat) : List Thing → Bool
  | [] => false
  | x :: xs => x.descends serial || anyDescends serial xs

end

mutual

def isInstance? (x : Thing) : Thing → Option Bool
  | .sequence _ classes => anyOf (areInstances x classes)
  | .builtin name => match x with
    | .failure kinds _ => if Standard.isException name then some (kinds.contains name) else none
    | .constant (.bool _) => some (["bool", "int", "object"].contains name)
    | .object _ kind => if kind.isSealed then some (name == "object") else none
    | .unknown | .foreign _ | .alias _ _ | .typeVariable => none
    | x => some (x.kindName == name || name == "object")
  | .cls serial name _ _ => match x with
    | .object _ kind =>
      if kind.descends serial then some true else if kind.isSealed then some false else none
    | .failure kinds _ => some (kinds.contains name)
    | x => if x.isPlain then some false else none
  | _ => none

def areInstances (x : Thing) : List Thing → List (Option Bool)
  | [] => []
  | y :: ys => isInstance? x y :: areInstances x ys

end

end StateWeave.Thing
