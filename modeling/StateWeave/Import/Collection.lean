import StateWeave.Import.Operator
import StateWeave.Import.Store

/-! Lists, sets and dictionaries: what they hold, and their methods. -/

namespace StateWeave.Imports

def noKey (key : Thing) : ImportFault :=
  .ofKind "KeyError" key.shown

def noIndex (text : String) : ImportFault :=
  .ofKind "IndexError" (text ++ " index out of range")

def found (entries : List (Thing × Thing)) (key : Thing) : Importing Thing := do
  let key ← view key
  match Thing.found? key entries with
  | some (some x) => return x
  | some none => throw (noKey key)
  | none => return .unknown

def callList (serial : Nat) (items : List Thing) (method : String) (args : List Thing) :
    Importing Thing := do
  let put (items : List Thing) : Importing Thing := do
    update serial (.list items)
    return .null
  match method, args with
  | "append", [x] => put (items ++ [x])
  | "extend", [x] => put (items ++ (← itemsOf x))
  | "insert", [.constant (.int place), x] =>
    let k := if 0 ≤ place then place.toNat else (items.length + place).toNat
    put (items.take k ++ x :: items.drop k)
  | "clear", [] => put []
  | "reverse", [] => put items.reverse
  | "copy", [] => share (.list items)
  | "pop", [] => match items.getLast? with
    | none => throw (.ofKind "IndexError" "pop from empty list")
    | some x =>
      discard (put items.dropLast)
      return x
  | "pop", [.constant (.int place)] => match Thing.place? items.length place with
    | none => throw (noIndex "pop")
    | some k =>
      discard (put (items.eraseIdx k))
      return items.getD k .unknown
  | "remove", [x] =>
    let x ← view x
    match items.findIdx? (Thing.same? x · == some true), Thing.among? x items with
    | some k, _ => put (items.eraseIdx k)
    | none, some false => throw (.ofKind "ValueError" "list.remove(x): x not in list")
    | none, _ => return .null
  | _, _ => return .unknown

def callSet (serial : Nat) (items : List Thing) (method : String) (args : List Thing) :
    Importing Thing := do
  let put (items : List Thing) : Importing Thing := do
    update serial (.sequence .set items)
    return .null
  let without (x : Thing) : List Thing := items.filter fun y => !(Thing.same? x y == some true)
  let adding (items : List Thing) (x : Thing) : List Thing :=
    if Thing.among? x items == some true then items else items ++ [x]
  match method, args with
  | "add", [x] => put (adding items x)
  | "update", [x] => put ((← itemsOf x).foldl adding items)
  | "discard", [x] => put (without x)
  | "remove", [x] =>
    if Thing.among? x items == some false then throw (noKey (← view x)) else put (without x)
  | "clear", [] => put []
  | "copy", [] => share (.sequence .set items)
  | _, _ => return .unknown

def callDict (serial : Nat) (entries : List (Thing × Thing)) (method : String)
    (args : List Thing) (kwargs : List (String × Thing)) : Importing Thing := do
  let put (entries : List (Thing × Thing)) : Importing Thing := do
    update serial (.dict entries)
    return .null
  let storing (more : List (Thing × Thing)) : List (Thing × Thing) :=
    more.foldl (fun es (k, v) => Thing.stored k v es) entries
  let without (key : Thing) : List (Thing × Thing) :=
    entries.filter fun (k, _) => !(Thing.same? k key == some true)
  let named := kwargs.map fun (name, x) => (Thing.text name, x)
  match method, args with
  | "get", key :: rest => match Thing.found? (← view key) entries with
    | some x => return x.getD (rest.headD .null)
    | none => return .unknown
  | "setdefault", key :: rest => match Thing.found? (← view key) entries with
    | some none =>
      let x := rest.headD .null
      discard (put (storing [(key, x)]))
      return x
    | some (some x) => return x
    | none => return .unknown
  | "update", [x] => match ← contents x with
    | .dict more => put (storing (more ++ named))
    | _ => put (storing named)
  | "update", [] => put (storing named)
  | "pop", key :: rest =>
    let key ← view key
    match Thing.found? key entries, rest with
    | some (some x), _ =>
      discard (put (without key))
      return x
    | some none, x :: _ => return x
    | some none, [] => throw (noKey key)
    | none, _ => return .unknown
  | "clear", [] => put []
  | "copy", [] => share (.dict entries)
  | "keys", [] => return .tuple (entries.map (·.1))
  | "values", [] => return .tuple (entries.map (·.2))
  | "items", [] => return .tuple (entries.map fun (k, v) => .tuple [k, v])
  | _, _ => return .unknown

def callShared (serial : Nat) (method : String) (args : List Thing)
    (kwargs : List (String × Thing)) : Importing Thing := do
  match ← contents (.shared serial) with
  | .sequence .list items => callList serial items method args
  | .sequence .set items => callSet serial items method args
  | .dict entries => callDict serial entries method args kwargs
  | _ => return .unknown

def storeItem (serial : Nat) (index x : Thing) : Importing Unit := do
  match ← contents (.shared serial), ← view index with
  | .sequence .list items, .constant (.int place) => match Thing.place? items.length place with
    | some k => update serial (.list (items.set k x))
    | none => throw (noIndex "list assignment")
  | .dict entries, key => update serial (.dict (Thing.stored key x entries))
  | _, _ => return

def removeItem (serial : Nat) (index : Thing) : Importing Unit := do
  match ← contents (.shared serial), ← view index with
  | .sequence .list items, .constant (.int place) => match Thing.place? items.length place with
    | some k => update serial (.list (items.eraseIdx k))
    | none => throw (noIndex "list assignment")
  | .dict entries, key =>
    discard (found entries key)
    update serial (.dict (entries.filter fun (k, _) => !(Thing.same? k key == some true)))
  | _, _ => return

end StateWeave.Imports
