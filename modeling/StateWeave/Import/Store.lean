import StateWeave.Import.Session

/-! What changes while modules run: what lists, sets and dictionaries hold, and what is stored in
classes and objects. Each has a number that no other has. -/

namespace StateWeave

/-- A thing as it is now: what can change in it is replaced by what it holds, down to this depth. -/
def Thing.viewWithin (shared : Table Nat Thing) : Nat → Thing → Thing
  | 0, x => x
  | n + 1, .shared serial => ((shared.get? serial).map (viewWithin shared n)).getD .unknown
  | n + 1, .sequence kind items => .sequence kind (items.map (viewWithin shared n))
  | n + 1, .dict entries =>
    .dict (entries.map fun (k, v) => (viewWithin shared n k, viewWithin shared n v))
  | _ + 1, x => x

namespace Imports

def newSerial : Importing Nat := do
  let serial := (← get).rest.made
  change ({ · with made := serial + 1 })
  return serial

def share (x : Thing) : Importing Thing := do
  let serial ← newSerial
  change fun i => { i with shared := i.shared.insert serial x }
  return .shared serial

/-- A result as it is handed on: what can change gets a number. -/
def settle (x : Thing) : Importing Thing :=
  match x with
  | .sequence .list _ | .sequence .set _ | .dict _ => share x
  | x => return x

def update (serial : Nat) (x : Thing) : Importing Unit :=
  change fun i => { i with shared := i.shared.insert serial x }

/-- What a list, a set or a dictionary holds; any other thing is itself. -/
def contents (x : Thing) : Importing Thing := do
  match x with
  | .shared serial => return ((← get).rest.shared.get? serial).getD .unknown
  | .foreign "sys.version_info" => return .tuple Thing.version
  | x => return x

def viewDepth : Nat := 20

def view (x : Thing) : Importing Thing := do
  return (← contents x).viewWithin (← get).rest.shared viewDepth

def notIterable (x : Thing) : ImportFault :=
  .ofKind "TypeError" ("'" ++ x.kindName ++ "' object is not iterable")

def itemsOf (x : Thing) : Importing (List Thing) := do
  let x ← contents x
  match x.items? with
  | some items => return items
  | none => throw (notIterable x)

def makeClass (name : String) (names : List (String × Thing)) (bases : List Thing) :
    Importing Thing := do
  return .cls (← newSerial) name names bases

def setField (serial : Nat) (name : String) (x : Option Thing) : Importing Unit :=
  change fun i => { i with fields := i.fields.insert (serial, name) x }

def classMember? (cls : Thing) (name : String) : Importing (Option Thing) := do
  return cls.classMember? (← get).rest.fields name

end Imports

end StateWeave
