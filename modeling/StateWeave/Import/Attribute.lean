import StateWeave.Import.Member

/-! Attributes of things. -/

namespace StateWeave.Imports

variable (r : Interpreter)

def noAttribute (owner attr : String) : ImportFault :=
  .ofKind "AttributeError" (owner ++ " has no attribute '" ++ attr ++ "'")

def classAttribute (cls : Thing) (attr : String) : Importing Thing := do
  match ← classMember? cls attr with
  | some (.staticMethod f) => return f
  | some (.classMethod f) => return .bound cls f
  | some x => return x
  | none =>
    if !cls.isSealed || isDunder attr || Standard.classMembers.contains attr then return .unknown
    match cls with
    | .cls _ name _ _ => throw (noAttribute ("type object '" ++ Cut.octets 50 name ++ "'") attr)
    | _ => throw (.refused "AttributeError")

/-- An attribute of an object. Whatever the code that set it up may have left to others is not
known. -/
def objectAttribute (serial : Nat) (cls : Thing) (attr : String) : Importing Thing := do
  let x := Thing.object serial cls
  match (← get).rest.fields.get? (serial, attr), ← classMember? cls attr with
  | _, some (.property f) => match f with
    | .function code => r.call code [x] []
    | _ => return .unknown
  | some (some y), _ => return y
  | _, some (.staticMethod f) => return f
  | _, some (.classMethod f) => return .bound cls f
  | _, some (.function code) => return .bound x (.function code)
  | _, some y => return y
  | _, none => return .unknown

def attributeOf (x : Thing) (attr : String) : Importing Thing := do
  match x with
  | .module m => member r m attr
  | .foreign path => return Thing.ofForeign (path ++ "." ++ attr)
  | .globals _ | .property _ => return .method x attr
  | .shared _ =>
    let kind := (← contents x).kindName
    if isDunder attr || Standard.hasMember kind attr then return .method x attr
    else throw (noAttribute ("'" ++ kind ++ "' object") attr)
  | .cls _ _ _ _ | .alias _ _ => classAttribute x attr
  | .object serial cls => objectAttribute r serial cls attr
  | .constant _ | .sequence _ _ =>
    if isDunder attr || Standard.hasMember x.kindName attr then return .method x attr
    else throw (noAttribute ("'" ++ x.kindName ++ "' object") attr)
  | .function _ =>
    if attr = "TypeInitializer" || attr = "generated" then
      throw (noAttribute ("'" ++ x.kindName ++ "' object") attr)
    else return .unknown
  | _ => return .unknown

def attribute? (x : Thing) (attr : String) : Importing (Option Thing) := do
  try some <$> attributeOf r x attr
  catch e => if e.kinds.contains "AttributeError" then pure none else throw e

def setAttribute (x : Thing) (attr : String) (y : Thing) : Importing Unit := do
  match x with
  | .module m => setName m attr y
  | .cls serial _ _ _ | .alias (.cls serial _ _ _) _ => setField serial attr (some y)
  | .object serial cls => match ← classMember? cls attr with
    | some (.property _) => return
    | _ => setField serial attr (some y)
  | _ => return

def removeAttribute (x : Thing) (attr : String) : Importing Unit := do
  match x with
  | .module m =>
    if !(← moduleAt m).names.contains attr then throw (noAttribute "'module' object" attr)
    unsetName m attr
  | .cls serial name names _ =>
    if x.isSealed && (← classMember? (.cls serial name names []) attr).isNone then
      throw (noAttribute ("type object '" ++ Cut.octets 50 name ++ "'") attr)
    setField serial attr none
  | .object serial _ => setField serial attr none
  | _ => return

/-- Whether a thing counts as true. An object may say so itself. -/
def holds (x : Thing) : Importing Bool := do
  match ← contents x with
  | .object serial kind =>
    let x := Thing.object serial kind
    match ← classMember? kind "__bool__", ← classMember? kind "__len__" with
    | some (.function code), _ | none, some (.function code) =>
      return (← r.call code [x] []).isTruthy
    | _, _ => return true
  | x => return x.isTruthy

end StateWeave.Imports
