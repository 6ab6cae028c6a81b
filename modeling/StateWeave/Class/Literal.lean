import StateWeave.Tree.Expr

/-! Literals as far as the order of a callback needs them. Only a whole number is an order, but
displays are read too: the first element that cannot be read ends the reading, and a sum of a whole
number and an imaginary one goes through floats, which end below the largest whole numbers. -/

namespace StateWeave

inductive LiteralFault
  /-- No literal, or a display with a key that cannot be one. -/
  | unreadable
  /-- A whole number in a sum that has no nearest float. -/
  | outOfRange
deriving DecidableEq, Repr, Inhabited

/-- What is known of a literal: numbers by their kind, all else by whether it can be a key. -/
inductive Literal
  | whole (n : Int)
  | float
  | complex
  | other (isKey : Bool)
deriving DecidableEq, Repr, Inhabited

abbrev Reading := Except LiteralFault Literal

namespace Literal

def isKey : Literal → Bool
  | .other isKey => isKey
  | _ => true

def ofConstant : Constant → Literal
  | .int n => .whole n
  | .float _ => .float
  | .complex _ _ => .complex
  | _ => .other true

def number? : Expr → Option Literal
  | .constant (.int n) => some (.whole n)
  | .constant (.float _) => some .float
  | .constant (.complex _ _) => some .complex
  | _ => none

def negated : Literal → Literal
  | .whole n => .whole (-n)
  | x => x

def signed? : Expr → Option Literal
  | .unaryOp .plus e => number? e
  | .unaryOp .minus e => (number? e).map negated
  | e => number? e

/-- Whole numbers of this size and above round to no float. -/
def floatBound : Nat := Nat.pow 2 1024 - Nat.pow 2 970

/-- A real part and an imaginary one; nothing else is added up. -/
def sum : Literal → Literal → Reading
  | .whole n, .complex => if floatBound ≤ n.natAbs then .error .outOfRange else .ok .complex
  | .float, .complex => .ok .complex
  | _, _ => .error .unreadable

def readSum (left right : Expr) : Reading :=
  match signed? left, number? right with
  | some x, some y => sum x y
  | _, _ => .error .unreadable

def readNumber (e : Expr) : Reading :=
  match signed? e with
  | some x => .ok x
  | none => .error .unreadable

/-- A tuple can be a key when all its elements can. -/
def tuple : List Reading → Reading
  | [] => .ok (.other true)
  | r :: rs => do
    let x ← r
    let rest ← tuple rs
    return .other (x.isKey && rest.isKey)

def list (rs : List Reading) : Reading := do
  let _ ← tuple rs
  return .other false

/-- Each element becomes a key before the next one is read. -/
def set : List Reading → Reading
  | [] => .ok (.other false)
  | r :: rs => do
    let x ← r
    if x.isKey then set rs else .error .unreadable

def dict : List Reading → List Reading → Reading
  | [], [] => .ok (.other false)
  | k :: ks, v :: vs => do
    let key ← k
    let _ ← v
    if key.isKey then dict ks vs else .error .unreadable
  | _, _ => .error .unreadable

mutual

def read : Expr → Reading
  | .constant value => .ok (ofConstant value)
  | .sequence .tuple elts _ => tuple (readEach elts)
  | .sequence .list elts _ => list (readEach elts)
  | .set elts => set (readEach elts)
  | .dict keys values =>
    if keys.length = values.length then dict (readKeys keys) (readEach values)
    else .error .unreadable
  | .call (.name "set" _) [] [] => .ok (.other false)
  | .binOp left .add right => readSum left right
  | .binOp left .sub right => readSum left right
  | e => readNumber e

def readEach : List Expr → List Reading
  | [] => []
  | e :: es => read e :: readEach es

def readKeys : List (Option Expr) → List Reading
  | [] => []
  | k :: ks => readKey k :: readKeys ks

def readKey : Option Expr → Reading
  | none => .error .unreadable
  | some e => read e

end

def isOutOfRange (e : Expr) : Bool :=
  match read e with
  | .error .outOfRange => true
  | _ => false

end Literal

end StateWeave
