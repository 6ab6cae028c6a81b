import StateWeave.Text.Decimal

/-! Values of the running program, and when two of them are equal as type arguments. -/

namespace StateWeave

inductive VariableKind
  | type | parameters | types
deriving DecidableEq, Repr, Inhabited

structure TypeVariable where
  name : String
  kind : VariableKind := .type
deriving DecidableEq, Repr, Inhabited

inductive Ref
  | cls (id : Nat)
  | object (id : Nat)
  | property (id : Nat)
  | event (id : Nat)
  | handler (id : Nat)
  | initializer (id : Nat)
  | variable (v : TypeVariable)
  | neverReload
  | orchestrator (id : Nat)
  | reference (id : Nat)
  | token (id : Nat)
  /-- The place where the instances of a class keep the value of one name. -/
  | slot (cls : Nat) (name : String)
  | member (name : String)
  /-- The table of an object. -/
  | table (object : Nat)
  | annotations (cls : Nat)
  /-- An object of the language that is made anew whenever somebody asks for it. -/
  | passing (id : Nat)
deriving DecidableEq, Repr, Inhabited

inductive Subscription
  /-- Makes a class per arguments for `origin`, set up by an initializer. -/
  | reify (origin initializer : Nat)
  | generic
  /-- Any arguments give an alias. -/
  | alias
deriving DecidableEq, Repr, Inhabited

inductive Value
  | null
  | bool (b : Bool)
  | int (n : Int)
  | float (text : String)
  | text (s : String)
  | list (id : Nat)
  | tuple (items : List Value)
  | listOf (item : Value) (typeVars : List Value)
  | ref (r : Ref)
  | subscription (s : Subscription)
  /-- A handler that is called with the object it was found on. -/
  | bound (receiver : Value) (handler : Nat)
deriving Repr

instance : Inhabited Value := ⟨.null⟩

inductive Numeric
  | whole (n : Int)
  | other (text : String)
deriving DecidableEq, Repr

namespace Numeric

/-- Equality of numbers; what is not a number at all equals nothing. -/
def same (a b : Numeric) : Bool :=
  a == b && a != .other "nan"

end Numeric

namespace Value

def ofClass (c : Nat) : Value :=
  .ref (.cls c)

def numeric? : Value → Option Numeric
  | .bool b => some (.whole (if b then 1 else 0))
  | .int n => some (.whole n)
  | .float s => some ((Decimal.integer? s).elim (.other s) .whole)
  | _ => none

mutual

/-- Equality as arguments: numbers by value, tuples by items, objects by identity. -/
def same : Value → Value → Bool
  | .null, .null => true
  | .text s, .text t => s == t
  | .list i, .list j => i == j
  | .tuple xs, .tuple ys => sameAll xs ys
  | .listOf x _, .listOf y _ => same x y
  | .ref r, .ref s => r == s
  | .subscription s, .subscription t => s == t
  | .bound x i, .bound y j => i == j && same x y
  | x, y => match x.numeric?, y.numeric? with
    | some m, some n => m.same n
    | _, _ => false

def sameAll : List Value → List Value → Bool
  | [], [] => true
  | x :: xs, y :: ys => same x y && sameAll xs ys
  | _, _ => false

end

instance : BEq Value := ⟨same⟩

end Value

end StateWeave
