import StateWeave.Weave

/-! Running class bodies and units on plain values. Operators are pure, names that no class or
function binds are looked up in the module, and the state of a class is what each of its attributes
holds. A class body stores to a namespace of its own, a unit to the attributes of the class. -/

namespace StateWeave

/-- What each attribute holds, if anything. -/
abbrev Attributes (V : Type) := String → Option V

namespace Attributes

variable {V : Type}

def set (as : Attributes V) (a : String) (v : V) : Attributes V :=
  fun b => if b = a then some v else as b

@[simp] theorem set_self (as : Attributes V) (a : String) (v : V) : as.set a v a = some v := by
  simp [set]

theorem set_of_ne (as : Attributes V) {a b : String} (v : V) (h : b ≠ a) : as.set a v b = as b := by
  simp [set, h]

end Attributes

/-- What constants and operators mean. -/
structure Meaning (V : Type) where
  constant : Constant → V
  unary : UnaryOp → V → V
  binary : BinOp → V → V → V
  display : SequenceKind → List V → V

namespace Meaning

variable {V : Type}

mutual

/-- The value of an expression, given how names are looked up and the members of values. Only
constants, names, members, operators and displays have one. -/
def eval (M : Meaning V) (read : String → Option V) (member : V → String → Option V) :
    Expr → Option V
  | .constant value => some (M.constant value)
  | .name id .load => read id
  | .attribute value attr .load => (M.eval read member value).bind (member · attr)
  | .unaryOp op operand => (M.eval read member operand).map (M.unary op)
  | .binOp left op right =>
    (M.eval read member left).bind fun v => (M.eval read member right).map (M.binary op v)
  | .sequence kind elts .load => (M.evalList read member elts).map (M.display kind)
  | _ => none

def evalList (M : Meaning V) (read : String → Option V) (member : V → String → Option V) :
    List Expr → Option (List V)
  | [] => some []
  | e :: es =>
    (M.eval read member e).bind fun v => (M.evalList read member es).map (v :: ·)

end

end Meaning

namespace Expr

/-- The names that an expression binds in the scope that evaluates it. -/
def binds (e : Expr) : List String :=
  (e.occurrences.filter (·.ctx != .load)).map (·.name)

def bindsList (es : List Expr) : List String :=
  es.flatMap binds

def bindsOption (e : Option Expr) : List String :=
  e.toList.flatMap binds

def bindsArgs (as : List Arg) : List String :=
  as.flatMap fun a => bindsOption a.annot

end Expr

open StateWeave.Expr (bindsList bindsOption bindsArgs)

/-- Defaults and annotations are evaluated beside the function. -/
def FunctionHeader.binds (h : FunctionHeader) : List String :=
  h.name :: (bindsList h.decorators ++ bindsList h.params.defaults
    ++ h.params.kwDefaults.flatMap bindsOption
    ++ bindsArgs (h.params.posOnly ++ h.params.positional ++ h.params.kwOnly
      ++ h.params.vararg.toList ++ h.params.kwarg.toList)
    ++ bindsOption h.returns)

def ClassHeader.binds (h : ClassHeader) : List String :=
  h.name :: (bindsList h.decorators ++ bindsList h.bases
    ++ h.keywords.flatMap fun k => k.value.binds)

namespace Pattern

mutual

/-- Captures are bound, beside what the values in a pattern bind. -/
def binds : Pattern → List String
  | .value e => e.binds
  | .singleton _ => []
  | .sequence patterns => bindsList patterns
  | .mapping keys patterns rest => Expr.bindsList keys ++ bindsList patterns ++ rest.toList
  | .classPattern cls patterns _ named => cls.binds ++ bindsList patterns ++ bindsList named
  | .star name => name.toList
  | .capture none name => name.toList
  | .capture (some pattern) name => pattern.binds ++ name.toList
  | .alternatives patterns => bindsList patterns

def bindsList : List Pattern → List String
  | [] => []
  | p :: ps => p.binds ++ bindsList ps

end

end Pattern

/-- `x = e` or `x: T = e`. -/
structure Assignment where
  name : String
  annot : Option Expr
  value : Expr

namespace Stmt

/-- Reads a statement as the assignment of one name that is not reserved. -/
def assignment? : Stmt → Option Assignment
  | .assign [.name id .store] value => if isDunder id then none else some ⟨id, none, value⟩
  | .annAssign (.name id .store) annot (some value) _ =>
    if isDunder id then none else some ⟨id, some annot, value⟩
  | _ => none

mutual

/-- Every name that a statement can bind in the scope it runs in, declared names included. -/
def binds : Stmt → List String
  | .functionDef h _ => h.binds
  | .classDef h _ => h.binds
  | .ret value => bindsOption value
  | .delete targets => bindsList targets
  | .assign targets value => bindsList targets ++ value.binds
  | .augAssign target _ value => target.binds ++ value.binds
  | .annAssign (.name _ _) annot none _ => annot.binds
  | .annAssign target annot value _ => target.binds ++ annot.binds ++ bindsOption value
  | .forLoop _ target iter body orelse =>
    target.binds ++ iter.binds ++ bindsBlock body ++ bindsBlock orelse
  | .whileLoop test body orelse => test.binds ++ bindsBlock body ++ bindsBlock orelse
  | .ifStmt test body orelse => test.binds ++ bindsBlock body ++ bindsBlock orelse
  | .withStmt _ items body =>
    (items.flatMap fun item => item.context.binds ++ bindsOption item.target) ++ bindsBlock body
  | .matchStmt subject cases => subject.binds ++ bindsCases cases
  | .raise exc cause => bindsOption exc ++ bindsOption cause
  | .tryStmt _ body handlers orelse finalbody =>
    bindsBlock body ++ bindsHandlers handlers ++ bindsBlock orelse ++ bindsBlock finalbody
  | .assert test msg => test.binds ++ bindsOption msg
  | .imports _ names => names.filterMap Binding.ofAlias
  | .scope _ names => names
  | .expr value => value.binds
  | .jump _ => []

def bindsBlock : List Stmt → List String
  | [] => []
  | s :: ss => s.binds ++ bindsBlock ss

def bindsHandlers : List Handler → List String
  | [] => []
  | h :: hs => bindsHandler h ++ bindsHandlers hs

def bindsHandler : Handler → List String
  | ⟨type, name, body⟩ => bindsOption type ++ name.toList ++ bindsBlock body

def bindsCases : List MatchCase → List String
  | [] => []
  | c :: cs => bindsCase c ++ bindsCases cs

def bindsCase : MatchCase → List String
  | ⟨pattern, guard, body⟩ => pattern.binds ++ bindsOption guard ++ bindsBlock body

end

end Stmt

/-- What code of a class meets while it runs: the class, the runtime, the names of the module, the
members of all other values, and the functions among the values. -/
structure Surroundings (V : Type) extends Meaning V where
  cls : V
  runtime : V
  globals : Attributes V
  members : V → Attributes V
  code : V → Option (FunctionHeader × Block)

namespace Surroundings

variable {V : Type} (W : Surroundings V) (cls : String)

/-- A name read in the body of the class called `cls`: one of the body, or else of the module. -/
def readBody (ns : Attributes V) (name : String) : Option V :=
  (ns (mangle cls name)).or (W.globals (mangle cls name))

/-- Runs of a class body, from one namespace to another. Assignments store their value; of all other
statements no more is known than which names they can bind. -/
inductive BodyRun : Block → Attributes V → Attributes V → Prop
  | nil {ns : Attributes V} : BodyRun [] ns ns
  | assign {s : Stmt} {x : Assignment} {v : V} {b : Block} {ns ns₁ ns' : Attributes V}
    (hs : s.assignment? = some x)
    (hv : W.eval (W.readBody cls ns) (fun u a => W.members u (mangle cls a)) x.value = some v)
    (hannot : ∀ a, a ∉ (bindsOption x.annot).map (mangle cls) →
      ns₁ a = ns.set (mangle cls x.name) v a)
    (hb : BodyRun b ns₁ ns') : BodyRun (s :: b) ns ns'
  | other {s : Stmt} {b : Block} {ns ns₁ ns' : Attributes V} (hs : s.assignment? = none)
    (hother : ∀ a, a ∉ s.binds.map (mangle cls) → ns₁ a = ns a)
    (hb : BodyRun b ns₁ ns') : BodyRun (s :: b) ns ns'

/-- A name read in a function of the class, of which `params` are bound to the class. -/
def readUnit (params : List String) (name : String) : Option V :=
  if name ∈ params ∨ name = "__class__" then some W.cls else W.globals (mangle cls name)

variable [DecidableEq V]

def member (st : Attributes V) (v : V) (attr : String) : Option V :=
  if v = W.cls then st (mangle cls attr) else W.members v (mangle cls attr)

/-- The value of an expression in a function of the class, whose state is `st`. -/
def evalUnit (params : List String) (st : Attributes V) (e : Expr) : Option V :=
  W.eval (W.readUnit cls params) (W.member cls st) e

/-- Stores to the class; stores to anything else are not looked into. -/
def storeTo (target : Option V) (st : Attributes V) (attr : String) (v : V) :
    Option (Attributes V) :=
  if target = some W.cls then some (st.set attr v) else none

/-- Runs a statement of a unit: an attribute store, a call without arguments, or the function of the
runtime that stores to classes. -/
def execStmt (invoke : V → Attributes V → Option (Attributes V)) (params : List String)
    (st : Attributes V) : Stmt → Option (Attributes V)
  | .jump .pass => some st
  | .assign [.attribute target attr .store] value =>
    (W.evalUnit cls params st value).bind fun v =>
      W.storeTo (W.evalUnit cls params st target) st (mangle cls attr) v
  | .expr (.call (.attribute receiver attr .load) [] []) =>
    (W.evalUnit cls params st receiver).bind fun v =>
      (W.member cls st v attr).bind fun f => invoke f st
  | .expr (.call (.attribute receiver "store_static" .load)
      [target, .constant (.str attr), value] []) =>
    if W.evalUnit cls params st receiver = some W.runtime then
      (W.evalUnit cls params st value).bind fun v =>
        W.storeTo (W.evalUnit cls params st target) st attr v
    else none
  | _ => none

def execBlock (invoke : V → Attributes V → Option (Attributes V)) (params : List String) :
    Block → Attributes V → Option (Attributes V)
  | [], st => some st
  | s :: ss, st => (W.execStmt cls invoke params st s).bind (execBlock invoke params ss)

/-- The parameters of a function that are bound to the class when it is called through it. -/
def classParams (h : FunctionHeader) : List String :=
  match h.kind with
  | .cls => h.params.names.take 1
  | _ => []

/-- Calls a function of the class, with calls at most `depth` deep. -/
def invoke : Nat → V → Attributes V → Option (Attributes V)
  | 0, _, _ => none
  | depth + 1, f, st =>
    (W.code f).bind fun p => W.execBlock cls (invoke depth) (classParams p.1) p.2 st

end Surroundings

end StateWeave
