import StateWeave.Tree.Constant

/-! Expressions. A walrus binds a plain name and a comprehension has a first generator, so both
facts are part of the types. -/

namespace StateWeave

inductive SequenceKind
  | list | tuple
deriving DecidableEq, Repr, Inhabited

inductive ComprehensionKind
  | list | set | generator
deriving DecidableEq, Repr, Inhabited

mutual

inductive Expr
  | constant (value : Constant)
  | name (id : String) (ctx : Ctx)
  | attribute (value : Expr) (attr : String) (ctx : Ctx)
  | subscript (value index : Expr) (ctx : Ctx)
  | starred (value : Expr) (ctx : Ctx)
  | sequence (kind : SequenceKind) (elts : List Expr) (ctx : Ctx)
  | set (elts : List Expr)
  | dict (keys : List (Option Expr)) (values : List Expr)
  | boolOp (op : BoolOp) (values : List Expr)
  | binOp (left : Expr) (op : BinOp) (right : Expr)
  | unaryOp (op : UnaryOp) (operand : Expr)
  | compare (left : Expr) (ops : List CmpOp) (comparators : List Expr)
  | call (func : Expr) (args : List Expr) (keywords : List Keyword)
  | ifExp (test body orelse : Expr)
  | walrus (target : String) (value : Expr)
  | lambda (params : Params) (body : Expr)
  | comprehension (kind : ComprehensionKind) (element : Expr) (first : Generator)
      (rest : List Generator)
  | dictComprehension (key value : Expr) (first : Generator) (rest : List Generator)
  | await (value : Expr)
  | yield (value : Option Expr)
  | yieldFrom (value : Expr)
  | joinedStr (values : List Expr)
  | formatted (value : Expr) (conversion : Option Int) (spec : Option Expr)
  | slice (lower upper step : Option Expr)

/-- A call argument `arg=value`, or `**value` when unnamed. -/
structure Keyword where
  arg : Option String
  value : Expr

structure Arg where
  name : String
  annot : Option Expr

structure Params where
  posOnly : List Arg
  positional : List Arg
  vararg : Option Arg
  kwOnly : List Arg
  kwDefaults : List (Option Expr)
  kwarg : Option Arg
  defaults : List Expr

structure Generator where
  target : Expr
  iter : Expr
  ifs : List Expr
  /-- Marked by a number other than zero when the generator is asynchronous. -/
  asyncMark : Option Int

end

instance : Inhabited Expr := ⟨.constant .null⟩

namespace Params

def ofNames (names : List String) : Params where
  posOnly := []
  positional := names.map (⟨·, none⟩)
  vararg := none
  kwOnly := []
  kwDefaults := []
  kwarg := none
  defaults := []

def names (p : Params) : List String :=
  (p.posOnly ++ p.positional ++ p.kwOnly ++ p.vararg.toList ++ p.kwarg.toList).map (·.name)

end Params

namespace Expr

def path (head : String) (attrs : List String) : Expr :=
  attrs.foldl (fun e a => .attribute e a .load) (.name head .load)

def items : Expr → List Expr
  | .sequence .tuple elts _ => elts
  | index => [index]

/-- `never_reload` for `never_reload`, `sw.never_reload` and `pkg.mod.never_reload` alike. -/
def terminalName : Expr → Option String
  | .name id _ => some id
  | .attribute _ attr _ => some attr
  | _ => none

def callee : Expr → Expr
  | .call func _ _ => func
  | e => e

end Expr

end StateWeave
