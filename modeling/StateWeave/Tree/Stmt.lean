import StateWeave.Tree.Expr

/-! Statements, patterns and modules, as version 3.11 of the language has them; the `type` statement
that came with 3.12 is left out. What a `def` or a `class` says before its body is a header of its own,
so that the body is the only part of it that holds statements. -/

namespace StateWeave

inductive Pattern
  | value (value : Expr)
  | singleton (value : Constant)
  | sequence (patterns : List Pattern)
  | mapping (keys : List Expr) (patterns : List Pattern) (rest : Option String)
  | classPattern (cls : Expr) (patterns : List Pattern) (names : List String)
      (named : List Pattern)
  | star (name : Option String)
  | capture (pattern : Option Pattern) (name : Option String)
  | alternatives (patterns : List Pattern)

instance : Inhabited Pattern := ⟨.star none⟩

structure FunctionHeader where
  isAsync : Bool
  name : String
  params : Params
  decorators : List Expr
  returns : Option Expr
  /-- Version 3.12 has these in headers; before, there are none. -/
  typeParams : List String

structure ClassHeader where
  name : String
  bases : List Expr
  keywords : List Keyword
  decorators : List Expr
  typeParams : List String

structure Alias where
  name : String
  asname : Option String
deriving DecidableEq, Repr, Inhabited

inductive ImportSource
  | plain
  | fromModule (module : Option String) (level : Option Int)
deriving DecidableEq, Repr, Inhabited

inductive ScopeKind
  | global | nonlocal
deriving DecidableEq, Repr, Inhabited

inductive JumpKind
  | pass | breakLoop | continueLoop
deriving DecidableEq, Repr, Inhabited

structure WithItem where
  context : Expr
  target : Option Expr

mutual

inductive Stmt
  | functionDef (header : FunctionHeader) (body : List Stmt)
  | classDef (header : ClassHeader) (body : List Stmt)
  | ret (value : Option Expr)
  | delete (targets : List Expr)
  | assign (targets : List Expr) (value : Expr)
  | augAssign (target : Expr) (op : BinOp) (value : Expr)
  | annAssign (target annot : Expr) (value : Option Expr) (simple : Option Int)
  | forLoop (isAsync : Bool) (target iter : Expr) (body orelse : List Stmt)
  | whileLoop (test : Expr) (body orelse : List Stmt)
  | ifStmt (test : Expr) (body orelse : List Stmt)
  | withStmt (isAsync : Bool) (items : List WithItem) (body : List Stmt)
  | matchStmt (subject : Expr) (cases : List MatchCase)
  | raise (exc cause : Option Expr)
  | tryStmt (isGroup : Bool) (body : List Stmt) (handlers : List Handler)
      (orelse finalbody : List Stmt)
  | assert (test : Expr) (msg : Option Expr)
  | imports (source : ImportSource) (names : List Alias)
  | scope (kind : ScopeKind) (names : List String)
  | expr (value : Expr)
  | jump (kind : JumpKind)

structure Handler where
  type : Option Expr
  name : Option String
  body : List Stmt

structure MatchCase where
  pattern : Pattern
  guard : Option Expr
  body : List Stmt

end

instance : Inhabited Stmt := ⟨.jump .pass⟩

abbrev Stmt.pass : Stmt := .jump .pass

/-- A module is its list of statements. -/
abbrev Block := List Stmt

namespace Stmt

/-- A text in first position, which documents the body it opens. -/
def isDocstring : Stmt → Nat → Bool
  | .expr (.constant (.str _)), 0 => true
  | _, _ => false

/-- `pass` and a bare `...` do nothing. -/
def isNoop : Stmt → Bool
  | .jump .pass => true
  | .expr (.constant .ellipsis) => true
  | _ => false

end Stmt

end StateWeave
