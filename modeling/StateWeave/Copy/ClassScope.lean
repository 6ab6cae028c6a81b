import StateWeave.Class.Binding
import StateWeave.Class.Inventory

/-! Statements of a class body, rewritten to run in a function of that class. Names of the class
scope are reached through the owning class. A plain store becomes a call that binds the value the
way class creation does. Stores to retained names are dropped, or sent to a throwaway name when
they are part of a larger target. Nested scopes never saw the class scope and stay as they are. -/

namespace StateWeave

structure ClassScope where
  className : String
  scopeNames : List String
  /-- Names whose storage keeps its value. -/
  retained : List String
  /-- The expression for the owning class. -/
  owner : Expr
  runtimeAlias : String

namespace ClassScope

def discardName : String := "_typereload_discard"

def inScope (s : ClassScope) (name : String) : Bool :=
  s.scopeNames.contains name

def retains (s : ClassScope) (name : String) : Bool :=
  s.retained.contains name

/-- The attribute of the owner that stands for a name of the class scope. -/
def member (s : ClassScope) (name : String) (ctx : Ctx) : Expr :=
  .attribute s.owner name ctx

/-- The call that binds `value` to a name of the class and evaluates to it. -/
def storeStatic (s : ClassScope) (name : String) (value : Expr) : Expr :=
  .call (.attribute (.name s.runtimeAlias .load) "store_static" .load)
    [s.owner, .constant (.str (mangle s.className name)), value] []

def rewriteName (s : ClassScope) (name : String) (ctx : Ctx) : Expr :=
  if !s.inScope name then .name name ctx
  else if ctx = .store && s.retains name then .name discardName .store
  else s.member name ctx

/-- A walrus on a name of the class becomes a store that evaluates to the value. -/
def rewriteWalrus (s : ClassScope) (target : String) (value : Expr) : Expr :=
  if !s.inScope target then .walrus target value
  else if s.retains target then .walrus discardName value
  else s.storeStatic target value

/-- Stores to the class every class-scope name that a nested statement bound locally. -/
def rebind (s : ClassScope) (names : List String) : Block :=
  (names.filter fun name => s.inScope name && !s.retains name).map fun name =>
    .assign [s.member name .store] (.name name .load)

mutual

def rewriteExpr (s : ClassScope) : Expr → Expr
  | .constant value => .constant value
  | .name id ctx => s.rewriteName id ctx
  | .attribute value attr ctx => .attribute (s.rewriteExpr value) attr ctx
  | .subscript value index ctx => .subscript (s.rewriteExpr value) (s.rewriteExpr index) ctx
  | .starred value ctx => .starred (s.rewriteExpr value) ctx
  | .sequence kind elts ctx => .sequence kind (s.rewriteExprs elts) ctx
  | .set elts => .set (s.rewriteExprs elts)
  | .dict keys values => .dict (s.rewriteOptions keys) (s.rewriteExprs values)
  | .boolOp op values => .boolOp op (s.rewriteExprs values)
  | .binOp left op right => .binOp (s.rewriteExpr left) op (s.rewriteExpr right)
  | .unaryOp op operand => .unaryOp op (s.rewriteExpr operand)
  | .compare left ops comparators =>
    .compare (s.rewriteExpr left) ops (s.rewriteExprs comparators)
  | .call func args keywords =>
    .call (s.rewriteExpr func) (s.rewriteExprs args) (s.rewriteKeywords keywords)
  | .ifExp test body orelse =>
    .ifExp (s.rewriteExpr test) (s.rewriteExpr body) (s.rewriteExpr orelse)
  | .walrus target value => s.rewriteWalrus target (s.rewriteExpr value)
  | .lambda params body => .lambda (s.rewriteParams params) body
  | .comprehension kind element first rest =>
    .comprehension kind element (s.rewriteGenerator first) rest
  | .dictComprehension key value first rest =>
    .dictComprehension key value (s.rewriteGenerator first) rest
  | .await value => .await (s.rewriteExpr value)
  | .yield value => .yield (s.rewriteOption value)
  | .yieldFrom value => .yieldFrom (s.rewriteExpr value)
  | .joinedStr values => .joinedStr (s.rewriteExprs values)
  | .formatted value conversion spec =>
    .formatted (s.rewriteExpr value) conversion (s.rewriteOption spec)
  | .slice lower upper step =>
    .slice (s.rewriteOption lower) (s.rewriteOption upper) (s.rewriteOption step)

def rewriteOption (s : ClassScope) : Option Expr → Option Expr
  | none => none
  | some e => some (s.rewriteExpr e)

def rewriteExprs (s : ClassScope) : List Expr → List Expr
  | [] => []
  | e :: es => s.rewriteExpr e :: s.rewriteExprs es

def rewriteOptions (s : ClassScope) : List (Option Expr) → List (Option Expr)
  | [] => []
  | e :: es => s.rewriteOption e :: s.rewriteOptions es

def rewriteKeywords (s : ClassScope) : List Keyword → List Keyword
  | [] => []
  | k :: ks => s.rewriteKeyword k :: s.rewriteKeywords ks

def rewriteKeyword (s : ClassScope) : Keyword → Keyword
  | ⟨arg, value⟩ => ⟨arg, s.rewriteExpr value⟩

/-- Only defaults are evaluated in the enclosing scope. -/
def rewriteParams (s : ClassScope) : Params → Params
  | ⟨posOnly, positional, vararg, kwOnly, kwDefaults, kwarg, defaults⟩ =>
    ⟨posOnly, positional, vararg, kwOnly, s.rewriteOptions kwDefaults, kwarg,
      s.rewriteExprs defaults⟩

/-- Of a first generator, only the iterable is evaluated in the enclosing scope. -/
def rewriteGenerator (s : ClassScope) : Generator → Generator
  | ⟨target, iter, ifs, asyncMark⟩ => ⟨target, s.rewriteExpr iter, ifs, asyncMark⟩

end

mutual

def rewritePattern (s : ClassScope) : Pattern → Pattern
  | .value e => .value (s.rewriteExpr e)
  | .singleton c => .singleton c
  | .sequence patterns => .sequence (s.rewritePatterns patterns)
  | .mapping keys patterns rest => .mapping (s.rewriteExprs keys) (s.rewritePatterns patterns) rest
  | .classPattern cls patterns names named =>
    .classPattern (s.rewriteExpr cls) (s.rewritePatterns patterns) names (s.rewritePatterns named)
  | .star name => .star name
  | .capture none name => .capture none name
  | .capture (some pattern) name => .capture (some (s.rewritePattern pattern)) name
  | .alternatives patterns => .alternatives (s.rewritePatterns patterns)

def rewritePatterns (s : ClassScope) : List Pattern → List Pattern
  | [] => []
  | p :: ps => s.rewritePattern p :: s.rewritePatterns ps

end

def rewriteWithItem (s : ClassScope) (item : WithItem) : WithItem :=
  ⟨s.rewriteExpr item.context, s.rewriteOption item.target⟩

/-- What a store of an already rewritten value to `target` becomes; `general` is what it becomes
when the target is no name of the class. -/
def rewriteStore (s : ClassScope) (target value : Expr) (general : Stmt) : Block :=
  match target with
  | .name id _ =>
    if !s.inScope id then [general]
    else if s.retains id then []
    else [.expr (s.storeStatic id value)]
  | _ => [general]

def rewriteAssign (s : ClassScope) (targets : List Expr) (value : Expr) : Block :=
  let general := Stmt.assign (s.rewriteExprs targets) (s.rewriteExpr value)
  match targets with
  | [target] => s.rewriteStore target (s.rewriteExpr value) general
  | _ => [general]

/-- An annotation without a value stores nothing. -/
def rewriteAnnAssign (s : ClassScope) (target : Expr) : Option Expr → Block
  | none => []
  | some value =>
    s.rewriteStore target (s.rewriteExpr value)
      (.assign [s.rewriteExpr target] (s.rewriteExpr value))

def isRetainedName (s : ClassScope) : Expr → Bool
  | .name id _ => s.retains id
  | _ => false

def rewriteAugAssign (s : ClassScope) (target : Expr) (op : BinOp) (value : Expr) : Block :=
  if s.isRetainedName target then []
  else [.augAssign (s.rewriteExpr target) op (s.rewriteExpr value)]

/-- Deletions of retained names are dropped. -/
def keptTargets (s : ClassScope) (targets : List Expr) : List Expr :=
  targets.filter (!s.isRetainedName ·)

def rewriteDelete (s : ClassScope) (targets : List Expr) : Block :=
  match s.keptTargets targets with
  | [] => []
  | kept => [.delete (s.rewriteExprs kept)]

/-- Annotations and the body of a function are no part of the class scope. -/
def rewriteFunction (s : ClassScope) (h : FunctionHeader) : FunctionHeader :=
  { h with decorators := s.rewriteExprs h.decorators, params := s.rewriteParams h.params }

def rewriteClass (s : ClassScope) (h : ClassHeader) : ClassHeader :=
  { h with
    decorators := s.rewriteExprs h.decorators
    bases := s.rewriteExprs h.bases
    keywords := s.rewriteKeywords h.keywords }

mutual

/-- What a statement becomes: nothing, one statement or several. -/
def rewriteStmt (s : ClassScope) : Stmt → Block
  | .functionDef h body => .functionDef (s.rewriteFunction h) body :: s.rebind [h.name]
  | .classDef h body => .classDef (s.rewriteClass h) body :: s.rebind [h.name]
  | .ret value => [.ret (s.rewriteOption value)]
  | .delete targets => s.rewriteDelete targets
  | .assign targets value => s.rewriteAssign targets value
  | .augAssign target op value => s.rewriteAugAssign target op value
  | .annAssign target _ value _ => s.rewriteAnnAssign target value
  | .forLoop isAsync target iter body orelse =>
    [.forLoop isAsync (s.rewriteExpr target) (s.rewriteExpr iter) (s.rewriteBlock body)
      (s.rewriteBlock orelse)]
  | .whileLoop test body orelse =>
    [.whileLoop (s.rewriteExpr test) (s.rewriteBlock body) (s.rewriteBlock orelse)]
  | .ifStmt test body orelse =>
    [.ifStmt (s.rewriteExpr test) (s.rewriteBlock body) (s.rewriteBlock orelse)]
  | .withStmt isAsync items body =>
    [.withStmt isAsync (items.map s.rewriteWithItem) (s.rewriteBlock body)]
  | .matchStmt subject cases => [.matchStmt (s.rewriteExpr subject) (s.rewriteCases cases)]
  | .raise exc cause => [.raise (s.rewriteOption exc) (s.rewriteOption cause)]
  | .tryStmt isGroup body handlers orelse finalbody =>
    [.tryStmt isGroup (s.rewriteBlock body) (s.rewriteHandlers handlers) (s.rewriteBlock orelse)
      (s.rewriteBlock finalbody)]
  | .assert test msg => [.assert (s.rewriteExpr test) (s.rewriteOption msg)]
  | .imports source names => .imports source names :: s.rebind (names.filterMap Binding.ofAlias)
  | .scope kind names => [.scope kind names]
  | .expr value => [.expr (s.rewriteExpr value)]
  | .jump kind => [.jump kind]

def rewriteBlock (s : ClassScope) : List Stmt → Block
  | [] => []
  | x :: xs => s.rewriteStmt x ++ s.rewriteBlock xs

def rewriteHandlers (s : ClassScope) : List Handler → List Handler
  | [] => []
  | h :: hs => s.rewriteHandler h :: s.rewriteHandlers hs

def rewriteHandler (s : ClassScope) : Handler → Handler
  | ⟨type, name, body⟩ => ⟨s.rewriteOption type, name, s.rewriteBlock body⟩

def rewriteCases (s : ClassScope) : List MatchCase → List MatchCase
  | [] => []
  | c :: cs => s.rewriteCase c :: s.rewriteCases cs

def rewriteCase (s : ClassScope) : MatchCase → MatchCase
  | ⟨pattern, guard, body⟩ => ⟨s.rewritePattern pattern, s.rewriteOption guard, s.rewriteBlock body⟩

end

end ClassScope

end StateWeave
