import Mathlib.Tactic.SplitIfs
import StateWeave.Copy.Block
import StateWeave.Copy.ClassScope

/-! What runs in one scope: the expressions that a scope evaluates, part by part, and the statements
that run in it, those of nested blocks included. Rewriting the names of a class and filling empty
blocks are followed along these two lists. -/

namespace StateWeave

namespace Expr

mutual

/-- The parts of an expression that the scope it stands in evaluates, itself first. -/
def parts : Expr → List Expr
  | .constant value => [.constant value]
  | .name id ctx => [.name id ctx]
  | .attribute value attr ctx => .attribute value attr ctx :: value.parts
  | .subscript value index ctx => .subscript value index ctx :: (value.parts ++ index.parts)
  | .starred value ctx => .starred value ctx :: value.parts
  | .sequence kind elts ctx => .sequence kind elts ctx :: partsList elts
  | .set elts => .set elts :: partsList elts
  | .dict keys values => .dict keys values :: (partsOptions keys ++ partsList values)
  | .boolOp op values => .boolOp op values :: partsList values
  | .binOp left op right => .binOp left op right :: (left.parts ++ right.parts)
  | .unaryOp op operand => .unaryOp op operand :: operand.parts
  | .compare left ops comparators =>
    .compare left ops comparators :: (left.parts ++ partsList comparators)
  | .call func args keywords =>
    .call func args keywords :: (func.parts ++ partsList args ++ partsKeywords keywords)
  | .ifExp test body orelse => .ifExp test body orelse :: (test.parts ++ body.parts ++ orelse.parts)
  | .walrus target value => .walrus target value :: value.parts
  | .lambda params body => .lambda params body :: partsParams params
  | .comprehension kind element first rest =>
    .comprehension kind element first rest :: partsGenerator first
  | .dictComprehension key value first rest =>
    .dictComprehension key value first rest :: partsGenerator first
  | .await value => .await value :: value.parts
  | .yield value => .yield value :: partsOption value
  | .yieldFrom value => .yieldFrom value :: value.parts
  | .joinedStr values => .joinedStr values :: partsList values
  | .formatted value conversion spec =>
    .formatted value conversion spec :: (value.parts ++ partsOption spec)
  | .slice lower upper step =>
    .slice lower upper step :: (partsOption lower ++ partsOption upper ++ partsOption step)

def partsOption : Option Expr → List Expr
  | none => []
  | some e => e.parts

def partsList : List Expr → List Expr
  | [] => []
  | e :: es => e.parts ++ partsList es

def partsOptions : List (Option Expr) → List Expr
  | [] => []
  | e :: es => partsOption e ++ partsOptions es

def partsKeywords : List Keyword → List Expr
  | [] => []
  | k :: ks => partsKeyword k ++ partsKeywords ks

def partsKeyword : Keyword → List Expr
  | ⟨_, value⟩ => value.parts

/-- The defaults of a parameter list. -/
def partsParams : Params → List Expr
  | ⟨_, _, _, _, kwDefaults, _, defaults⟩ => partsList defaults ++ partsOptions kwDefaults

/-- The iterable of a comprehension's first generator. -/
def partsGenerator : Generator → List Expr
  | ⟨_, iter, _, _⟩ => iter.parts

end

/-- What holds of a name, and of an attribute of whatever it holds of, holds of a dotted path. -/
theorem path_induction {motive : Expr → Prop} {head : String} {attrs : List String}
    (hname : motive (.name head .load))
    (hattribute : ∀ e attr, motive e → motive (.attribute e attr .load)) :
    motive (path head attrs) :=
  List.foldlRecOn attrs _ hname fun e he attr _ => hattribute e attr he

end Expr

namespace Pattern

mutual

/-- The expressions that a pattern evaluates. -/
def evaluated : Pattern → List Expr
  | .value e => [e]
  | .singleton _ => []
  | .sequence patterns => evaluatedList patterns
  | .mapping keys patterns _ => keys ++ evaluatedList patterns
  | .classPattern cls patterns _ named => cls :: (evaluatedList patterns ++ evaluatedList named)
  | .star _ => []
  | .capture none _ => []
  | .capture (some pattern) _ => pattern.evaluated
  | .alternatives patterns => evaluatedList patterns

def evaluatedList : List Pattern → List Expr
  | [] => []
  | p :: ps => p.evaluated ++ evaluatedList ps

end

mutual

/-- The names that a pattern captures parts of the subject under. -/
def captures : Pattern → List String
  | .value _ => []
  | .singleton _ => []
  | .sequence patterns => capturesList patterns
  | .mapping _ patterns rest => capturesList patterns ++ rest.toList
  | .classPattern _ patterns _ named => capturesList patterns ++ capturesList named
  | .star name => name.toList
  | .capture none name => name.toList
  | .capture (some pattern) name => pattern.captures ++ name.toList
  | .alternatives patterns => capturesList patterns

def capturesList : List Pattern → List String
  | [] => []
  | p :: ps => p.captures ++ capturesList ps

end

end Pattern

namespace Params

/-- The defaults that are there. -/
def written (p : Params) : List Expr :=
  p.defaults ++ p.kwDefaults.flatMap (·.toList)

/-- The annotations of all parameters. -/
def annots (p : Params) : List Expr :=
  (p.posOnly ++ p.positional ++ p.vararg.toList ++ p.kwOnly ++ p.kwarg.toList).flatMap
    (·.annot.toList)

end Params

namespace FunctionHeader

/-- What of a function is evaluated where it is defined, less its annotations. -/
def evaluated (h : FunctionHeader) : List Expr :=
  h.decorators ++ h.params.written

def annots (h : FunctionHeader) : List Expr :=
  h.params.annots ++ h.returns.toList

end FunctionHeader

/-- What of a class is evaluated where it is defined. -/
def ClassHeader.evaluated (h : ClassHeader) : List Expr :=
  h.decorators ++ h.bases ++ h.keywords.map (·.value)

def WithItem.evaluated (item : WithItem) : List Expr :=
  item.context :: item.target.toList

namespace Stmt

/-- The expressions that a statement itself evaluates, less those of its blocks. -/
def evaluated : Stmt → List Expr
  | .functionDef h _ => h.evaluated ++ h.annots
  | .classDef h _ => h.evaluated
  | .ret value => value.toList
  | .delete targets => targets
  | .assign targets value => targets ++ [value]
  | .augAssign target _ value => [target, value]
  | .annAssign target annot value _ => target :: annot :: value.toList
  | .forLoop _ target iter _ _ => [target, iter]
  | .whileLoop test _ _ => [test]
  | .ifStmt test _ _ => [test]
  | .withStmt _ items _ => items.flatMap (·.evaluated)
  | .matchStmt subject cases =>
    subject :: cases.flatMap fun c => c.pattern.evaluated ++ c.guard.toList
  | .raise exc cause => exc.toList ++ cause.toList
  | .tryStmt _ _ handlers _ _ => handlers.flatMap (·.type.toList)
  | .assert test msg => test :: msg.toList
  | .imports _ _ => []
  | .scope _ _ => []
  | .expr value => [value]
  | .jump _ => []

mutual

/-- The statements that run in the scope of a statement: itself, and those of its blocks. -/
def parts : Stmt → List Stmt
  | .forLoop isAsync target iter body orelse =>
    .forLoop isAsync target iter body orelse :: (partsBlock body ++ partsBlock orelse)
  | .whileLoop test body orelse =>
    .whileLoop test body orelse :: (partsBlock body ++ partsBlock orelse)
  | .ifStmt test body orelse => .ifStmt test body orelse :: (partsBlock body ++ partsBlock orelse)
  | .withStmt isAsync items body => .withStmt isAsync items body :: partsBlock body
  | .matchStmt subject cases => .matchStmt subject cases :: partsCases cases
  | .tryStmt isGroup body handlers orelse finalbody =>
    .tryStmt isGroup body handlers orelse finalbody ::
      (partsBlock body ++ partsHandlers handlers ++ partsBlock orelse ++ partsBlock finalbody)
  | .functionDef h body => [.functionDef h body]
  | .classDef h body => [.classDef h body]
  | .ret value => [.ret value]
  | .delete targets => [.delete targets]
  | .assign targets value => [.assign targets value]
  | .augAssign target op value => [.augAssign target op value]
  | .annAssign target annot value simple => [.annAssign target annot value simple]
  | .raise exc cause => [.raise exc cause]
  | .assert test msg => [.assert test msg]
  | .imports source names => [.imports source names]
  | .scope kind names => [.scope kind names]
  | .expr value => [.expr value]
  | .jump kind => [.jump kind]

def partsBlock : List Stmt → List Stmt
  | [] => []
  | s :: ss => s.parts ++ partsBlock ss

def partsHandlers : List Handler → List Stmt
  | [] => []
  | h :: hs => partsHandler h ++ partsHandlers hs

def partsHandler : Handler → List Stmt
  | ⟨_, _, body⟩ => partsBlock body

def partsCases : List MatchCase → List Stmt
  | [] => []
  | c :: cs => partsCase c ++ partsCases cs

def partsCase : MatchCase → List Stmt
  | ⟨_, _, body⟩ => partsBlock body

end

theorem partsBlock_append (b d : Block) : partsBlock (b ++ d) = partsBlock b ++ partsBlock d := by
  induction b with
  | nil => rfl
  | cons s b ih => rw [List.cons_append, partsBlock, partsBlock, ih, List.append_assoc]

/-- A statement that opens no block has itself as its only part. -/
def IsSimple (s : Stmt) : Prop :=
  s.parts = [s]

theorem partsBlock_simple {b : Block} (h : ∀ s ∈ b, s.IsSimple) : partsBlock b = b := by
  induction b with
  | nil => rfl
  | cons s b ih =>
    obtain ⟨hs, hb⟩ := List.forall_mem_cons.1 h
    rw [partsBlock, hs, ih hb, List.singleton_append]

end Stmt

theorem filledBlock_eq_map (b : Block) : filledBlock b = b.map Stmt.filled := by
  induction b with
  | nil => rfl
  | cons s b ih => rw [filledBlock, ih, List.map_cons]

theorem filledHandlers_eq_map (hs : List Handler) : filledHandlers hs = hs.map filledHandler := by
  induction hs with
  | nil => rfl
  | cons h hs ih => rw [filledHandlers, ih, List.map_cons]

theorem filledCases_eq_map (cs : List MatchCase) : filledCases cs = cs.map filledCase := by
  induction cs with
  | nil => rfl
  | cons c cs ih => rw [filledCases, ih, List.map_cons]

theorem type_filledHandler (h : Handler) : (filledHandler h).type = h.type := by
  cases h
  rfl

theorem pattern_filledCase (c : MatchCase) : (filledCase c).pattern = c.pattern := by
  cases c
  rfl

theorem guard_filledCase (c : MatchCase) : (filledCase c).guard = c.guard := by
  cases c
  rfl

namespace Stmt

/-- Filling the blocks of a statement leaves alone what it evaluates itself. -/
theorem evaluated_filled (s : Stmt) : s.filled.evaluated = s.evaluated := by
  cases s with
  | matchStmt subject cases =>
    rw [filled, evaluated, evaluated, filledCases_eq_map, List.flatMap_map]
    simp only [pattern_filledCase, guard_filledCase]
  | tryStmt isGroup body handlers orelse finalbody =>
    rw [filled, evaluated, evaluated, filledHandlers_eq_map, List.flatMap_map]
    simp only [type_filledHandler]
  | _ => rfl

/-- What is looked for in each statement by itself, and not in its blocks. -/
structure LooksAtNoBlock {α : Type} (own : Stmt → List α) : Prop where
  filled : ∀ s, own s.filled = own s
  pass : own .pass = []

section Filled

variable {α : Type} {own : Stmt → List α}

theorem flatMap_partsBlock_orPass (hown : LooksAtNoBlock own) (b : Block) :
    (partsBlock (orPass b)).flatMap own = (partsBlock b).flatMap own := by
  cases b with
  | nil => simpa [orPass, partsBlock, parts] using hown.pass
  | cons s b => rfl

mutual

/-- What is found in statements by looking at each by itself is found in filled ones too. -/
theorem flatMap_parts_filled (hown : LooksAtNoBlock own) : ∀ s : Stmt, s.filled.parts.flatMap own = s.parts.flatMap own
  | .forLoop isAsync target iter body orelse => by
    have hs := hown.filled (.forLoop isAsync target iter body orelse)
    rw [filled] at hs ⊢
    rw [parts, parts, List.flatMap_cons, List.flatMap_cons, hs, List.flatMap_append,
      List.flatMap_append, flatMap_partsBlock_orPass hown, flatMap_partsBlock_filled hown body,
      flatMap_partsBlock_filled hown orelse]
  | .whileLoop test body orelse => by
    have hs := hown.filled (.whileLoop test body orelse)
    rw [filled] at hs ⊢
    rw [parts, parts, List.flatMap_cons, List.flatMap_cons, hs, List.flatMap_append,
      List.flatMap_append, flatMap_partsBlock_orPass hown, flatMap_partsBlock_filled hown body,
      flatMap_partsBlock_filled hown orelse]
  | .ifStmt test body orelse => by
    have hs := hown.filled (.ifStmt test body orelse)
    rw [filled] at hs ⊢
    rw [parts, parts, List.flatMap_cons, List.flatMap_cons, hs, List.flatMap_append,
      List.flatMap_append, flatMap_partsBlock_orPass hown, flatMap_partsBlock_filled hown body,
      flatMap_partsBlock_filled hown orelse]
  | .withStmt isAsync items body => by
    have hs := hown.filled (.withStmt isAsync items body)
    rw [filled] at hs ⊢
    rw [parts, parts, List.flatMap_cons, List.flatMap_cons, hs, flatMap_partsBlock_orPass hown,
      flatMap_partsBlock_filled hown body]
  | .matchStmt subject cases => by
    have hs := hown.filled (.matchStmt subject cases)
    rw [filled] at hs ⊢
    rw [parts, parts, List.flatMap_cons, List.flatMap_cons, hs, flatMap_partsCases_filled hown cases]
  | .tryStmt isGroup body handlers orelse finalbody => by
    have hs := hown.filled (.tryStmt isGroup body handlers orelse finalbody)
    have hfinal : ∀ p : Prop, [Decidable p] →
        (partsBlock (if p then orPass (filledBlock finalbody) else filledBlock finalbody)).flatMap
          own = (partsBlock finalbody).flatMap own := by
      intro p _
      split_ifs
      · rw [flatMap_partsBlock_orPass hown, flatMap_partsBlock_filled hown finalbody]
      · exact flatMap_partsBlock_filled hown finalbody
    rw [filled] at hs ⊢
    rw [parts, parts, List.flatMap_cons, List.flatMap_cons, hs]
    simp only [List.flatMap_append]
    rw [flatMap_partsBlock_orPass hown, flatMap_partsBlock_filled hown body,
      flatMap_partsHandlers_filled hown handlers, flatMap_partsBlock_filled hown orelse, hfinal]
  | .functionDef h body => by
    have hs := hown.filled (.functionDef h body)
    rw [filled] at hs ⊢
    rw [parts, parts, List.flatMap_singleton, List.flatMap_singleton, hs]
  | .classDef h body => by
    have hs := hown.filled (.classDef h body)
    rw [filled] at hs ⊢
    rw [parts, parts, List.flatMap_singleton, List.flatMap_singleton, hs]
  | .ret _ | .delete _ | .assign _ _ | .augAssign _ _ _ | .annAssign _ _ _ _ | .raise _ _
  | .assert _ _ | .imports _ _ | .scope _ _ | .expr _ | .jump _ => rfl

theorem flatMap_partsBlock_filled (hown : LooksAtNoBlock own) :
    ∀ b : List Stmt, (partsBlock (filledBlock b)).flatMap own = (partsBlock b).flatMap own
  | [] => rfl
  | s :: ss => by
    rw [filledBlock, partsBlock, partsBlock, List.flatMap_append, List.flatMap_append,
      flatMap_parts_filled hown s, flatMap_partsBlock_filled hown ss]

theorem flatMap_partsHandlers_filled (hown : LooksAtNoBlock own) : ∀ hs : List Handler,
    (partsHandlers (filledHandlers hs)).flatMap own = (partsHandlers hs).flatMap own
  | [] => rfl
  | h :: hs => by
    rw [filledHandlers, partsHandlers, partsHandlers, List.flatMap_append, List.flatMap_append,
      flatMap_partsHandler_filled hown h, flatMap_partsHandlers_filled hown hs]

theorem flatMap_partsHandler_filled (hown : LooksAtNoBlock own) : ∀ h : Handler,
    (partsHandler (filledHandler h)).flatMap own = (partsHandler h).flatMap own
  | ⟨_, _, body⟩ => by
    rw [filledHandler, partsHandler, partsHandler, flatMap_partsBlock_orPass hown,
      flatMap_partsBlock_filled hown body]

theorem flatMap_partsCases_filled (hown : LooksAtNoBlock own) : ∀ cs : List MatchCase,
    (partsCases (filledCases cs)).flatMap own = (partsCases cs).flatMap own
  | [] => rfl
  | c :: cs => by
    rw [filledCases, partsCases, partsCases, List.flatMap_append, List.flatMap_append,
      flatMap_partsCase_filled hown c, flatMap_partsCases_filled hown cs]

theorem flatMap_partsCase_filled (hown : LooksAtNoBlock own) : ∀ c : MatchCase,
    (partsCase (filledCase c)).flatMap own = (partsCase c).flatMap own
  | ⟨_, _, body⟩ => by
    rw [filledCase, partsCase, partsCase, flatMap_partsBlock_orPass hown,
      flatMap_partsBlock_filled hown body]

end

end Filled

end Stmt

namespace ClassScope

variable (s : ClassScope)

theorem rewriteExprs_eq_map (es : List Expr) : s.rewriteExprs es = es.map s.rewriteExpr := by
  induction es with
  | nil => rfl
  | cons e es ih => rw [rewriteExprs, ih, List.map_cons]

theorem rewriteOptions_eq_map (es : List (Option Expr)) :
    s.rewriteOptions es = es.map s.rewriteOption := by
  induction es with
  | nil => rfl
  | cons e es ih => rw [rewriteOptions, ih, List.map_cons]

theorem rewriteKeywords_eq_map (ks : List Keyword) :
    s.rewriteKeywords ks = ks.map s.rewriteKeyword := by
  induction ks with
  | nil => rfl
  | cons k ks ih => rw [rewriteKeywords, ih, List.map_cons]

theorem rewriteHandlers_eq_map (hs : List Handler) :
    s.rewriteHandlers hs = hs.map s.rewriteHandler := by
  induction hs with
  | nil => rfl
  | cons h hs ih => rw [rewriteHandlers, ih, List.map_cons]

theorem rewriteCases_eq_map (cs : List MatchCase) : s.rewriteCases cs = cs.map s.rewriteCase := by
  induction cs with
  | nil => rfl
  | cons c cs ih => rw [rewriteCases, ih, List.map_cons]

theorem rewriteBlock_eq_flatMap (b : Block) : s.rewriteBlock b = b.flatMap s.rewriteStmt := by
  induction b with
  | nil => rfl
  | cons x b ih => rw [rewriteBlock, ih, List.flatMap_cons]

theorem toList_rewriteOption (e : Option Expr) :
    (s.rewriteOption e).toList = e.toList.map s.rewriteExpr := by
  cases e <;> rfl

/-! What a rewritten statement evaluates is what the statement evaluates, rewritten. -/

mutual

theorem evaluated_rewritePattern :
    ∀ p : Pattern, (s.rewritePattern p).evaluated = p.evaluated.map s.rewriteExpr
  | .value e => rfl
  | .singleton _ => rfl
  | .sequence patterns => evaluated_rewritePatterns patterns
  | .mapping keys patterns _ => by
    rw [rewritePattern, Pattern.evaluated, Pattern.evaluated, List.map_append,
      rewriteExprs_eq_map, evaluated_rewritePatterns patterns]
  | .classPattern cls patterns _ named => by
    rw [rewritePattern, Pattern.evaluated, Pattern.evaluated, List.map_cons, List.map_append,
      evaluated_rewritePatterns patterns, evaluated_rewritePatterns named]
  | .star _ => rfl
  | .capture none _ => rfl
  | .capture (some pattern) _ => evaluated_rewritePattern pattern
  | .alternatives patterns => evaluated_rewritePatterns patterns

theorem evaluated_rewritePatterns : ∀ ps : List Pattern,
    Pattern.evaluatedList (s.rewritePatterns ps) = (Pattern.evaluatedList ps).map s.rewriteExpr
  | [] => rfl
  | p :: ps => by
    rw [rewritePatterns, Pattern.evaluatedList, Pattern.evaluatedList, List.map_append,
      evaluated_rewritePattern p, evaluated_rewritePatterns ps]

end

theorem written_rewriteParams (p : Params) :
    (s.rewriteParams p).written = p.written.map s.rewriteExpr := by
  obtain ⟨posOnly, positional, vararg, kwOnly, kwDefaults, kwarg, defaults⟩ := p
  simp only [rewriteParams, Params.written, rewriteExprs_eq_map, rewriteOptions_eq_map,
    List.map_append, List.flatMap_map, List.map_flatMap, toList_rewriteOption]

theorem evaluated_rewriteFunction (h : FunctionHeader) :
    (s.rewriteFunction h).evaluated = h.evaluated.map s.rewriteExpr := by
  simp only [rewriteFunction, FunctionHeader.evaluated, List.map_append, rewriteExprs_eq_map,
    written_rewriteParams]

theorem annots_rewriteFunction (h : FunctionHeader) : (s.rewriteFunction h).annots = h.annots := by
  obtain ⟨isAsync, name, params, decorators, returns, typeParams⟩ := h
  obtain ⟨posOnly, positional, vararg, kwOnly, kwDefaults, kwarg, defaults⟩ := params
  rfl

theorem value_rewriteKeyword (k : Keyword) :
    (s.rewriteKeyword k).value = s.rewriteExpr k.value := by
  cases k
  rfl

theorem evaluated_rewriteClass (h : ClassHeader) :
    (s.rewriteClass h).evaluated = h.evaluated.map s.rewriteExpr := by
  simp only [rewriteClass, ClassHeader.evaluated, List.map_append, rewriteExprs_eq_map,
    rewriteKeywords_eq_map, List.map_map, Function.comp_def, value_rewriteKeyword]

theorem evaluated_rewriteWithItem (item : WithItem) :
    (s.rewriteWithItem item).evaluated = item.evaluated.map s.rewriteExpr := by
  simp only [rewriteWithItem, WithItem.evaluated, List.map_cons, toList_rewriteOption]

theorem type_rewriteHandler (h : Handler) :
    (s.rewriteHandler h).type.toList = h.type.toList.map s.rewriteExpr := by
  obtain ⟨type, name, body⟩ := h
  exact s.toList_rewriteOption type

theorem evaluated_rewriteCase (c : MatchCase) :
    (s.rewriteCase c).pattern.evaluated ++ (s.rewriteCase c).guard.toList =
      (c.pattern.evaluated ++ c.guard.toList).map s.rewriteExpr := by
  obtain ⟨pattern, guard, body⟩ := c
  rw [rewriteCase, List.map_append, evaluated_rewritePattern, toList_rewriteOption]

end ClassScope

end StateWeave
