import StateWeave.Proofs.CopyLegal

/-! Scopes nested in the statements of a class: bodies of functions and classes, bodies of lambdas,
and all of a comprehension but its first iterable. They are listed in the order in which a visitor
comes to them. Copying the statements leaves each as it is, and only those are lost that stand in
annotations of variables or in assignments to names that keep their values. -/

namespace StateWeave

/-- A part of the code that runs in a scope of its own. -/
inductive NestedPart
  | body (body : Block)
  | expr (e : Expr)

namespace NestedPart

def exprs (es : List Expr) : List NestedPart :=
  es.map .expr

/-- Filling reaches the statements of a nested part. -/
def filled : NestedPart → NestedPart
  | .body b => .body (orPass (filledBlock b))
  | .expr e => .expr e

theorem filled_exprs (es : List Expr) : (exprs es).map filled = exprs es := by
  unfold exprs
  rw [List.map_map]
  rfl

end NestedPart

namespace Expr

/-- Of a generator after the first, everything is nested. -/
def nestedGenerator (g : Generator) : List Expr :=
  g.target :: g.iter :: g.ifs

mutual

/-- The nested parts of an expression, less those within other nested parts. -/
def nested : Expr → List Expr
  | .constant _ => []
  | .name _ _ => []
  | .attribute value _ _ => value.nested
  | .subscript value index _ => value.nested ++ index.nested
  | .starred value _ => value.nested
  | .sequence _ elts _ => nestedList elts
  | .set elts => nestedList elts
  | .dict keys values => nestedOptions keys ++ nestedList values
  | .boolOp _ values => nestedList values
  | .binOp left _ right => left.nested ++ right.nested
  | .unaryOp _ operand => operand.nested
  | .compare left _ comparators => left.nested ++ nestedList comparators
  | .call func args keywords => func.nested ++ nestedList args ++ nestedKeywords keywords
  | .ifExp test body orelse => test.nested ++ body.nested ++ orelse.nested
  | .walrus _ value => value.nested
  | .lambda params body => nestedParams params ++ [body]
  | .comprehension _ element first rest =>
    element :: (nestedFirst first ++ rest.flatMap nestedGenerator)
  | .dictComprehension key value first rest =>
    key :: value :: (nestedFirst first ++ rest.flatMap nestedGenerator)
  | .await value => value.nested
  | .yield value => nestedOption value
  | .yieldFrom value => value.nested
  | .joinedStr values => nestedList values
  | .formatted value _ spec => value.nested ++ nestedOption spec
  | .slice lower upper step => nestedOption lower ++ nestedOption upper ++ nestedOption step

def nestedOption : Option Expr → List Expr
  | none => []
  | some e => e.nested

def nestedList : List Expr → List Expr
  | [] => []
  | e :: es => e.nested ++ nestedList es

def nestedOptions : List (Option Expr) → List Expr
  | [] => []
  | e :: es => nestedOption e ++ nestedOptions es

def nestedKeywords : List Keyword → List Expr
  | [] => []
  | k :: ks => nestedKeyword k ++ nestedKeywords ks

def nestedKeyword : Keyword → List Expr
  | ⟨_, value⟩ => value.nested

def nestedArgs : List Arg → List Expr
  | [] => []
  | a :: as => nestedArg a ++ nestedArgs as

def nestedArgOption : Option Arg → List Expr
  | none => []
  | some a => nestedArg a

def nestedArg : Arg → List Expr
  | ⟨_, annot⟩ => nestedOption annot

/-- Annotations and defaults are no part of the function. -/
def nestedParams : Params → List Expr
  | ⟨posOnly, positional, vararg, kwOnly, kwDefaults, kwarg, defaults⟩ =>
    nestedArgs posOnly ++ nestedArgs positional ++ nestedArgOption vararg ++ nestedArgs kwOnly ++
      nestedOptions kwDefaults ++ nestedArgOption kwarg ++ nestedList defaults

/-- Of the first generator, all but the iterable. -/
def nestedFirst : Generator → List Expr
  | ⟨target, iter, ifs, _⟩ => target :: (iter.nested ++ ifs)

end

theorem nested_path (head : String) (attrs : List String) : (path head attrs).nested = [] :=
  path_induction (motive := fun e => e.nested = []) rfl fun _ _ he => he

end Expr

/-- What of a scope is looked into for nested parts. -/
structure Survey where
  /-- Annotations of variables, and targets that have nothing but one. -/
  annots : Bool
  /-- Names; assignments to one of them alone are passed over. -/
  skipped : List String

namespace Survey

/-- Nothing is passed over, -/
def whole : Survey := ⟨true, []⟩

/-- or only annotations are. -/
def unannotated : Survey := ⟨false, []⟩

def skips (v : Survey) : Expr → Bool
  | .name id _ => v.skipped.contains id
  | _ => false

def skipsAll (v : Survey) : List Expr → Bool
  | [target] => v.skips target
  | _ => false

end Survey

namespace Stmt

open StateWeave.Expr
open StateWeave.NestedPart (exprs filled_exprs)

mutual

/-- The nested parts of a statement and of the blocks that run in the same scope. -/
def nested (v : Survey) : Stmt → List NestedPart
  | .functionDef h body =>
    exprs (nestedParams h.params) ++
      .body body :: exprs (nestedList h.decorators ++ nestedOption h.returns)
  | .classDef h body =>
    exprs (nestedList h.bases ++ nestedKeywords h.keywords) ++
      .body body :: exprs (nestedList h.decorators)
  | .ret value => exprs (nestedOption value)
  | .delete targets => exprs (nestedList targets)
  | .assign targets value =>
    exprs (if v.skipsAll targets then [] else nestedList targets ++ value.nested)
  | .augAssign target _ value =>
    exprs (if v.skips target then [] else target.nested ++ value.nested)
  | .annAssign target annot none _ =>
    exprs (if v.annots then target.nested ++ annot.nested else [])
  | .annAssign target annot (some value) _ =>
    exprs (if v.skips target then [] else
      target.nested ++ (if v.annots then annot.nested else []) ++ value.nested)
  | .forLoop _ target iter body orelse =>
    exprs (target.nested ++ iter.nested) ++ nestedBlock v body ++ nestedBlock v orelse
  | .whileLoop test body orelse => exprs test.nested ++ nestedBlock v body ++ nestedBlock v orelse
  | .ifStmt test body orelse => exprs test.nested ++ nestedBlock v body ++ nestedBlock v orelse
  | .withStmt _ items body => exprs (nestedList (items.flatMap (·.evaluated))) ++ nestedBlock v body
  | .matchStmt subject cases => exprs subject.nested ++ nestedCases v cases
  | .raise exc cause => exprs (nestedOption exc ++ nestedOption cause)
  | .tryStmt _ body handlers orelse finalbody =>
    nestedBlock v body ++ nestedHandlers v handlers ++ nestedBlock v orelse ++
      nestedBlock v finalbody
  | .assert test msg => exprs (test.nested ++ nestedOption msg)
  | .imports _ _ => []
  | .scope _ _ => []
  | .expr value => exprs value.nested
  | .jump _ => []

def nestedBlock (v : Survey) : List Stmt → List NestedPart
  | [] => []
  | s :: ss => s.nested v ++ nestedBlock v ss

def nestedHandlers (v : Survey) : List Handler → List NestedPart
  | [] => []
  | h :: hs => nestedHandler v h ++ nestedHandlers v hs

def nestedHandler (v : Survey) : Handler → List NestedPart
  | ⟨type, _, body⟩ => exprs (nestedOption type) ++ nestedBlock v body

def nestedCases (v : Survey) : List MatchCase → List NestedPart
  | [] => []
  | c :: cs => nestedCase v c ++ nestedCases v cs

def nestedCase (v : Survey) : MatchCase → List NestedPart
  | ⟨pattern, guard, body⟩ =>
    exprs (nestedList pattern.evaluated ++ nestedOption guard) ++ nestedBlock v body

end

theorem nestedBlock_append (v : Survey) (b d : Block) :
    nestedBlock v (b ++ d) = nestedBlock v b ++ nestedBlock v d := by
  induction b with
  | nil => rfl
  | cons x b ih => rw [List.cons_append, nestedBlock, nestedBlock, ih, List.append_assoc]

theorem nestedBlock_orPass (v : Survey) (b : Block) :
    nestedBlock v (orPass b) = nestedBlock v b := by
  cases b with
  | nil => exact List.append_nil _
  | cons x b => rfl

theorem nested_whole_assign (targets : List Expr) (value : Expr) :
    nested .whole (.assign targets value) = exprs (nestedList targets ++ value.nested) := by
  rcases targets with - | ⟨target, - | ⟨next, rest⟩⟩
  · rfl
  · cases target <;> rfl
  · rfl

theorem nested_whole_augAssign (target : Expr) (op : BinOp) (value : Expr) :
    nested .whole (.augAssign target op value) = exprs (target.nested ++ value.nested) := by
  cases target <;> rfl

theorem nested_whole_annAssign (target annot value : Expr) (simple : Option Int) :
    nested .whole (.annAssign target annot (some value) simple) =
      exprs (target.nested ++ annot.nested ++ value.nested) := by
  cases target <;> rfl

section Passed

variable {v : Survey}

mutual

/-- What is found when some of the scope is passed over is found, in the same order, among all. -/
theorem nested_sublist : ∀ x : Stmt, List.Sublist (x.nested v) (x.nested .whole)
  | .assign targets value => by
    rw [nested_whole_assign, nested]
    split_ifs
    · exact List.nil_sublist _
    · exact List.Sublist.refl _
  | .augAssign target op value => by
    rw [nested_whole_augAssign, nested]
    split_ifs
    · exact List.nil_sublist _
    · exact List.Sublist.refl _
  | .annAssign target annot none simple => by
    rw [nested]
    split_ifs
    · exact List.Sublist.refl _
    · exact List.nil_sublist _
  | .annAssign target annot (some value) simple => by
    rw [nested_whole_annAssign, nested]
    split_ifs
    · exact List.nil_sublist _
    · exact List.Sublist.refl _
    · exact (((List.Sublist.refl _).append (List.nil_sublist _)).append
        (List.Sublist.refl _)).map _
  | .forLoop _ _ _ body orelse | .whileLoop _ body orelse | .ifStmt _ body orelse =>
    ((List.Sublist.refl _).append (nestedBlock_sublist body)).append (nestedBlock_sublist orelse)
  | .withStmt _ _ body => (List.Sublist.refl _).append (nestedBlock_sublist body)
  | .matchStmt _ cases => (List.Sublist.refl _).append (nestedCases_sublist cases)
  | .tryStmt _ body handlers orelse finalbody =>
    (((nestedBlock_sublist body).append (nestedHandlers_sublist handlers)).append
      (nestedBlock_sublist orelse)).append (nestedBlock_sublist finalbody)
  | .functionDef _ _ | .classDef _ _ | .ret _ | .delete _ | .raise _ _ | .assert _ _
  | .imports _ _ | .scope _ _ | .expr _ | .jump _ => List.Sublist.refl _

theorem nestedBlock_sublist :
    ∀ b : List Stmt, List.Sublist (nestedBlock v b) (nestedBlock .whole b)
  | [] => List.Sublist.refl _
  | x :: xs => (nested_sublist x).append (nestedBlock_sublist xs)

theorem nestedHandlers_sublist :
    ∀ hs : List Handler, List.Sublist (nestedHandlers v hs) (nestedHandlers .whole hs)
  | [] => List.Sublist.refl _
  | h :: hs => (nestedHandler_sublist h).append (nestedHandlers_sublist hs)

theorem nestedHandler_sublist :
    ∀ h : Handler, List.Sublist (nestedHandler v h) (nestedHandler .whole h)
  | ⟨_, _, body⟩ => (List.Sublist.refl _).append (nestedBlock_sublist body)

theorem nestedCases_sublist :
    ∀ cs : List MatchCase, List.Sublist (nestedCases v cs) (nestedCases .whole cs)
  | [] => List.Sublist.refl _
  | c :: cs => (nestedCase_sublist c).append (nestedCases_sublist cs)

theorem nestedCase_sublist :
    ∀ c : MatchCase, List.Sublist (nestedCase v c) (nestedCase .whole c)
  | ⟨_, _, body⟩ => (List.Sublist.refl _).append (nestedBlock_sublist body)

end

end Passed

section Filled

variable {v : Survey}

mutual

/-- Filling goes on in what is nested. -/
theorem nested_filled : ∀ x : Stmt, x.filled.nested v = (x.nested v).map NestedPart.filled
  | .functionDef h body => by
    rw [filled, nested, nested, List.map_append, List.map_cons, filled_exprs, filled_exprs]
    rfl
  | .classDef h body => by
    rw [filled, nested, nested, List.map_append, List.map_cons, filled_exprs, filled_exprs]
    rfl
  | .forLoop isAsync target iter body orelse => by
    rw [filled, nested, nested, List.map_append, List.map_append, filled_exprs,
      nestedBlock_orPass, nestedBlock_filled body, nestedBlock_filled orelse]
  | .whileLoop test body orelse | .ifStmt test body orelse => by
    rw [filled, nested, nested, List.map_append, List.map_append, filled_exprs,
      nestedBlock_orPass, nestedBlock_filled body, nestedBlock_filled orelse]
  | .withStmt isAsync items body => by
    rw [filled, nested, nested, List.map_append, filled_exprs, nestedBlock_orPass,
      nestedBlock_filled body]
  | .matchStmt subject cases => by
    rw [filled, nested, nested, List.map_append, filled_exprs, nestedCases_filled cases]
  | .tryStmt isGroup body handlers orelse finalbody => by
    have hfinal : ∀ p : Prop, [Decidable p] →
        nestedBlock v (if p then orPass (filledBlock finalbody) else filledBlock finalbody) =
          (nestedBlock v finalbody).map NestedPart.filled := by
      intro p _
      split_ifs
      · rw [nestedBlock_orPass, nestedBlock_filled finalbody]
      · exact nestedBlock_filled finalbody
    rw [filled, nested, nested, List.map_append, List.map_append, List.map_append,
      nestedBlock_orPass, nestedBlock_filled body, nestedHandlers_filled handlers,
      nestedBlock_filled orelse, hfinal]
  | .annAssign _ _ none _ | .annAssign _ _ (some _) _ | .ret _ | .delete _ | .assign _ _
  | .augAssign _ _ _ | .raise _ _ | .assert _ _ | .expr _ => (filled_exprs _).symm
  | .imports _ _ | .scope _ _ | .jump _ => rfl

theorem nestedBlock_filled : ∀ b : List Stmt,
    nestedBlock v (filledBlock b) = (nestedBlock v b).map NestedPart.filled
  | [] => rfl
  | x :: xs => by
    rw [filledBlock, nestedBlock, nestedBlock, List.map_append, nested_filled x,
      nestedBlock_filled xs]

theorem nestedHandlers_filled : ∀ hs : List Handler,
    nestedHandlers v (filledHandlers hs) = (nestedHandlers v hs).map NestedPart.filled
  | [] => rfl
  | h :: hs => by
    rw [filledHandlers, nestedHandlers, nestedHandlers, List.map_append, nestedHandler_filled h,
      nestedHandlers_filled hs]

theorem nestedHandler_filled : ∀ h : Handler,
    nestedHandler v (filledHandler h) = (nestedHandler v h).map NestedPart.filled
  | ⟨_, _, body⟩ => by
    rw [filledHandler, nestedHandler, nestedHandler, List.map_append, filled_exprs,
      nestedBlock_orPass, nestedBlock_filled body]

theorem nestedCases_filled : ∀ cs : List MatchCase,
    nestedCases v (filledCases cs) = (nestedCases v cs).map NestedPart.filled
  | [] => rfl
  | c :: cs => by
    rw [filledCases, nestedCases, nestedCases, List.map_append, nestedCase_filled c,
      nestedCases_filled cs]

theorem nestedCase_filled : ∀ c : MatchCase,
    nestedCase v (filledCase c) = (nestedCase v c).map NestedPart.filled
  | ⟨_, _, body⟩ => by
    rw [filledCase, nestedCase, nestedCase, List.map_append, filled_exprs, nestedBlock_orPass,
      nestedBlock_filled body]

end

/-- What can be compiled has nothing to fill in its nested parts. -/
theorem filled_nestedBlock {b : Block} (legal : Legal b) :
    (nestedBlock v b).map NestedPart.filled = nestedBlock v b := by
  rw [← nestedBlock_filled, filledBlock_of_legal b legal]

end Filled

end Stmt

namespace ClassScope

open StateWeave.Expr

variable {s : ClassScope}

section Expressions

theorem Grounded.nested_member (hs : s.Grounded) (name : String) (ctx : Ctx) :
    (s.member name ctx).nested = [] := by
  obtain ⟨head, attrs, howner⟩ := hs.owner
  rw [member, howner]
  exact Expr.nested_path head attrs

theorem nested_rewriteName (hs : s.Grounded) (id : String) (ctx : Ctx) :
    (s.rewriteName id ctx).nested = [] := by
  rw [rewriteName]
  split_ifs
  · rfl
  · rfl
  · exact hs.nested_member id ctx

theorem Grounded.nested_storeStatic (hs : s.Grounded) (name : String) (value : Expr) :
    (s.storeStatic name value).nested = value.nested := by
  obtain ⟨head, attrs, howner⟩ := hs.owner
  have hargs : (s.storeStatic name value).nested =
      s.owner.nested ++ (value.nested ++ []) ++ [] := rfl
  rw [hargs, howner, Expr.nested_path, List.append_nil, List.append_nil, List.nil_append]

theorem nested_rewriteWalrus (hs : s.Grounded) (target : String) (value : Expr) :
    (s.rewriteWalrus target value).nested = value.nested := by
  rw [rewriteWalrus]
  split_ifs
  · rfl
  · rfl
  · exact hs.nested_storeStatic target value

mutual

/-- Rewriting an expression leaves alone what runs in scopes of its own. -/
theorem nested_rewriteExpr (hs : s.Grounded) : ∀ e : Expr, (s.rewriteExpr e).nested = e.nested
  | .constant _ => rfl
  | .name id ctx => nested_rewriteName hs id ctx
  | .attribute value _ _ => nested_rewriteExpr hs value
  | .subscript value index _ =>
    congrArg₂ _ (nested_rewriteExpr hs value) (nested_rewriteExpr hs index)
  | .starred value _ => nested_rewriteExpr hs value
  | .sequence _ elts _ => nested_rewriteExprs hs elts
  | .set elts => nested_rewriteExprs hs elts
  | .dict keys values =>
    congrArg₂ _ (nested_rewriteOptions hs keys) (nested_rewriteExprs hs values)
  | .boolOp _ values => nested_rewriteExprs hs values
  | .binOp left _ right =>
    congrArg₂ _ (nested_rewriteExpr hs left) (nested_rewriteExpr hs right)
  | .unaryOp _ operand => nested_rewriteExpr hs operand
  | .compare left _ comparators =>
    congrArg₂ _ (nested_rewriteExpr hs left) (nested_rewriteExprs hs comparators)
  | .call func args keywords =>
    congrArg₂ _ (congrArg₂ _ (nested_rewriteExpr hs func) (nested_rewriteExprs hs args))
      (nested_rewriteKeywords hs keywords)
  | .ifExp test body orelse =>
    congrArg₂ _ (congrArg₂ _ (nested_rewriteExpr hs test) (nested_rewriteExpr hs body))
      (nested_rewriteExpr hs orelse)
  | .walrus target value =>
    (nested_rewriteWalrus hs target (s.rewriteExpr value)).trans (nested_rewriteExpr hs value)
  | .lambda params body => congrArg (· ++ [body]) (nested_rewriteParams hs params)
  | .comprehension _ element first rest =>
    congrArg (element :: · ++ rest.flatMap nestedGenerator) (nested_rewriteGenerator hs first)
  | .dictComprehension key value first rest =>
    congrArg (key :: value :: · ++ rest.flatMap nestedGenerator)
      (nested_rewriteGenerator hs first)
  | .await value => nested_rewriteExpr hs value
  | .yield value => nested_rewriteOption hs value
  | .yieldFrom value => nested_rewriteExpr hs value
  | .joinedStr values => nested_rewriteExprs hs values
  | .formatted value _ spec =>
    congrArg₂ _ (nested_rewriteExpr hs value) (nested_rewriteOption hs spec)
  | .slice lower upper step =>
    congrArg₂ _ (congrArg₂ _ (nested_rewriteOption hs lower) (nested_rewriteOption hs upper))
      (nested_rewriteOption hs step)

theorem nested_rewriteOption (hs : s.Grounded) : ∀ e : Option Expr,
    nestedOption (s.rewriteOption e) = nestedOption e
  | none => rfl
  | some e => nested_rewriteExpr hs e

theorem nested_rewriteExprs (hs : s.Grounded) : ∀ es : List Expr,
    nestedList (s.rewriteExprs es) = nestedList es
  | [] => rfl
  | e :: es => congrArg₂ _ (nested_rewriteExpr hs e) (nested_rewriteExprs hs es)

theorem nested_rewriteOptions (hs : s.Grounded) : ∀ es : List (Option Expr),
    nestedOptions (s.rewriteOptions es) = nestedOptions es
  | [] => rfl
  | e :: es => congrArg₂ _ (nested_rewriteOption hs e) (nested_rewriteOptions hs es)

theorem nested_rewriteKeywords (hs : s.Grounded) : ∀ ks : List Keyword,
    nestedKeywords (s.rewriteKeywords ks) = nestedKeywords ks
  | [] => rfl
  | k :: ks => congrArg₂ _ (nested_rewriteKeyword hs k) (nested_rewriteKeywords hs ks)

theorem nested_rewriteKeyword (hs : s.Grounded) : ∀ k : Keyword,
    nestedKeyword (s.rewriteKeyword k) = nestedKeyword k
  | ⟨_, value⟩ => nested_rewriteExpr hs value

theorem nested_rewriteParams (hs : s.Grounded) : ∀ p : Params,
    nestedParams (s.rewriteParams p) = nestedParams p
  | ⟨posOnly, positional, vararg, kwOnly, kwDefaults, kwarg, defaults⟩ =>
    congrArg₂ (nestedArgs posOnly ++ nestedArgs positional ++ nestedArgOption vararg ++
      nestedArgs kwOnly ++ · ++ nestedArgOption kwarg ++ ·)
      (nested_rewriteOptions hs kwDefaults) (nested_rewriteExprs hs defaults)

theorem nested_rewriteGenerator (hs : s.Grounded) : ∀ g : Generator,
    nestedFirst (s.rewriteGenerator g) = nestedFirst g
  | ⟨target, iter, ifs, _⟩ =>
    congrArg (target :: · ++ ifs) (nested_rewriteExpr hs iter)

end

end Expressions

section Statements

open StateWeave.NestedPart (exprs)

/-- What of a scope is looked into for the parts that a copy of it has. -/
def survey (s : ClassScope) : Survey :=
  ⟨false, s.retained⟩

/-- The nested parts of what a statement becomes are those of the statement, less what is passed
over. -/
def Leaves (s : ClassScope) (ys : Block) (x : Stmt) : Prop :=
  Stmt.nestedBlock .whole ys = x.nested s.survey

theorem leaves_singleton {x y : Stmt} (h : y.nested .whole = x.nested s.survey) :
    s.Leaves [y] x :=
  (List.append_nil _).trans h

theorem nested_rewriteList (hs : s.Grounded) (es : List Expr) :
    nestedList (es.map s.rewriteExpr) = nestedList es := by
  rw [← rewriteExprs_eq_map, nested_rewriteExprs hs]

/-- Names that a nested statement has bound are stored to the owner with nothing nested in that. -/
theorem nested_rebind (hs : s.Grounded) (names : List String) :
    Stmt.nestedBlock .whole (s.rebind names) = [] := by
  unfold rebind
  induction names.filter _ with
  | nil => rfl
  | cons name names ih =>
    rw [List.map_cons, Stmt.nestedBlock, ih, Stmt.nested_whole_assign, nestedList, nestedList,
      hs.nested_member]
    rfl

theorem leaves_functionDef (hs : s.Grounded) (h : FunctionHeader) (body : Block) :
    s.Leaves (.functionDef (s.rewriteFunction h) body :: s.rebind [h.name])
      (.functionDef h body) := by
  unfold Leaves
  rw [Stmt.nestedBlock, nested_rebind hs, List.append_nil, Stmt.nested, Stmt.nested,
    rewriteFunction, nested_rewriteParams hs, nested_rewriteExprs hs]

theorem leaves_classDef (hs : s.Grounded) (h : ClassHeader) (body : Block) :
    s.Leaves (.classDef (s.rewriteClass h) body :: s.rebind [h.name]) (.classDef h body) := by
  unfold Leaves
  rw [Stmt.nestedBlock, nested_rebind hs, List.append_nil, Stmt.nested, Stmt.nested,
    rewriteClass, nested_rewriteExprs hs, nested_rewriteExprs hs, nested_rewriteKeywords hs]

theorem leaves_imports (hs : s.Grounded) (source : ImportSource) (names : List Alias) :
    s.Leaves (.imports source names :: s.rebind (names.filterMap Binding.ofAlias))
      (.imports source names) := by
  unfold Leaves
  rw [Stmt.nestedBlock, nested_rebind hs]
  rfl

/-- An assignment to one name is passed over if it stores to a retained one. -/
theorem nested_rewriteStore (hs : s.Grounded) (id : String) (ctx : Ctx) {value : Expr}
    {general : Stmt} (h : general.nested .whole = exprs value.nested) :
    Stmt.nestedBlock .whole (s.rewriteStore (.name id ctx) value general) =
      exprs (if s.retains id then [] else value.nested) := by
  rw [rewriteStore]
  split_ifs with hscope hret hret
  · have hkept := hs.retains_of_not_inScope (by simpa using hscope)
    rw [hret] at hkept
    cases hkept
  · exact (List.append_nil _).trans h
  · rfl
  · rw [Stmt.nestedBlock, Stmt.nested, hs.nested_storeStatic]
    exact List.append_nil _

theorem leaves_rewriteAssign (hs : s.Grounded) (targets : List Expr) (value : Expr) :
    s.Leaves (s.rewriteAssign targets value) (.assign targets value) := by
  have hgeneral : (Stmt.assign (s.rewriteExprs targets) (s.rewriteExpr value)).nested .whole =
      exprs (nestedList targets ++ value.nested) := by
    rw [Stmt.nested_whole_assign, nested_rewriteExprs hs, nested_rewriteExpr hs]
  rcases targets with - | ⟨target, - | ⟨next, rest⟩⟩
  · exact leaves_singleton hgeneral
  · cases target with
    | name id ctx =>
      have hvalue := nested_rewriteExpr hs value
      refine (nested_rewriteStore hs id ctx ?_).trans ?_
      · rw [hgeneral, hvalue]
        rfl
      · rw [hvalue]
        rfl
    | _ => exact leaves_singleton hgeneral
  · exact leaves_singleton hgeneral

theorem leaves_rewriteAnnAssign (hs : s.Grounded) (target annot : Expr) (value : Option Expr)
    (simple : Option Int) :
    s.Leaves (s.rewriteAnnAssign target value) (.annAssign target annot value simple) := by
  cases value with
  | none => rfl
  | some value =>
    have hgeneral : (Stmt.assign [s.rewriteExpr target] (s.rewriteExpr value)).nested .whole =
        exprs (target.nested ++ [] ++ value.nested) := by
      rw [Stmt.nested_whole_assign, nestedList, nestedList, nested_rewriteExpr hs,
        nested_rewriteExpr hs]
    cases target with
    | name id ctx =>
      have hvalue := nested_rewriteExpr hs value
      refine (nested_rewriteStore hs id ctx ?_).trans ?_
      · rw [hgeneral, hvalue]
        rfl
      · rw [hvalue]
        rfl
    | _ => exact leaves_singleton hgeneral

theorem leaves_rewriteAugAssign (hs : s.Grounded) (target : Expr) (op : BinOp) (value : Expr) :
    s.Leaves (s.rewriteAugAssign target op value) (.augAssign target op value) := by
  have hskips : s.survey.skips target = s.isRetainedName target := by cases target <;> rfl
  unfold Leaves
  rw [rewriteAugAssign, Stmt.nested, hskips]
  split_ifs with hret
  · rfl
  · rw [Stmt.nestedBlock, Stmt.nested_whole_augAssign, nested_rewriteExpr hs,
      nested_rewriteExpr hs]
    exact List.append_nil _

/-- Dropped targets of a deletion are names. -/
theorem nested_keptTargets (targets : List Expr) :
    nestedList (s.keptTargets targets) = nestedList targets := by
  unfold keptTargets
  induction targets with
  | nil => rfl
  | cons target targets ih =>
    by_cases hret : s.isRetainedName target = true
    · have hname : target.nested = [] := by cases target <;> first | rfl | cases hret
      rw [List.filter_cons_of_neg (by simpa using hret), ih, nestedList, hname, List.nil_append]
    · rw [List.filter_cons_of_pos (by simpa using hret), nestedList, ih, nestedList]

theorem leaves_rewriteDelete (hs : s.Grounded) (targets : List Expr) :
    s.Leaves (s.rewriteDelete targets) (.delete targets) := by
  have hkept := s.nested_keptTargets targets
  unfold Leaves
  rw [rewriteDelete, Stmt.nested, ← hkept]
  split
  next hnil => rw [hnil]; rfl
  next =>
    rw [Stmt.nestedBlock, Stmt.nested, nested_rewriteExprs hs]
    exact List.append_nil _

mutual

/-- Every statement becomes statements with the nested parts that are not passed over. -/
theorem leaves_rewriteStmt (hs : s.Grounded) : ∀ x : Stmt, s.Leaves (s.rewriteStmt x) x
  | .functionDef h body => leaves_functionDef hs h body
  | .classDef h body => leaves_classDef hs h body
  | .imports source names => leaves_imports hs source names
  | .delete targets => leaves_rewriteDelete hs targets
  | .assign targets value => leaves_rewriteAssign hs targets value
  | .augAssign target op value => leaves_rewriteAugAssign hs target op value
  | .annAssign target annot value simple => leaves_rewriteAnnAssign hs target annot value simple
  | .ret value => leaves_singleton (congrArg exprs (nested_rewriteOption hs value))
  | .raise exc cause => leaves_singleton (congrArg exprs
      (congrArg₂ _ (nested_rewriteOption hs exc) (nested_rewriteOption hs cause)))
  | .assert test msg => leaves_singleton (congrArg exprs
      (congrArg₂ _ (nested_rewriteExpr hs test) (nested_rewriteOption hs msg)))
  | .expr value => leaves_singleton (congrArg exprs (nested_rewriteExpr hs value))
  | .scope _ _ | .jump _ => rfl
  | .forLoop isAsync target iter body orelse => by
    refine leaves_singleton ?_
    rw [Stmt.nested, Stmt.nested, nested_rewriteExpr hs, nested_rewriteExpr hs,
      nested_rewriteBlock hs body, nested_rewriteBlock hs orelse]
  | .whileLoop test body orelse | .ifStmt test body orelse => by
    refine leaves_singleton ?_
    rw [Stmt.nested, Stmt.nested, nested_rewriteExpr hs, nested_rewriteBlock hs body,
      nested_rewriteBlock hs orelse]
  | .withStmt isAsync items body => by
    have hitems : (items.map s.rewriteWithItem).flatMap (·.evaluated) =
        (items.flatMap (·.evaluated)).map s.rewriteExpr := by
      simp only [List.flatMap_map, List.map_flatMap, evaluated_rewriteWithItem]
    refine leaves_singleton ?_
    rw [Stmt.nested, Stmt.nested, hitems, nested_rewriteList hs, nested_rewriteBlock hs body]
  | .matchStmt subject cases => by
    refine leaves_singleton ?_
    rw [Stmt.nested, Stmt.nested, nested_rewriteExpr hs, nested_rewriteCases hs cases]
  | .tryStmt isGroup body handlers orelse finalbody => by
    refine leaves_singleton ?_
    rw [Stmt.nested, Stmt.nested, nested_rewriteBlock hs body, nested_rewriteHandlers hs handlers,
      nested_rewriteBlock hs orelse, nested_rewriteBlock hs finalbody]

theorem nested_rewriteBlock (hs : s.Grounded) : ∀ b : List Stmt,
    Stmt.nestedBlock .whole (s.rewriteBlock b) = Stmt.nestedBlock s.survey b
  | [] => rfl
  | x :: xs => by
    have hx : Stmt.nestedBlock .whole (s.rewriteStmt x) = x.nested s.survey :=
      leaves_rewriteStmt hs x
    rw [rewriteBlock, Stmt.nestedBlock_append, hx, nested_rewriteBlock hs xs, Stmt.nestedBlock]

theorem nested_rewriteHandlers (hs : s.Grounded) : ∀ handlers : List Handler,
    Stmt.nestedHandlers .whole (s.rewriteHandlers handlers) =
      Stmt.nestedHandlers s.survey handlers
  | [] => rfl
  | h :: handlers => by
    rw [rewriteHandlers, Stmt.nestedHandlers, Stmt.nestedHandlers, nested_rewriteHandler hs h,
      nested_rewriteHandlers hs handlers]

theorem nested_rewriteHandler (hs : s.Grounded) : ∀ h : Handler,
    Stmt.nestedHandler .whole (s.rewriteHandler h) = Stmt.nestedHandler s.survey h
  | ⟨type, _, body⟩ => by
    rw [rewriteHandler, Stmt.nestedHandler, Stmt.nestedHandler, nested_rewriteOption hs,
      nested_rewriteBlock hs body]

theorem nested_rewriteCases (hs : s.Grounded) : ∀ cs : List MatchCase,
    Stmt.nestedCases .whole (s.rewriteCases cs) = Stmt.nestedCases s.survey cs
  | [] => rfl
  | c :: cs => by
    rw [rewriteCases, Stmt.nestedCases, Stmt.nestedCases, nested_rewriteCase hs c,
      nested_rewriteCases hs cs]

theorem nested_rewriteCase (hs : s.Grounded) : ∀ c : MatchCase,
    Stmt.nestedCase .whole (s.rewriteCase c) = Stmt.nestedCase s.survey c
  | ⟨pattern, guard, body⟩ => by
    rw [rewriteCase, Stmt.nestedCase, Stmt.nestedCase, evaluated_rewritePattern,
      nested_rewriteList hs, nested_rewriteOption hs, nested_rewriteBlock hs body]

end

end Statements

end ClassScope

section Copy

variable {place : List Nat} {outer enums enums' : List String} {h : ClassHeader} {body : Block}
  {t : ClassTree} {u v : ReloadUnit} {f : Stmt} {runtimeAlias : String}

/-- The copy of the state statements of a class that can be compiled has, in the same order, their
nested parts as they are. Those in annotations of variables are lost, and so are those in
assignments to names that are opted out; without such names nothing else is. -/
theorem copy_leaves_nested (hread : ClassTree.read place outer enums h body = .ok (t, enums'))
    (legal : Stmt.Legal body) (hu : u ∈ ReloadUnit.copy? t.cls) (hv : u.qualify = .ok v)
    (hf : v.render runtimeAlias = .ok f) :
    ∃ header copied, f = .functionDef header copied ∧
      Stmt.nestedBlock .whole copied =
        Stmt.nestedBlock ⟨false, t.cls.optedOutNames⟩ (t.cls.initializer.map (·.2)) ∧
      List.Sublist (Stmt.nestedBlock .whole copied)
        (Stmt.nestedBlock .whole (t.cls.initializer.map (·.2))) ∧
      (t.cls.optedOutNames = [] → Stmt.nestedBlock .whole copied =
        Stmt.nestedBlock .unannotated (t.cls.initializer.map (·.2))) := by
  have hs := (ClassTree.named_of_read hread).grounded runtimeAlias
  have hcopied : Stmt.nestedBlock .whole (Weave.copiedBody runtimeAlias t.cls) =
      Stmt.nestedBlock ⟨false, t.cls.optedOutNames⟩ (t.cls.initializer.map (·.2)) := by
    rw [Weave.copiedBody, Stmt.nestedBlock_orPass, Stmt.nestedBlock_filled,
      ClassScope.nested_rewriteBlock hs]
    exact Stmt.filled_nestedBlock (ClassTree.legal_initializer hread legal)
  refine ⟨_, _, ReloadUnit.render_copy hu hv hf, hcopied, ?_, fun hnone => ?_⟩
  · rw [hcopied]
    exact Stmt.nestedBlock_sublist _
  · rw [hcopied, hnone]
    rfl

/-- A comprehension, and an annotated variable whose value is a function. -/
def rota : Block :=
  [.assign [.name "days" .store]
      (.comprehension .list (.name "d" .load)
        ⟨.name "d" .store, .call (.name "range" .load) [.constant (.int 7)] [], [], some 0⟩ []),
    .annAssign (.name "rank" .store) (.name "object" .load)
      (some (.lambda (.ofNames ["d"]) (.name "d" .load))) (some 1)]

/-- All of the element, the target and the body are in the copy. -/
theorem copy_leaves_nested_rota :
    ∃ t enums u v f header copied,
      ClassTree.read [0] [] [] ⟨"Rota", [], [], [], []⟩ rota = .ok (t, enums) ∧
      Stmt.Legal rota ∧ u ∈ ReloadUnit.copy? t.cls ∧ u.qualify = .ok v ∧
      v.render "__typereload__" = .ok f ∧ f = .functionDef header copied ∧
      t.cls.optedOutNames = [] ∧ (Stmt.nestedBlock .whole copied).length = 3 ∧
      Stmt.nestedBlock .whole copied = Stmt.nestedBlock .whole (t.cls.initializer.map (·.2)) := by
  have legal : Stmt.Legal rota := by decide +kernel
  have hmem : ∀ t enums,
      ClassTree.read [0] [] [] ⟨"Rota", [], [], [], []⟩ rota = .ok (t, enums) →
      t.cls.optedOutNames = [] ∧
        (Stmt.nestedBlock .unannotated (t.cls.initializer.map (·.2))).length = 3 ∧
        Stmt.nestedBlock .unannotated (t.cls.initializer.map (·.2)) =
          Stmt.nestedBlock .whole (t.cls.initializer.map (·.2)) ∧
        ∃ u ∈ ReloadUnit.copy? t.cls, ∃ v, u.qualify = .ok v ∧
          ∃ f, v.render "__typereload__" = .ok f := by
    rintro _ _ ⟨⟩
    exact ⟨rfl, rfl, rfl, _, rfl, _, rfl, _, rfl⟩
  obtain ⟨t, enums, hread⟩ : ∃ t enums,
      ClassTree.read [0] [] [] ⟨"Rota", [], [], [], []⟩ rota = .ok (t, enums) := ⟨_, _, rfl⟩
  obtain ⟨hnone, hthree, hall, u, hu, v, hv, f, hf⟩ := hmem t enums hread
  obtain ⟨header, copied, hbody, -, -, hsame⟩ := copy_leaves_nested hread legal hu hv hf
  have hsame := hsame hnone
  exact ⟨t, enums, u, v, f, header, copied, hread, legal, hu, hv, hf, hbody, hnone,
    hsame ▸ hthree, hsame.trans hall⟩

/-- A variable whose annotation has a function in it. -/
def checkedLimit : Block :=
  [.annAssign (.name "limit" .store)
    (.subscript (.name "Annotated" .load)
      (.sequence .tuple [.name "int" .load,
        .lambda (.ofNames ["v"]) (.name "v" .load)] .load) .load)
    (some (.constant (.int 1))) (some 1)]

/-- The copy has no annotation, and with it the function is lost. -/
theorem nested_lost_checkedLimit :
    ∃ t enums u v f header copied,
      ClassTree.read [0] [] [] ⟨"Limits", [], [], [], []⟩ checkedLimit = .ok (t, enums) ∧
      Stmt.Legal checkedLimit ∧ u ∈ ReloadUnit.copy? t.cls ∧ u.qualify = .ok v ∧
      v.render "__typereload__" = .ok f ∧ f = .functionDef header copied ∧
      t.cls.optedOutNames = [] ∧
      Stmt.nestedBlock .whole copied ≠
        Stmt.nestedBlock .whole (t.cls.initializer.map (·.2)) := by
  have legal : Stmt.Legal checkedLimit := by decide +kernel
  have hmem : ∀ t enums,
      ClassTree.read [0] [] [] ⟨"Limits", [], [], [], []⟩ checkedLimit = .ok (t, enums) →
      t.cls.optedOutNames = [] ∧
        (Stmt.nestedBlock .whole (Weave.copiedBody "__typereload__" t.cls)).length = 0 ∧
        (Stmt.nestedBlock .whole (t.cls.initializer.map (·.2))).length = 1 ∧
        ∃ u ∈ ReloadUnit.copy? t.cls, ∃ v, u.qualify = .ok v ∧
          ∃ f, v.render "__typereload__" = .ok f := by
    rintro _ _ ⟨⟩
    exact ⟨rfl, rfl, rfl, _, rfl, _, rfl, _, rfl⟩
  obtain ⟨t, enums, hread⟩ : ∃ t enums,
      ClassTree.read [0] [] [] ⟨"Limits", [], [], [], []⟩ checkedLimit = .ok (t, enums) :=
    ⟨_, _, rfl⟩
  obtain ⟨hnone, hcopied, hsource, u, hu, v, hv, f, hf⟩ := hmem t enums hread
  refine ⟨t, enums, u, v, f, _, _, hread, legal, hu, hv, hf, ReloadUnit.render_copy hu hv hf,
    hnone, fun hsame => ?_⟩
  rw [hsame, hsource] at hcopied
  cases hcopied

end Copy

end StateWeave
