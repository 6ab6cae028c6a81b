import StateWeave.Copy.ClassScope

/-! Whether rewriting a statement needs the expression for the owning class. -/

namespace StateWeave

namespace ClassScope

/-- A name of the class is reached through the owner, unless it is a store that is thrown away. -/
def reaches (s : ClassScope) (o : Occurrence) : Bool :=
  s.inScope o.name && !(o.ctx == .store && s.retains o.name)

def usesExpr (s : ClassScope) (e : Expr) : Bool :=
  e.occurrences.any s.reaches

def usesExprs (s : ClassScope) (es : List Expr) : Bool :=
  (Expr.occurrencesList es).any s.reaches

def usesOption (s : ClassScope) (e : Option Expr) : Bool :=
  (Expr.occurrencesOption e).any s.reaches

/-- Whether one of these names is stored to the class once a nested statement has bound it. -/
def usesRebind (s : ClassScope) (names : List String) : Bool :=
  names.any fun name => s.inScope name && !s.retains name

mutual

def usesPattern (s : ClassScope) : Pattern → Bool
  | .value e => s.usesExpr e
  | .singleton _ => false
  | .sequence patterns => s.usesPatterns patterns
  | .mapping keys patterns _ => s.usesExprs keys || s.usesPatterns patterns
  | .classPattern cls patterns _ named =>
    s.usesExpr cls || s.usesPatterns patterns || s.usesPatterns named
  | .star _ => false
  | .capture none _ => false
  | .capture (some pattern) _ => s.usesPattern pattern
  | .alternatives patterns => s.usesPatterns patterns

def usesPatterns (s : ClassScope) : List Pattern → Bool
  | [] => false
  | p :: ps => s.usesPattern p || s.usesPatterns ps

end

mutual

def usesStmt (s : ClassScope) : Stmt → Bool
  | .functionDef h _ =>
    s.usesExprs h.decorators || (Expr.occurrencesParams h.params).any s.reaches
      || s.usesRebind [h.name]
  | .classDef h _ =>
    s.usesExprs h.decorators || s.usesExprs h.bases
      || (Expr.occurrencesKeywords h.keywords).any s.reaches || s.usesRebind [h.name]
  | .ret value => s.usesOption value
  | .delete targets => s.usesExprs (s.keptTargets targets)
  | .assign targets value => s.usesExpr value || s.usesExprs targets
  | .augAssign target _ value =>
    !s.isRetainedName target && (s.usesExpr target || s.usesExpr value)
  | .annAssign _ _ none _ => false
  | .annAssign target _ (some value) _ => s.usesExpr value || s.usesExpr target
  | .forLoop _ target iter body orelse =>
    s.usesExpr target || s.usesExpr iter || s.usesBlock body || s.usesBlock orelse
  | .whileLoop test body orelse => s.usesExpr test || s.usesBlock body || s.usesBlock orelse
  | .ifStmt test body orelse => s.usesExpr test || s.usesBlock body || s.usesBlock orelse
  | .withStmt _ items body =>
    items.any (fun item => s.usesExpr item.context || s.usesOption item.target)
      || s.usesBlock body
  | .matchStmt subject cases => s.usesExpr subject || s.usesCases cases
  | .raise exc cause => s.usesOption exc || s.usesOption cause
  | .tryStmt _ body handlers orelse finalbody =>
    s.usesBlock body || s.usesHandlers handlers || s.usesBlock orelse || s.usesBlock finalbody
  | .assert test msg => s.usesExpr test || s.usesOption msg
  | .imports _ names => s.usesRebind (names.filterMap Binding.ofAlias)
  | .scope _ _ => false
  | .expr value => s.usesExpr value
  | .jump _ => false

def usesBlock (s : ClassScope) : List Stmt → Bool
  | [] => false
  | x :: xs => s.usesStmt x || s.usesBlock xs

def usesHandlers (s : ClassScope) : List Handler → Bool
  | [] => false
  | h :: hs => s.usesHandler h || s.usesHandlers hs

def usesHandler (s : ClassScope) : Handler → Bool
  | ⟨type, _, body⟩ => s.usesOption type || s.usesBlock body

def usesCases (s : ClassScope) : List MatchCase → Bool
  | [] => false
  | c :: cs => s.usesCase c || s.usesCases cs

def usesCase (s : ClassScope) : MatchCase → Bool
  | ⟨pattern, guard, body⟩ => s.usesPattern pattern || s.usesOption guard || s.usesBlock body

end

end ClassScope

end StateWeave
