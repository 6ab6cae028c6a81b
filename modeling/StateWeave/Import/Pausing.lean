import StateWeave.Tree.Stmt

/-! Functions that hand out values while they run. A call of one runs nothing yet. -/

namespace StateWeave

namespace Expr

mutual

/-- Whether an expression hands out a value. Scopes of its own are not entered. -/
def yields : Expr → Bool
  | .yield _ | .yieldFrom _ => true
  | .constant _ | .name _ _ | .lambda _ _ | .comprehension _ _ _ _ | .dictComprehension _ _ _ _ =>
    false
  | .attribute value _ _ | .starred value _ | .unaryOp _ value | .walrus _ value | .await value =>
    value.yields
  | .subscript value index _ => value.yields || index.yields
  | .sequence _ elts _ | .set elts | .boolOp _ elts | .joinedStr elts => anyYields elts
  | .dict keys values => optionsYield keys || anyYields values
  | .binOp left _ right => left.yields || right.yields
  | .compare left _ comparators => left.yields || anyYields comparators
  | .call func args keywords => func.yields || anyYields args || keywordsYield keywords
  | .ifExp test body orelse => test.yields || body.yields || orelse.yields
  | .formatted value _ spec => value.yields || optionYields spec
  | .slice lower upper step => optionYields lower || optionYields upper || optionYields step

def optionYields : Option Expr → Bool
  | none => false
  | some e => e.yields

def anyYields : List Expr → Bool
  | [] => false
  | e :: es => e.yields || anyYields es

def optionsYield : List (Option Expr) → Bool
  | [] => false
  | e :: es => optionYields e || optionsYield es

def keywordsYield : List Keyword → Bool
  | [] => false
  | ⟨_, value⟩ :: ks => value.yields || keywordsYield ks

end

end Expr

namespace Stmt

mutual

def yields : Stmt → Bool
  | .functionDef _ _ | .classDef _ _ | .imports _ _ | .scope _ _ | .jump _ => false
  | .ret value => Expr.optionYields value
  | .delete targets => Expr.anyYields targets
  | .assign targets value => Expr.anyYields targets || value.yields
  | .augAssign target _ value => target.yields || value.yields
  | .annAssign target _ value _ => target.yields || Expr.optionYields value
  | .forLoop _ target iter body orelse =>
    target.yields || iter.yields || anyYields body || anyYields orelse
  | .whileLoop test body orelse | .ifStmt test body orelse =>
    test.yields || anyYields body || anyYields orelse
  | .withStmt _ items body => items.any (fun i => i.context.yields) || anyYields body
  | .matchStmt subject cases => subject.yields || casesYield cases
  | .raise exc cause => Expr.optionYields exc || Expr.optionYields cause
  | .tryStmt _ body handlers orelse finalbody =>
    anyYields body || handlersYield handlers || anyYields orelse || anyYields finalbody
  | .assert test msg => test.yields || Expr.optionYields msg
  | .expr value => value.yields

def anyYields : List Stmt → Bool
  | [] => false
  | s :: ss => s.yields || anyYields ss

def handlersYield : List Handler → Bool
  | [] => false
  | ⟨_, _, body⟩ :: hs => anyYields body || handlersYield hs

def casesYield : List MatchCase → Bool
  | [] => false
  | ⟨_, guard, body⟩ :: cs => Expr.optionYields guard || anyYields body || casesYield cs

end

end Stmt

end StateWeave
