import StateWeave.Copy.Block
import StateWeave.Copy.ClassScope

/-! Writing out a copied initializer uses its statements up: a unit that is written out again starts
from what the first writing left of them. -/

namespace StateWeave

namespace ClassScope

/-- What is left of the value of an annotated assignment. A name, and a walrus on a name of the
class, are replaced where they stand rather than changed. -/
def leftValue (s : ClassScope) : Expr → Expr
  | .name id ctx => .name id ctx
  | .walrus target value =>
    if s.inScope target && !s.retains target then .walrus target (s.rewriteExpr value)
    else s.rewriteExpr (.walrus target value)
  | e => s.rewriteExpr e

/-- What is left of a target that takes the general way; a name is replaced where it stands. -/
def leftTarget (s : ClassScope) : Expr → Expr
  | .name id ctx => .name id ctx
  | e => s.rewriteExpr e

/-- What is left of a statement once it has been rewritten and its blocks have been filled. -/
def leftStmt (s : ClassScope) : Stmt → Stmt
  | .delete targets => .delete (s.rewriteExprs (s.keptTargets targets))
  | .assign targets value => match s.rewriteAssign targets value with
    | [.assign targets value] => .assign targets value
    | _ => .assign targets (s.rewriteExpr value)
  | .augAssign target op value => match s.rewriteAugAssign target op value with
    | [left] => left
    | _ => .augAssign target op value
  | .annAssign target annot none simple => .annAssign target annot none simple
  | .annAssign target annot (some value) simple =>
    .annAssign (s.leftTarget target) annot (some (s.leftValue value)) simple
  | x => match filledBlock (s.rewriteStmt x) with
    | left :: _ => left
    | [] => x

end ClassScope

end StateWeave
