import StateWeave.Text.Dotted
import StateWeave.Text.Private
import StateWeave.Tree.Occurrence
import StateWeave.Tree.Stmt

/-! The names that a statement binds in the scope it runs in. Nested scopes are not entered;
exception names and captures of patterns are transient and do not count. -/

namespace StateWeave

inductive Binding
  | store (name : String)
  | declare (name : String)
deriving DecidableEq, Repr, Inhabited

namespace Binding

def ofOccurrences (os : List Occurrence) : List Binding :=
  os.filterMap fun o => match o.ctx with
    | .load => none
    | _ => some (.store o.name)

def ofExpr (e : Expr) : List Binding :=
  ofOccurrences e.occurrences

def ofExprs (es : List Expr) : List Binding :=
  ofOccurrences (Expr.occurrencesList es)

def ofOption (e : Option Expr) : List Binding :=
  ofOccurrences (Expr.occurrencesOption e)

/-- An import binds the new name, or else the first component; a star binds no known name. -/
def ofAlias (a : Alias) : Option String :=
  if a.name = "*" then none
  else match a.asname with
    | some asname => if asname = "" then some (Dotted.head a.name) else some asname
    | none => some (Dotted.head a.name)

def ofWithItem (item : WithItem) : List Binding :=
  ofExpr item.context ++ ofOption item.target

mutual

def ofPattern : Pattern → List Binding
  | .value e => ofExpr e
  | .singleton _ => []
  | .sequence patterns => ofPatterns patterns
  | .mapping keys patterns _ => ofExprs keys ++ ofPatterns patterns
  | .classPattern cls patterns _ named => ofExpr cls ++ ofPatterns patterns ++ ofPatterns named
  | .star _ => []
  | .capture none _ => []
  | .capture (some pattern) _ => ofPattern pattern
  | .alternatives patterns => ofPatterns patterns

def ofPatterns : List Pattern → List Binding
  | [] => []
  | p :: ps => ofPattern p ++ ofPatterns ps

end

mutual

def ofStmt : Stmt → List Binding
  | .functionDef header _ => ofExprs header.decorators ++ [.declare header.name]
  | .classDef header _ =>
    ofExprs header.decorators ++ ofExprs header.bases ++ [.declare header.name]
  | .ret value => ofOption value
  | .delete targets => ofExprs targets
  | .assign targets value => ofExprs targets ++ ofExpr value
  | .augAssign target _ value => ofExpr target ++ ofExpr value
  | .annAssign target annot value _ => ofExpr target ++ ofExpr annot ++ ofOption value
  | .forLoop _ target iter body orelse =>
    ofExpr target ++ ofExpr iter ++ ofBlock body ++ ofBlock orelse
  | .whileLoop test body orelse => ofExpr test ++ ofBlock body ++ ofBlock orelse
  | .ifStmt test body orelse => ofExpr test ++ ofBlock body ++ ofBlock orelse
  | .withStmt _ items body => items.flatMap ofWithItem ++ ofBlock body
  | .matchStmt subject cases => ofExpr subject ++ ofCases cases
  | .raise exc cause => ofOption exc ++ ofOption cause
  | .tryStmt _ body handlers orelse finalbody =>
    ofBlock body ++ ofHandlers handlers ++ ofBlock orelse ++ ofBlock finalbody
  | .assert test msg => ofExpr test ++ ofOption msg
  | .imports _ names => (names.filterMap ofAlias).map .declare
  | .scope _ _ => []
  | .expr value => ofExpr value
  | .jump _ => []

def ofBlock : List Stmt → List Binding
  | [] => []
  | s :: ss => ofStmt s ++ ofBlock ss

def ofHandlers : List Handler → List Binding
  | [] => []
  | h :: hs => ofHandler h ++ ofHandlers hs

def ofHandler : Handler → List Binding
  | ⟨type, _, body⟩ => ofOption type ++ ofBlock body

def ofCases : List MatchCase → List Binding
  | [] => []
  | c :: cs => ofCase c ++ ofCases cs

def ofCase : MatchCase → List Binding
  | ⟨pattern, guard, body⟩ => ofPattern pattern ++ ofOption guard ++ ofBlock body

end

def stores (bs : List Binding) : List String :=
  (bs.filterMap fun | .store name => some name | .declare _ => none).eraseDups

def declarations (bs : List Binding) : List String :=
  (bs.filterMap fun | .store _ => none | .declare name => some name).eraseDups

end Binding

/-- What `x = v`, `x: T = v` and `x: T` say about the one name they are about. -/
structure SingleTarget where
  name : String
  annot : Option Expr
  value : Option Expr

namespace Stmt

def bindings (s : Stmt) : List Binding :=
  Binding.ofStmt s

def singleTarget? : Stmt → Option SingleTarget
  | .annAssign (.name id _) annot value _ => some ⟨id, some annot, value⟩
  | .assign [.name id _] value => some ⟨id, none, some value⟩
  | _ => none

end Stmt

inductive Declaration
  | property | event
deriving DecidableEq, Repr, Inhabited

namespace Declaration

def name : Declaration → String
  | .property => "static_property"
  | .event => "static_event"

def ofExpr? : Expr → Option Declaration
  | .call func _ _ => match func.terminalName with
    | some "static_property" => some .property
    | some "static_event" => some .event
    | _ => none
  | _ => none

end Declaration

end StateWeave
