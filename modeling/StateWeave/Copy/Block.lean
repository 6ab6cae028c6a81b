import StateWeave.Tree.Stmt

/-! Blocks that lost all their statements: each gets a `pass`, and so does a `try` that is left
without handlers and without a final block. -/

namespace StateWeave

/-- A block that is never empty. -/
def orPass (block : Block) : Block :=
  if block.isEmpty then [.pass] else block

mutual

def Stmt.filled : Stmt → Stmt
  | .functionDef h body => .functionDef h (orPass (filledBlock body))
  | .classDef h body => .classDef h (orPass (filledBlock body))
  | .forLoop isAsync target iter body orelse =>
    .forLoop isAsync target iter (orPass (filledBlock body)) (filledBlock orelse)
  | .whileLoop test body orelse => .whileLoop test (orPass (filledBlock body)) (filledBlock orelse)
  | .ifStmt test body orelse => .ifStmt test (orPass (filledBlock body)) (filledBlock orelse)
  | .withStmt isAsync items body => .withStmt isAsync items (orPass (filledBlock body))
  | .matchStmt subject cases => .matchStmt subject (filledCases cases)
  | .tryStmt isGroup body handlers orelse finalbody =>
    .tryStmt isGroup (orPass (filledBlock body)) (filledHandlers handlers) (filledBlock orelse)
      (if !isGroup && handlers.isEmpty then orPass (filledBlock finalbody)
        else filledBlock finalbody)
  | .ret value => .ret value
  | .delete targets => .delete targets
  | .assign targets value => .assign targets value
  | .augAssign target op value => .augAssign target op value
  | .annAssign target annot value simple => .annAssign target annot value simple
  | .raise exc cause => .raise exc cause
  | .assert test msg => .assert test msg
  | .imports source names => .imports source names
  | .scope kind names => .scope kind names
  | .expr value => .expr value
  | .jump kind => .jump kind

def filledBlock : List Stmt → Block
  | [] => []
  | s :: ss => s.filled :: filledBlock ss

def filledHandlers : List Handler → List Handler
  | [] => []
  | h :: hs => filledHandler h :: filledHandlers hs

def filledHandler : Handler → Handler
  | ⟨type, name, body⟩ => ⟨type, name, orPass (filledBlock body)⟩

def filledCases : List MatchCase → List MatchCase
  | [] => []
  | c :: cs => filledCase c :: filledCases cs

def filledCase : MatchCase → MatchCase
  | ⟨pattern, guard, body⟩ => ⟨pattern, guard, orPass (filledBlock body)⟩

end

end StateWeave
