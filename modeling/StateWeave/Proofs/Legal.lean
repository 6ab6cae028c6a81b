import StateWeave.Proofs.Targets

/-! Code that can be compiled, as far as its statements go: blocks that must hold something do, a
`try` has handlers or a final block, and what is stored or deleted are targets. Filling is there for
code that lost statements; it leaves alone what can be compiled. -/

namespace StateWeave

open StateWeave.Expr

namespace Stmt

/-- What a statement has to be like by itself: its blocks hold something where they must, a `try` has
handlers or a final block, and what it stores or deletes are targets. -/
def ownLegal : Stmt → Bool
  | .functionDef _ body | .classDef _ body => !body.isEmpty
  | .delete targets => !targets.isEmpty && targets.all (isTarget .del false)
  | .assign targets _ => !targets.isEmpty && targets.all (isTarget .store false)
  | .augAssign target _ _ | .annAssign target _ _ _ => target.isPlace .store
  | .forLoop _ target _ body _ => target.isTarget .store false && !body.isEmpty
  | .whileLoop _ body _ | .ifStmt _ body _ => !body.isEmpty
  | .withStmt _ items body =>
    items.all (fun item => item.target.all (isTarget .store false)) && !body.isEmpty
  | .matchStmt _ cases => cases.all fun c => !c.body.isEmpty
  | .tryStmt _ body handlers _ finalbody =>
    !body.isEmpty && handlers.all (fun h => !h.body.isEmpty) &&
      !(handlers.isEmpty && finalbody.isEmpty)
  | _ => true

/-- The comprehensions in a statement have targets that can be stored to. -/
def loopsLegal (s : Stmt) : Bool :=
  (loopTargetsList s.evaluated).all (isTarget .store false)

mutual

/-- A statement and all in its blocks, at every depth, those of nested functions and classes too. -/
def nodes : Stmt → List Stmt
  | .functionDef h body => .functionDef h body :: nodesBlock body
  | .classDef h body => .classDef h body :: nodesBlock body
  | .forLoop isAsync target iter body orelse =>
    .forLoop isAsync target iter body orelse :: (nodesBlock body ++ nodesBlock orelse)
  | .whileLoop test body orelse =>
    .whileLoop test body orelse :: (nodesBlock body ++ nodesBlock orelse)
  | .ifStmt test body orelse => .ifStmt test body orelse :: (nodesBlock body ++ nodesBlock orelse)
  | .withStmt isAsync items body => .withStmt isAsync items body :: nodesBlock body
  | .matchStmt subject cases => .matchStmt subject cases :: nodesCases cases
  | .tryStmt isGroup body handlers orelse finalbody =>
    .tryStmt isGroup body handlers orelse finalbody ::
      (nodesBlock body ++ nodesHandlers handlers ++ nodesBlock orelse ++ nodesBlock finalbody)
  | .ret value => [.ret value]
  | .delete targets => [.delete targets]
  | .assign targets value => [.assign targets value]
  | .augAssign target op value => [.augAssign target op value]
  | .annAssign target annot value simple => [.annAssign target annot value simple]
  | .raise exc cause => [.raise exc cause]
  | .assert test msg => [.assert test msg]
  | .imports source names => [.imports source names]
  | .scope kind names => [.scope kind names]
  | .expr value => [.expr value]
  | .jump kind => [.jump kind]

def nodesBlock : List Stmt → List Stmt
  | [] => []
  | s :: ss => s.nodes ++ nodesBlock ss

def nodesHandlers : List Handler → List Stmt
  | [] => []
  | h :: hs => nodesHandler h ++ nodesHandlers hs

def nodesHandler : Handler → List Stmt
  | ⟨_, _, body⟩ => nodesBlock body

def nodesCases : List MatchCase → List Stmt
  | [] => []
  | c :: cs => nodesCase c ++ nodesCases cs

def nodesCase : MatchCase → List Stmt
  | ⟨_, _, body⟩ => nodesBlock body

end

/-- Statements that can be compiled. -/
def AllLegal (nodes : List Stmt) : Prop :=
  ∀ x ∈ nodes, x.ownLegal = true ∧ x.loopsLegal = true

/-- A block that can be compiled. -/
def Legal (b : Block) : Prop :=
  AllLegal (nodesBlock b)

instance (nodes : List Stmt) : Decidable (AllLegal nodes) :=
  inferInstanceAs (Decidable (∀ x ∈ nodes, x.ownLegal = true ∧ x.loopsLegal = true))

instance (b : Block) : Decidable (Legal b) :=
  inferInstanceAs (Decidable (AllLegal (nodesBlock b)))

@[simp] theorem allLegal_nil : AllLegal [] := nofun

@[simp] theorem allLegal_cons {x : Stmt} {xs : List Stmt} :
    AllLegal (x :: xs) ↔ (x.ownLegal = true ∧ x.loopsLegal = true) ∧ AllLegal xs :=
  List.forall_mem_cons

@[simp] theorem allLegal_append {xs ys : List Stmt} :
    AllLegal (xs ++ ys) ↔ AllLegal xs ∧ AllLegal ys :=
  List.forall_mem_append

theorem legal_cons {x : Stmt} {b : Block} : Legal (x :: b) ↔ AllLegal x.nodes ∧ Legal b := by
  rw [Legal, nodesBlock, allLegal_append, Legal]

theorem legal_singleton {x : Stmt} : Legal [x] ↔ AllLegal x.nodes := by
  rw [legal_cons]
  exact and_iff_left allLegal_nil

theorem legal_append {b d : Block} : Legal (b ++ d) ↔ Legal b ∧ Legal d := by
  induction b with
  | nil => exact (and_iff_right allLegal_nil).symm
  | cons x b ih => rw [List.cons_append, legal_cons, legal_cons, ih, and_assoc]

theorem legal_orPass {b : Block} : Legal (orPass b) ↔ Legal b := by
  cases b with
  | nil => exact iff_of_true (by simp [orPass, legal_singleton, nodes, ownLegal, loopsLegal,
      evaluated, loopTargetsList]) allLegal_nil
  | cons x b => rfl

theorem isEmpty_orPass (b : Block) : (orPass b).isEmpty = false := by
  cases b <;> rfl

theorem orPass_of_ne {b : Block} (h : b.isEmpty = false) : orPass b = b := by
  simp [orPass, h]

mutual

/-- Nothing has to be filled in a statement that can be compiled. -/
theorem filled_of_legal : ∀ s : Stmt, AllLegal s.nodes → s.filled = s
  | .functionDef h body, legal => by
    simp only [nodes, allLegal_cons, ownLegal, Bool.not_eq_true'] at legal
    rw [filled, filledBlock_of_legal body legal.2, orPass_of_ne legal.1.1]
  | .classDef h body, legal => by
    simp only [nodes, allLegal_cons, ownLegal, Bool.not_eq_true'] at legal
    rw [filled, filledBlock_of_legal body legal.2, orPass_of_ne legal.1.1]
  | .forLoop _ _ _ body orelse, legal => by
    simp only [nodes, allLegal_cons, allLegal_append, ownLegal, Bool.and_eq_true,
      Bool.not_eq_true'] at legal
    rw [filled, filledBlock_of_legal body legal.2.1, filledBlock_of_legal orelse legal.2.2,
      orPass_of_ne legal.1.1.2]
  | .whileLoop _ body orelse, legal => by
    simp only [nodes, allLegal_cons, allLegal_append, ownLegal, Bool.not_eq_true'] at legal
    rw [filled, filledBlock_of_legal body legal.2.1, filledBlock_of_legal orelse legal.2.2,
      orPass_of_ne legal.1.1]
  | .ifStmt _ body orelse, legal => by
    simp only [nodes, allLegal_cons, allLegal_append, ownLegal, Bool.not_eq_true'] at legal
    rw [filled, filledBlock_of_legal body legal.2.1, filledBlock_of_legal orelse legal.2.2,
      orPass_of_ne legal.1.1]
  | .withStmt _ _ body, legal => by
    simp only [nodes, allLegal_cons, ownLegal, Bool.and_eq_true, Bool.not_eq_true'] at legal
    rw [filled, filledBlock_of_legal body legal.2, orPass_of_ne legal.1.1.2]
  | .matchStmt _ cases, legal => by
    simp only [nodes, allLegal_cons, ownLegal] at legal
    rw [filled, filledCases_of_legal cases (List.all_eq_true.1 legal.1.1) legal.2]
  | .tryStmt isGroup body handlers orelse finalbody, legal => by
    simp only [nodes, allLegal_cons, allLegal_append, ownLegal, Bool.and_eq_true,
      Bool.not_eq_true'] at legal
    obtain ⟨⟨⟨⟨hbody, hhandlers⟩, hbare⟩, -⟩, ⟨⟨body', handlers'⟩, orelse'⟩, final'⟩ := legal
    have hfinal : (if !isGroup && handlers.isEmpty then orPass (filledBlock finalbody)
        else filledBlock finalbody) = finalbody := by
      rw [filledBlock_of_legal finalbody final']
      split_ifs with hempty
      · refine orPass_of_ne ?_
        simp only [Bool.and_eq_true] at hempty
        simpa [hempty.2] using hbare
      · rfl
    rw [filled, filledBlock_of_legal body body', filledBlock_of_legal orelse orelse', hfinal,
      filledHandlers_of_legal handlers (List.all_eq_true.1 hhandlers) handlers', orPass_of_ne hbody]
  | .ret _, _ | .delete _, _ | .assign _ _, _ | .augAssign _ _ _, _ | .annAssign _ _ _ _, _
  | .raise _ _, _ | .assert _ _, _ | .imports _ _, _ | .scope _ _, _ | .expr _, _ | .jump _, _ => rfl

theorem filledBlock_of_legal : ∀ b : List Stmt, Legal b → filledBlock b = b
  | [], _ => rfl
  | s :: ss, legal => by
    rw [legal_cons] at legal
    rw [filledBlock, filled_of_legal s legal.1, filledBlock_of_legal ss legal.2]

theorem filledHandlers_of_legal : ∀ hs : List Handler, (∀ h ∈ hs, (!h.body.isEmpty) = true) →
    AllLegal (nodesHandlers hs) → filledHandlers hs = hs
  | [], _, _ => rfl
  | h :: hs, full, legal => by
    rw [nodesHandlers, allLegal_append] at legal
    rw [List.forall_mem_cons] at full
    rw [filledHandlers, filledHandler_of_legal h full.1 legal.1,
      filledHandlers_of_legal hs full.2 legal.2]

theorem filledHandler_of_legal : ∀ h : Handler, (!h.body.isEmpty) = true →
    AllLegal (nodesHandler h) → filledHandler h = h
  | ⟨_, _, body⟩, full, legal => by
    rw [filledHandler, filledBlock_of_legal body legal, orPass_of_ne (by simpa using full)]

theorem filledCases_of_legal : ∀ cs : List MatchCase, (∀ c ∈ cs, (!c.body.isEmpty) = true) →
    AllLegal (nodesCases cs) → filledCases cs = cs
  | [], _, _ => rfl
  | c :: cs, full, legal => by
    rw [nodesCases, allLegal_append] at legal
    rw [List.forall_mem_cons] at full
    rw [filledCases, filledCase_of_legal c full.1 legal.1,
      filledCases_of_legal cs full.2 legal.2]

theorem filledCase_of_legal : ∀ c : MatchCase, (!c.body.isEmpty) = true →
    AllLegal (nodesCase c) → filledCase c = c
  | ⟨_, _, body⟩, full, legal => by
    rw [filledCase, filledBlock_of_legal body legal, orPass_of_ne (by simpa using full)]

end

end Stmt

end StateWeave
