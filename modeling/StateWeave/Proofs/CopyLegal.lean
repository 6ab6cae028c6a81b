import StateWeave.Proofs.Legal
import StateWeave.Proofs.Retained

/-! Whether a copied initializer can be compiled. Statements can be dropped anywhere in it, so blocks
that must hold something can lose all they hold, and a `try` without handlers its final block.
Filling repairs both, except for a `try` that handles groups. -/

namespace StateWeave

open StateWeave.Expr

theorem body_filledHandler (h : Handler) : (filledHandler h).body = orPass (filledBlock h.body) := by
  cases h
  rfl

theorem body_filledCase (c : MatchCase) : (filledCase c).body = orPass (filledBlock c.body) := by
  cases c
  rfl

theorem filledBlock_append (b d : Block) :
    filledBlock (b ++ d) = filledBlock b ++ filledBlock d := by
  rw [filledBlock_eq_map, filledBlock_eq_map, filledBlock_eq_map, List.map_append]

namespace ClassScope

section Vanishing

variable (s : ClassScope)

/-- Whether nothing is left of a statement in a copy. -/
def vanishes : Stmt → Bool
  | .assign [.name id _] _ => s.inScope id && s.retains id
  | .annAssign _ _ none _ => true
  | .annAssign (.name id _) _ (some _) _ => s.inScope id && s.retains id
  | .augAssign target _ _ => s.isRetainedName target
  | .delete targets => targets.all s.isRetainedName
  | _ => false

/-- Whether a statement is a `try` for groups, without handlers, that loses its final block. -/
def leavesBare : Stmt → Bool
  | .tryStmt true _ [] _ finalbody => finalbody.all s.vanishes
  | _ => false

end Vanishing

variable {s : ClassScope}

theorem rewriteStore_eq_nil (id : String) (ctx : Ctx) {value : Expr} {general : Stmt} :
    s.rewriteStore (.name id ctx) value general = [] ↔ (s.inScope id && s.retains id) = true := by
  rw [rewriteStore]
  split_ifs <;> simp_all

theorem rewriteStmt_eq_nil (x : Stmt) : s.rewriteStmt x = [] ↔ s.vanishes x = true := by
  cases x with
  | assign targets value =>
    rcases targets with - | ⟨target, - | ⟨next, rest⟩⟩
    · simp [rewriteStmt, rewriteAssign, vanishes]
    · cases target with
      | name id ctx => exact rewriteStore_eq_nil id ctx
      | _ => simp [rewriteStmt, rewriteAssign, rewriteStore, vanishes]
    · simp [rewriteStmt, rewriteAssign, vanishes]
  | annAssign target annot value simple =>
    cases value with
    | none => simp [rewriteStmt, rewriteAnnAssign, vanishes]
    | some value =>
      cases target with
      | name id ctx => exact rewriteStore_eq_nil id ctx
      | _ => simp [rewriteStmt, rewriteAnnAssign, rewriteStore, vanishes]
  | augAssign target op value =>
    rw [rewriteStmt, rewriteAugAssign, vanishes]
    split_ifs <;> simp_all
  | delete targets =>
    have dropped : s.keptTargets targets = [] ↔ targets.all s.isRetainedName = true := by
      simp [keptTargets, List.filter_eq_nil_iff]
    rw [rewriteStmt, rewriteDelete, vanishes, ← dropped]
    split <;> simp_all
  | _ => simp [rewriteStmt, vanishes]

theorem rewriteBlock_eq_nil (b : Block) : s.rewriteBlock b = [] ↔ b.all s.vanishes = true := by
  rw [rewriteBlock_eq_flatMap, List.flatMap_eq_nil_iff, List.all_eq_true]
  exact forall₂_congr fun x _ => rewriteStmt_eq_nil x

/-! ### Rewritten statements -/

theorem loopsLegal_iff {x : Stmt} : x.loopsLegal = true ↔
    ∀ e ∈ x.evaluated, e.loopTargets.all (isTarget .store false) = true := by
  have hall : ∀ es : List Expr, (loopTargetsList es).all (isTarget .store false) = true ↔
      ∀ e ∈ es, e.loopTargets.all (isTarget .store false) = true := by
    intro es
    induction es with
    | nil => simp [loopTargetsList]
    | cons e es ih =>
      rw [loopTargetsList, List.all_append, Bool.and_eq_true, ih, List.forall_mem_cons]
  exact hall x.evaluated

/-- The expressions of one statement are from another, rewritten or as they were there. -/
def Evaluates (s : ClassScope) (y x : Stmt) : Prop :=
  ∀ e ∈ y.evaluated, ∃ d ∈ x.evaluated, e = s.rewriteExpr d ∨ e = d

/-- Such a statement has no other comprehensions. -/
theorem Evaluates.loopsLegal (hs : s.Grounded) {x y : Stmt} (evaluates : s.Evaluates y x)
    (loops : x.loopsLegal = true) : y.loopsLegal = true := by
  rw [loopsLegal_iff] at loops ⊢
  intro e he
  obtain ⟨d, hd, rfl | rfl⟩ := evaluates e he
  · rw [loopTargets_rewriteExpr hs]
    exact loops d hd
  · exact loops e hd

theorem evaluates_of_map {x y : Stmt} (same : y.evaluated = x.evaluated.map s.rewriteExpr) :
    s.Evaluates y x := by
  intro e he
  rw [same] at he
  obtain ⟨d, hd, rfl⟩ := List.mem_map.1 he
  exact ⟨d, hd, .inl rfl⟩

/-- Storing a name that a nested statement bound makes no trouble. -/
theorem legal_rebind (hs : s.Grounded) (names : List String) :
    Stmt.Legal (filledBlock (s.rebind names)) := by
  unfold rebind
  induction names.filter fun name => s.inScope name && !s.retains name with
  | nil => exact Stmt.allLegal_nil
  | cons name names ih =>
    rw [List.map_cons, filledBlock, Stmt.legal_cons]
    refine ⟨?_, ih⟩
    simp [Stmt.filled, Stmt.nodes, Stmt.ownLegal, Stmt.loopsLegal, Stmt.evaluated, isTarget, member,
      loopTargetsList, loopTargets, hs.loopTargets_owner]

/-- A statement without blocks. -/
theorem legal_simple {y : Stmt} (alone : y.nodes = [y]) (filled : y.filled = y)
    (own : y.ownLegal = true) (loops : y.loopsLegal = true) : Stmt.Legal (filledBlock [y]) := by
  rw [filledBlock, filled, filledBlock, Stmt.legal_singleton, alone, Stmt.allLegal_cons]
  exact ⟨⟨own, loops⟩, Stmt.allLegal_nil⟩

/-- A store through the runtime to a name of the class. -/
theorem legal_storeStatic (hs : s.Grounded) (name : String) {value : Expr}
    (loops : value.loopTargets.all (isTarget .store false) = true) :
    Stmt.Legal (filledBlock [.expr (s.storeStatic name value)]) := by
  refine legal_simple rfl rfl rfl (loopsLegal_iff.2 ?_)
  rwa [Stmt.evaluated, List.forall_mem_singleton, loopTargets_storeStatic hs]

theorem legal_rewriteStore (hs : s.Grounded) {target value : Expr} {general : Stmt}
    (loops : value.loopTargets.all (isTarget .store false) = true)
    (legal : Stmt.Legal (filledBlock [general])) :
    Stmt.Legal (filledBlock (s.rewriteStore target value general)) := by
  unfold rewriteStore
  split
  · split_ifs
    · exact legal
    · exact Stmt.allLegal_nil
    · exact legal_storeStatic hs _ loops
  · exact legal

theorem legal_rewriteAssign (hs : s.Grounded) {targets : List Expr} {value : Expr}
    (own : (Stmt.assign targets value).ownLegal = true)
    (loops : (Stmt.assign targets value).loopsLegal = true) :
    Stmt.Legal (filledBlock (s.rewriteAssign targets value)) := by
  have hvalue : (s.rewriteExpr value).loopTargets.all (isTarget .store false) = true := by
    rw [loopTargets_rewriteExpr hs]
    exact loopsLegal_iff.1 loops value (by simp [Stmt.evaluated])
  have hgeneral : Stmt.Legal
      (filledBlock [.assign (s.rewriteExprs targets) (s.rewriteExpr value)]) := by
    refine legal_simple rfl rfl ?_ (Evaluates.loopsLegal hs (evaluates_of_map ?_) loops)
    · simp only [Stmt.ownLegal, Bool.and_eq_true, rewriteExprs_eq_map, List.isEmpty_map,
        List.all_map, List.all_eq_true] at own ⊢
      exact ⟨own.1, fun e he => isTarget_rewriteExpr e (own.2 e he)⟩
    · simp [Stmt.evaluated, rewriteExprs_eq_map]
  unfold rewriteAssign
  split
  · exact legal_rewriteStore hs hvalue hgeneral
  · exact hgeneral

theorem legal_rewriteAnnAssign (hs : s.Grounded) {target annot : Expr} {value : Option Expr}
    {simple : Option Int} (own : (Stmt.annAssign target annot value simple).ownLegal = true)
    (loops : (Stmt.annAssign target annot value simple).loopsLegal = true) :
    Stmt.Legal (filledBlock (s.rewriteAnnAssign target value)) := by
  cases value with
  | none => exact Stmt.allLegal_nil
  | some value =>
    have hvalue : (s.rewriteExpr value).loopTargets.all (isTarget .store false) = true := by
      rw [loopTargets_rewriteExpr hs]
      exact loopsLegal_iff.1 loops value (by simp [Stmt.evaluated])
    refine legal_rewriteStore hs hvalue (legal_simple rfl rfl ?_ ?_)
    · simpa [Stmt.ownLegal] using isTarget_of_isPlace false (isPlace_rewriteExpr own)
    · refine Evaluates.loopsLegal hs (x := .annAssign target annot (some value) simple) ?_ loops
      simp [Evaluates, Stmt.evaluated]

theorem legal_rewriteAugAssign (hs : s.Grounded) {target : Expr} {op : BinOp} {value : Expr}
    (own : (Stmt.augAssign target op value).ownLegal = true)
    (loops : (Stmt.augAssign target op value).loopsLegal = true) :
    Stmt.Legal (filledBlock (s.rewriteAugAssign target op value)) := by
  unfold rewriteAugAssign
  split_ifs
  · exact Stmt.allLegal_nil
  · refine legal_simple rfl rfl (isPlace_rewriteExpr own) ?_
    exact Evaluates.loopsLegal hs (evaluates_of_map rfl) loops

theorem legal_rewriteDelete (hs : s.Grounded) {targets : List Expr}
    (own : (Stmt.delete targets).ownLegal = true)
    (loops : (Stmt.delete targets).loopsLegal = true) :
    Stmt.Legal (filledBlock (s.rewriteDelete targets)) := by
  have hkept : ∀ e ∈ s.keptTargets targets, e ∈ targets := fun e he => (List.mem_filter.1 he).1
  unfold rewriteDelete
  split
  · exact Stmt.allLegal_nil
  · next hne =>
    simp only [Stmt.ownLegal, Bool.and_eq_true, List.all_eq_true] at own
    refine legal_simple rfl rfl ?_ (Evaluates.loopsLegal hs (x := .delete targets) ?_ loops)
    · simp only [Stmt.ownLegal, rewriteExprs_eq_map, List.isEmpty_map, List.all_map,
        Bool.and_eq_true, Bool.not_eq_true', List.isEmpty_eq_false_iff, List.all_eq_true]
      exact ⟨hne, fun e he => isTarget_rewriteExpr e (own.2 e (hkept e he))⟩
    · intro e he
      rw [Stmt.evaluated, rewriteExprs_eq_map] at he
      obtain ⟨d, hd, rfl⟩ := List.mem_map.1 he
      exact ⟨d, hkept d hd, .inl rfl⟩

/-- A definition keeps its body; the class then stores what it bound. -/
theorem legal_functionDef (hs : s.Grounded) {h : FunctionHeader} {body : Block}
    (legal : Stmt.AllLegal (Stmt.functionDef h body).nodes) :
    Stmt.Legal (filledBlock (s.rewriteStmt (.functionDef h body))) := by
  simp only [Stmt.nodes, Stmt.allLegal_cons] at legal
  obtain ⟨⟨own, loops⟩, inside⟩ := legal
  have hloops : (Stmt.functionDef (s.rewriteFunction h) body).loopsLegal = true := by
    refine Evaluates.loopsLegal hs (x := .functionDef h body) ?_ loops
    intro e he
    rw [Stmt.evaluated, evaluated_rewriteFunction, annots_rewriteFunction] at he
    rcases List.mem_append.1 he with he | he
    · obtain ⟨d, hd, rfl⟩ := List.mem_map.1 he
      exact ⟨d, List.mem_append_left _ hd, .inl rfl⟩
    · exact ⟨e, List.mem_append_right _ he, .inr rfl⟩
  have hdef : Stmt.AllLegal (Stmt.functionDef (s.rewriteFunction h) body).nodes := by
    rw [Stmt.nodes, Stmt.allLegal_cons]
    exact ⟨⟨own, hloops⟩, inside⟩
  rw [rewriteStmt, filledBlock, Stmt.legal_cons, Stmt.filled_of_legal _ hdef]
  exact ⟨hdef, legal_rebind hs _⟩

theorem legal_classDef (hs : s.Grounded) {h : ClassHeader} {body : Block}
    (legal : Stmt.AllLegal (Stmt.classDef h body).nodes) :
    Stmt.Legal (filledBlock (s.rewriteStmt (.classDef h body))) := by
  simp only [Stmt.nodes, Stmt.allLegal_cons] at legal
  obtain ⟨⟨own, loops⟩, inside⟩ := legal
  have hloops : (Stmt.classDef (s.rewriteClass h) body).loopsLegal = true :=
    Evaluates.loopsLegal hs (x := .classDef h body)
      (evaluates_of_map (evaluated_rewriteClass s h)) loops
  have hdef : Stmt.AllLegal (Stmt.classDef (s.rewriteClass h) body).nodes := by
    rw [Stmt.nodes, Stmt.allLegal_cons]
    exact ⟨⟨own, hloops⟩, inside⟩
  rw [rewriteStmt, filledBlock, Stmt.legal_cons, Stmt.filled_of_legal _ hdef]
  exact ⟨hdef, legal_rebind hs _⟩

theorem legal_imports (hs : s.Grounded) (source : ImportSource) (names : List Alias) :
    Stmt.Legal (filledBlock (s.rewriteStmt (.imports source names))) := by
  rw [rewriteStmt, filledBlock, Stmt.legal_cons]
  exact ⟨Stmt.allLegal_cons.2 ⟨⟨rfl, rfl⟩, Stmt.allLegal_nil⟩, legal_rebind hs _⟩

/-- None of these statements is left bare. -/
def Spares (s : ClassScope) (parts : List Stmt) : Prop :=
  ∀ y ∈ parts, s.leavesBare y = false

instance (s : ClassScope) (parts : List Stmt) : Decidable (s.Spares parts) :=
  inferInstanceAs (Decidable (∀ y ∈ parts, s.leavesBare y = false))

theorem spares_cons {x : Stmt} {xs : List Stmt} :
    s.Spares (x :: xs) ↔ s.leavesBare x = false ∧ s.Spares xs :=
  List.forall_mem_cons

theorem spares_append {xs ys : List Stmt} : s.Spares (xs ++ ys) ↔ s.Spares xs ∧ s.Spares ys :=
  List.forall_mem_append

/-- A statement that is legal when its blocks are filled, and that has no final block to lose. -/
theorem spares_simple {x : Stmt} {b : Block} (alone : x.parts = [x]) (other : s.leavesBare x = false)
    (legal : Stmt.Legal (filledBlock b)) : Stmt.Legal (filledBlock b) ↔ s.Spares x.parts := by
  refine iff_of_true legal ?_
  rw [alone, spares_cons]
  exact ⟨other, nofun⟩

/-- A rewritten statement with blocks is legal as far as it is so itself and its filled blocks are. -/
theorem legal_filled_iff (hs : s.Grounded) {x y : Stmt} {inside parts : List Stmt}
    (nodes : y.filled.nodes = y.filled :: inside) (same : y.evaluated = x.evaluated.map s.rewriteExpr)
    (loops : x.loopsLegal = true) (alone : x.parts = x :: parts)
    (own : y.filled.ownLegal = true ↔ s.leavesBare x = false)
    (blocks : Stmt.AllLegal inside ↔ s.Spares parts) :
    Stmt.Legal (filledBlock [y]) ↔ s.Spares x.parts := by
  have loops' : y.filled.loopsLegal = true := by
    rw [Stmt.loopsLegal, Stmt.evaluated_filled]
    exact Evaluates.loopsLegal hs (evaluates_of_map same) loops
  rw [filledBlock, filledBlock, Stmt.legal_singleton, nodes, Stmt.allLegal_cons, alone, spares_cons,
    own, blocks, and_iff_left loops']

/-- A block that has to hold something, and one behind it that need not. -/
theorem legal_bodyElse {b d : Block} {ps qs : List Stmt}
    (body : Stmt.Legal (filledBlock b) ↔ s.Spares ps)
    (orelse : Stmt.Legal (filledBlock d) ↔ s.Spares qs) :
    Stmt.AllLegal (Stmt.nodesBlock (orPass (filledBlock b)) ++ Stmt.nodesBlock (filledBlock d)) ↔
      s.Spares (ps ++ qs) := by
  rw [Stmt.allLegal_append, spares_append]
  exact and_congr (Stmt.legal_orPass.trans body) orelse

theorem ownLegal_tryStmt (isGroup : Bool) (body : Block) (handlers : List Handler)
    (orelse finalbody body' orelse' : Block) :
    (Stmt.tryStmt isGroup (s.rewriteBlock body) (s.rewriteHandlers handlers) (s.rewriteBlock orelse)
        (s.rewriteBlock finalbody)).filled.ownLegal = true ↔
      s.leavesBare (.tryStmt isGroup body' handlers orelse' finalbody) = false := by
  have full : (filledHandlers (s.rewriteHandlers handlers)).all (fun h => !h.body.isEmpty) = true := by
    simp [filledHandlers_eq_map, body_filledHandler, Stmt.isEmpty_orPass]
  have lost : (filledBlock (s.rewriteBlock finalbody)).isEmpty = finalbody.all s.vanishes := by
    rw [Bool.eq_iff_iff, ← rewriteBlock_eq_nil, filledBlock_eq_map, List.isEmpty_map,
      List.isEmpty_iff]
  rw [Stmt.filled, Stmt.ownLegal, full]
  cases handlers with
  | cons h handlers =>
    cases isGroup <;> simp [Stmt.isEmpty_orPass, rewriteHandlers, filledHandlers, leavesBare]
  | nil =>
    cases isGroup with
    | false => simp [Stmt.isEmpty_orPass, rewriteHandlers, filledHandlers, leavesBare]
    | true => simp [Stmt.isEmpty_orPass, rewriteHandlers, filledHandlers, leavesBare, lost]

theorem targets_rewriteWithItem {items : List WithItem}
    (own : items.all (fun item => item.target.all (isTarget .store false)) = true) :
    (items.map s.rewriteWithItem).all (fun item => item.target.all (isTarget .store false)) =
      true := by
  rw [List.all_eq_true] at own
  rw [List.all_map, List.all_eq_true]
  intro item hitem
  have target := own item hitem
  obtain ⟨context, _ | e⟩ := item
  · rfl
  · exact isTarget_rewriteExpr e target

mutual

/-- What a statement becomes is legal unless a `try` for groups in it is left bare. -/
theorem legal_rewriteStmt (hs : s.Grounded) : ∀ x : Stmt, Stmt.AllLegal x.nodes →
    (Stmt.Legal (filledBlock (s.rewriteStmt x)) ↔ s.Spares x.parts)
  | .functionDef _ _, legal => spares_simple rfl rfl (legal_functionDef hs legal)
  | .classDef _ _, legal => spares_simple rfl rfl (legal_classDef hs legal)
  | .imports source names, _ => spares_simple rfl rfl (legal_imports hs source names)
  | .delete _, legal =>
    spares_simple rfl rfl (legal_rewriteDelete hs (legal _ List.mem_cons_self).1
      (legal _ List.mem_cons_self).2)
  | .assign _ _, legal =>
    spares_simple rfl rfl (legal_rewriteAssign hs (legal _ List.mem_cons_self).1
      (legal _ List.mem_cons_self).2)
  | .augAssign _ _ _, legal =>
    spares_simple rfl rfl (legal_rewriteAugAssign hs (legal _ List.mem_cons_self).1
      (legal _ List.mem_cons_self).2)
  | .annAssign _ _ _ _, legal =>
    spares_simple rfl rfl (legal_rewriteAnnAssign hs (legal _ List.mem_cons_self).1
      (legal _ List.mem_cons_self).2)
  | .ret value, legal =>
    spares_simple rfl rfl (legal_simple rfl rfl rfl (Evaluates.loopsLegal hs (x := .ret value)
      (evaluates_of_map (s.toList_rewriteOption value)) (legal _ List.mem_cons_self).2))
  | .raise exc cause, legal => by
    refine spares_simple rfl rfl (legal_simple rfl rfl rfl (Evaluates.loopsLegal hs
      (evaluates_of_map ?_) (legal _ List.mem_cons_self).2))
    simp only [Stmt.evaluated, List.map_append, toList_rewriteOption]
  | .assert test msg, legal => by
    refine spares_simple rfl rfl (legal_simple rfl rfl rfl (Evaluates.loopsLegal hs
      (evaluates_of_map ?_) (legal _ List.mem_cons_self).2))
    simp only [Stmt.evaluated, List.map_cons, toList_rewriteOption]
  | .expr _, legal =>
    spares_simple rfl rfl (legal_simple rfl rfl rfl (Evaluates.loopsLegal hs
      (evaluates_of_map rfl) (legal _ List.mem_cons_self).2))
  | .scope _ _, _ => spares_simple rfl rfl (legal_simple rfl rfl rfl rfl)
  | .jump _, _ => spares_simple rfl rfl (legal_simple rfl rfl rfl rfl)
  | .forLoop isAsync target iter body orelse, legal => by
    simp only [Stmt.nodes, Stmt.allLegal_cons, Stmt.allLegal_append] at legal
    obtain ⟨⟨own, loops⟩, inBody, inElse⟩ := legal
    refine legal_filled_iff hs rfl rfl loops rfl ?_
      (legal_bodyElse (legal_rewriteBlock hs body inBody) (legal_rewriteBlock hs orelse inElse))
    simp only [Stmt.ownLegal, Bool.and_eq_true] at own
    simp [Stmt.filled, Stmt.ownLegal, Stmt.isEmpty_orPass, isTarget_rewriteExpr target own.1,
      leavesBare]
  | .whileLoop test body orelse, legal => by
    simp only [Stmt.nodes, Stmt.allLegal_cons, Stmt.allLegal_append] at legal
    obtain ⟨⟨-, loops⟩, inBody, inElse⟩ := legal
    refine legal_filled_iff hs rfl rfl loops rfl ?_
      (legal_bodyElse (legal_rewriteBlock hs body inBody) (legal_rewriteBlock hs orelse inElse))
    simp [Stmt.filled, Stmt.ownLegal, Stmt.isEmpty_orPass, leavesBare]
  | .ifStmt test body orelse, legal => by
    simp only [Stmt.nodes, Stmt.allLegal_cons, Stmt.allLegal_append] at legal
    obtain ⟨⟨-, loops⟩, inBody, inElse⟩ := legal
    refine legal_filled_iff hs rfl rfl loops rfl ?_
      (legal_bodyElse (legal_rewriteBlock hs body inBody) (legal_rewriteBlock hs orelse inElse))
    simp [Stmt.filled, Stmt.ownLegal, Stmt.isEmpty_orPass, leavesBare]
  | .withStmt isAsync items body, legal => by
    simp only [Stmt.nodes, Stmt.allLegal_cons] at legal
    obtain ⟨⟨own, loops⟩, inBody⟩ := legal
    refine legal_filled_iff hs rfl ?_ loops rfl ?_
      (Stmt.legal_orPass.trans (legal_rewriteBlock hs body inBody))
    · simp only [Stmt.evaluated, List.flatMap_map, List.map_flatMap, evaluated_rewriteWithItem]
    · refine iff_of_true ?_ rfl
      simp only [Stmt.ownLegal, Bool.and_eq_true] at own
      simp only [Stmt.filled, Stmt.ownLegal, Stmt.isEmpty_orPass, Bool.not_false, Bool.and_true]
      exact targets_rewriteWithItem own.1
  | .matchStmt subject cases, legal => by
    simp only [Stmt.nodes, Stmt.allLegal_cons] at legal
    obtain ⟨⟨-, loops⟩, inCases⟩ := legal
    refine legal_filled_iff hs rfl ?_ loops rfl ?_ (legal_rewriteCases hs cases inCases)
    · simp only [Stmt.evaluated, List.map_cons, rewriteCases_eq_map, List.flatMap_map,
        List.map_flatMap, evaluated_rewriteCase]
    · simp [Stmt.filled, Stmt.ownLegal, filledCases_eq_map, body_filledCase, Stmt.isEmpty_orPass,
        leavesBare]
  | .tryStmt isGroup body handlers orelse finalbody, legal => by
    simp only [Stmt.nodes, Stmt.allLegal_cons, Stmt.allLegal_append] at legal
    obtain ⟨⟨-, loops⟩, ⟨⟨inBody, inHandlers⟩, inElse⟩, inFinal⟩ := legal
    refine legal_filled_iff hs rfl ?_ loops rfl (ownLegal_tryStmt ..) ?_
    · simp only [Stmt.evaluated, rewriteHandlers_eq_map, List.flatMap_map, List.map_flatMap,
        type_rewriteHandler]
    · have inFinal' : Stmt.AllLegal (Stmt.nodesBlock
          (if !isGroup && (s.rewriteHandlers handlers).isEmpty then
            orPass (filledBlock (s.rewriteBlock finalbody))
          else filledBlock (s.rewriteBlock finalbody))) ↔ s.Spares (Stmt.partsBlock finalbody) := by
        split_ifs
        · exact Stmt.legal_orPass.trans (legal_rewriteBlock hs finalbody inFinal)
        · exact legal_rewriteBlock hs finalbody inFinal
      simp only [Stmt.allLegal_append, spares_append]
      exact and_congr (and_congr (and_congr
        (Stmt.legal_orPass.trans (legal_rewriteBlock hs body inBody))
        (legal_rewriteHandlers hs handlers inHandlers)) (legal_rewriteBlock hs orelse inElse)) inFinal'

theorem legal_rewriteBlock (hs : s.Grounded) : ∀ b : List Stmt, Stmt.Legal b →
    (Stmt.Legal (filledBlock (s.rewriteBlock b)) ↔ s.Spares (Stmt.partsBlock b))
  | [], _ => iff_of_true Stmt.allLegal_nil nofun
  | x :: xs, legal => by
    rw [Stmt.legal_cons] at legal
    rw [rewriteBlock, filledBlock_append, Stmt.legal_append, Stmt.partsBlock, spares_append,
      legal_rewriteStmt hs x legal.1, legal_rewriteBlock hs xs legal.2]

theorem legal_rewriteHandlers (hs : s.Grounded) : ∀ hdls : List Handler,
    Stmt.AllLegal (Stmt.nodesHandlers hdls) →
    (Stmt.AllLegal (Stmt.nodesHandlers (filledHandlers (s.rewriteHandlers hdls))) ↔
      s.Spares (Stmt.partsHandlers hdls))
  | [], _ => iff_of_true Stmt.allLegal_nil nofun
  | h :: hdls, legal => by
    rw [Stmt.nodesHandlers, Stmt.allLegal_append] at legal
    rw [rewriteHandlers, filledHandlers, Stmt.nodesHandlers, Stmt.allLegal_append,
      Stmt.partsHandlers, spares_append, legal_rewriteHandler hs h legal.1,
      legal_rewriteHandlers hs hdls legal.2]

theorem legal_rewriteHandler (hs : s.Grounded) : ∀ h : Handler,
    Stmt.AllLegal (Stmt.nodesHandler h) →
    (Stmt.AllLegal (Stmt.nodesHandler (filledHandler (s.rewriteHandler h))) ↔
      s.Spares (Stmt.partsHandler h))
  | ⟨_, _, body⟩, legal => Stmt.legal_orPass.trans (legal_rewriteBlock hs body legal)

theorem legal_rewriteCases (hs : s.Grounded) : ∀ cs : List MatchCase,
    Stmt.AllLegal (Stmt.nodesCases cs) →
    (Stmt.AllLegal (Stmt.nodesCases (filledCases (s.rewriteCases cs))) ↔
      s.Spares (Stmt.partsCases cs))
  | [], _ => iff_of_true Stmt.allLegal_nil nofun
  | c :: cs, legal => by
    rw [Stmt.nodesCases, Stmt.allLegal_append] at legal
    rw [rewriteCases, filledCases, Stmt.nodesCases, Stmt.allLegal_append, Stmt.partsCases,
      spares_append, legal_rewriteCase hs c legal.1, legal_rewriteCases hs cs legal.2]

theorem legal_rewriteCase (hs : s.Grounded) : ∀ c : MatchCase,
    Stmt.AllLegal (Stmt.nodesCase c) →
    (Stmt.AllLegal (Stmt.nodesCase (filledCase (s.rewriteCase c))) ↔
      s.Spares (Stmt.partsCase c))
  | ⟨_, _, body⟩, legal => Stmt.legal_orPass.trans (legal_rewriteBlock hs body legal)

end

theorem spares_partsBlock {b : Block} :
    s.Spares (Stmt.partsBlock b) ↔ ∀ x ∈ b, s.Spares x.parts := by
  induction b with
  | nil => exact iff_of_true nofun nofun
  | cons x b ih => rw [Stmt.partsBlock, spares_append, ih, List.forall_mem_cons]

end ClassScope

/-! ### Copies of initializers -/

namespace Stmt

theorem legal_iff_forall {b : Block} : Legal b ↔ ∀ x ∈ b, AllLegal x.nodes := by
  induction b with
  | nil => exact iff_of_true allLegal_nil nofun
  | cons x b ih => rw [legal_cons, ih, List.forall_mem_cons]

end Stmt

theorem ClassTree.readBody_initializer (b : Block) :
    ∀ {t t' : ClassTree} {enums enums' : List String} {index : Nat},
      readBody t enums index b = .ok (t', enums') →
      ∀ p ∈ t'.cls.initializer, p ∈ t.cls.initializer ∨ p.2 ∈ b := by
  induction b with
  | nil =>
    intro t t' enums enums' index hr p hp
    cases hr
    exact .inl hp
  | cons x b ih =>
    intro t t' enums enums' index hr p hp
    rcases readBody_cons_cases hr with ⟨-, c, step, -, hrest⟩ | ⟨h, body, n, later, -, -, hrest⟩
    · rcases ih hrest p hp with hp | hp
      · rcases step.mem_initializer p hp with hp | same
        · exact .inl hp
        · exact .inr (same ▸ List.mem_cons_self)
      · exact .inr (List.mem_cons_of_mem _ hp)
    · exact (ih hrest p hp).imp_right (List.mem_cons_of_mem _)

/-- The state statements of a class are statements of its body. -/
theorem ClassTree.mem_body_of_initializer {place : List Nat} {outer enums enums' : List String}
    {h : ClassHeader} {body : Block} {t : ClassTree}
    (hread : read place outer enums h body = .ok (t, enums')) :
    ∀ p ∈ t.cls.initializer, p.2 ∈ body := by
  intro p hp
  obtain ⟨params, -, ⟨-, -, rfl⟩ | ⟨-, u, hu, rfl⟩⟩ := read_cases hread
  · cases hp
  · exact (readBody_initializer body hu p hp).resolve_left nofun

/-- The state statements of a class that can be compiled can be compiled. -/
theorem ClassTree.legal_initializer {place : List Nat} {outer enums enums' : List String}
    {h : ClassHeader} {body : Block} {t : ClassTree}
    (hread : read place outer enums h body = .ok (t, enums')) (legal : Stmt.Legal body) :
    Stmt.Legal (t.cls.initializer.map (·.2)) := by
  rw [Stmt.legal_iff_forall, List.forall_mem_map]
  exact fun p hp => Stmt.legal_iff_forall.1 legal _ (mem_body_of_initializer hread p hp)

theorem ClassTree.named_of_read {place : List Nat} {outer enums enums' : List String}
    {h : ClassHeader} {body : Block} {t : ClassTree}
    (hread : read place outer enums h body = .ok (t, enums')) : t.cls.Named := by
  obtain ⟨cls, nested⟩ := t
  exact read_kept ClassModel.named_kept hread cls List.mem_cons_self

/-- The header of a unit has no comprehensions. -/
theorem loopsLegal_unitFunction (runtimeAlias : String) (c : ClassModel) (name : String)
    (body : Block) : (Weave.unitFunction runtimeAlias c name body).loopsLegal = true := by
  have params (names : List String) : (Params.ofNames names).written = [] ∧
      (Params.ofNames names).annots = [] := by
    simp [Params.written, Params.annots, Params.ofNames]
  simp [Stmt.loopsLegal, Weave.unitFunction, Stmt.evaluated, FunctionHeader.evaluated,
    FunctionHeader.annots, ClassModel.unitHeader, params, loopTargetsList, loopTargets]

/-- A `try` for groups that has no handlers. -/
def Stmt.isBareGroup : Stmt → Bool
  | .tryStmt true _ [] _ _ => true
  | _ => false

theorem ClassScope.leavesBare_eq_false (s : ClassScope) {x : Stmt} (handled : x.isBareGroup = false) :
    s.leavesBare x = false := by
  unfold leavesBare
  split
  · cases handled
  · rfl

/-- The copy of the initializer of a class that can be compiled can be compiled, unless a `try` for
groups in its state statements has no handlers and loses all of its final block. -/
theorem copy_legal_iff {place : List Nat} {outer enums enums' : List String} {h : ClassHeader}
    {body : Block} {t : ClassTree} {u v : ReloadUnit} {f : Stmt} {runtimeAlias : String}
    (hread : ClassTree.read place outer enums h body = .ok (t, enums')) (legal : Stmt.Legal body)
    (hu : u ∈ ReloadUnit.copy? t.cls) (hv : u.qualify = .ok v) (hf : v.render runtimeAlias = .ok f) :
    (Stmt.Legal [f] ↔
      ∀ p ∈ t.cls.initializer, (t.cls.copyScope runtimeAlias).Spares p.2.parts) ∧
    ((∀ p ∈ t.cls.initializer, ∀ x ∈ p.2.parts, x.isBareGroup = false) → Stmt.Legal [f]) := by
  have named := ClassTree.named_of_read hread
  have state := ClassTree.legal_initializer hread legal
  have exact : Stmt.Legal [f] ↔
      ∀ p ∈ t.cls.initializer, (t.cls.copyScope runtimeAlias).Spares p.2.parts := by
    rw [ReloadUnit.render_copy hu hv hf, Stmt.legal_singleton, Weave.unitFunction, Stmt.nodes,
      Stmt.allLegal_cons]
    have copied := Stmt.legal_orPass.trans
      (ClassScope.legal_rewriteBlock (named.grounded runtimeAlias) _ state)
    rw [ClassScope.spares_partsBlock, List.forall_mem_map] at copied
    refine (and_iff_right ⟨?_, loopsLegal_unitFunction ..⟩).trans copied
    simp [Stmt.ownLegal, Weave.copiedBody, Stmt.isEmpty_orPass]
  refine ⟨exact, fun handled => exact.2 fun p hp x hx => ?_⟩
  exact ClassScope.leavesBare_eq_false _ (handled p hp x hx)

/-- Two names, the first one opted out. Only the final block of a `try` for groups stores it anew. -/
def guarded : Block :=
  [.annAssign (.name "x" .store) (optedOutOf "int") (some (.constant (.int 1))) (some 1),
    .assign [.name "y" .store] (.constant (.int 2)),
    .tryStmt true [.pass] [] [] [.assign [.name "x" .store] (.constant (.int 3))]]

/-- In the copy that `try` has neither handlers nor a final block. -/
theorem copy_legal_iff_guarded :
    ∃ t enums u v f, ClassTree.read [0] [] [] ⟨"Guarded", [], [], [], []⟩ guarded = .ok (t, enums) ∧
      Stmt.Legal guarded ∧ u ∈ ReloadUnit.copy? t.cls ∧ u.qualify = .ok v ∧
      v.render "__typereload__" = .ok f ∧ ¬Stmt.Legal [f] := by
  have legal : Stmt.Legal guarded := by decide +kernel
  have copied : ∀ t enums,
      ClassTree.read [0] [] [] ⟨"Guarded", [], [], [], []⟩ guarded = .ok (t, enums) →
      (¬∀ p ∈ t.cls.initializer, (t.cls.copyScope "__typereload__").Spares p.2.parts) ∧
        ∃ u ∈ ReloadUnit.copy? t.cls, ∃ v, u.qualify = .ok v ∧
          ∃ f, v.render "__typereload__" = .ok f := by
    rintro _ _ ⟨⟩
    exact ⟨by decide +kernel, _, rfl, _, rfl, _, rfl⟩
  obtain ⟨t, enums, hread⟩ : ∃ t enums,
      ClassTree.read [0] [] [] ⟨"Guarded", [], [], [], []⟩ guarded = .ok (t, enums) := ⟨_, _, rfl⟩
  obtain ⟨bare, u, hu, v, hv, f, hf⟩ := copied t enums hread
  have exact := (copy_legal_iff hread legal hu hv hf).1
  exact ⟨t, enums, u, v, f, hread, legal, hu, hv, hf, fun legal => bare (exact.1 legal)⟩

end StateWeave
