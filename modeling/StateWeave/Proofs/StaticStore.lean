import Mathlib.Tactic.SplitIfs
import StateWeave.Proofs.Written

/-! The stores to a class that a copied initializer makes through the runtime. Rewriting adds calls
of the alias only: of all calls of `store_static`, those through another name were there before, in
the same order. -/

namespace StateWeave

namespace Expr

mutual

/-- What the calls in an expression call, those in nested scopes included. -/
def callees : Expr → List Expr
  | .constant _ => []
  | .name _ _ => []
  | .attribute value _ _ => value.callees
  | .subscript value index _ => value.callees ++ index.callees
  | .starred value _ => value.callees
  | .sequence _ elts _ => calleesList elts
  | .set elts => calleesList elts
  | .dict keys values => calleesOptions keys ++ calleesList values
  | .boolOp _ values => calleesList values
  | .binOp left _ right => left.callees ++ right.callees
  | .unaryOp _ operand => operand.callees
  | .compare left _ comparators => left.callees ++ calleesList comparators
  | .call func args keywords =>
    func :: (func.callees ++ calleesList args ++ calleesKeywords keywords)
  | .ifExp test body orelse => test.callees ++ body.callees ++ orelse.callees
  | .walrus _ value => value.callees
  | .lambda params body => calleesParams params ++ body.callees
  | .comprehension _ element first rest =>
    element.callees ++ calleesGenerator first ++ calleesGenerators rest
  | .dictComprehension key value first rest =>
    key.callees ++ value.callees ++ calleesGenerator first ++ calleesGenerators rest
  | .await value => value.callees
  | .yield value => calleesOption value
  | .yieldFrom value => value.callees
  | .joinedStr values => calleesList values
  | .formatted value _ spec => value.callees ++ calleesOption spec
  | .slice lower upper step => calleesOption lower ++ calleesOption upper ++ calleesOption step

def calleesOption : Option Expr → List Expr
  | none => []
  | some e => e.callees

def calleesList : List Expr → List Expr
  | [] => []
  | e :: es => e.callees ++ calleesList es

def calleesOptions : List (Option Expr) → List Expr
  | [] => []
  | e :: es => calleesOption e ++ calleesOptions es

def calleesKeywords : List Keyword → List Expr
  | [] => []
  | k :: ks => calleesKeyword k ++ calleesKeywords ks

def calleesKeyword : Keyword → List Expr
  | ⟨_, value⟩ => value.callees

def calleesArgs : List Arg → List Expr
  | [] => []
  | a :: as => calleesArg a ++ calleesArgs as

def calleesArgOption : Option Arg → List Expr
  | none => []
  | some a => calleesArg a

def calleesArg : Arg → List Expr
  | ⟨_, annot⟩ => calleesOption annot

def calleesParams : Params → List Expr
  | ⟨posOnly, positional, vararg, kwOnly, kwDefaults, kwarg, defaults⟩ =>
    calleesArgs posOnly ++ calleesArgs positional ++ calleesArgOption vararg ++ calleesArgs kwOnly
      ++ calleesOptions kwDefaults ++ calleesArgOption kwarg ++ calleesList defaults

def calleesGenerators : List Generator → List Expr
  | [] => []
  | g :: gs => calleesGenerator g ++ calleesGenerators gs

def calleesGenerator : Generator → List Expr
  | ⟨target, iter, ifs, _⟩ => target.callees ++ iter.callees ++ calleesList ifs

end

theorem callees_path (head : String) (attrs : List String) : (path head attrs).callees = [] := by
  unfold path
  generalize hroot : Expr.name head .load = root
  have hcallees : root.callees = [] := by rw [← hroot]; rfl
  clear hroot
  induction attrs generalizing root with
  | nil => exact hcallees
  | cons a attrs ih => exact ih _ hcallees

end Expr

open StateWeave.Expr

def FunctionHeader.callees (h : FunctionHeader) : List Expr :=
  calleesList h.decorators ++ calleesParams h.params ++ calleesOption h.returns

def ClassHeader.callees (h : ClassHeader) : List Expr :=
  calleesList h.decorators ++ calleesList h.bases ++ calleesKeywords h.keywords

def WithItem.callees (item : WithItem) : List Expr :=
  item.context.callees ++ calleesOption item.target

namespace Pattern

mutual

def callees : Pattern → List Expr
  | .value e => e.callees
  | .singleton _ => []
  | .sequence patterns => calleesList patterns
  | .mapping keys patterns _ => Expr.calleesList keys ++ calleesList patterns
  | .classPattern cls patterns _ named =>
    cls.callees ++ calleesList patterns ++ calleesList named
  | .star _ => []
  | .capture none _ => []
  | .capture (some pattern) _ => pattern.callees
  | .alternatives patterns => calleesList patterns

def calleesList : List Pattern → List Expr
  | [] => []
  | p :: ps => p.callees ++ calleesList ps

end

end Pattern

namespace Stmt

mutual

/-- What the calls in a statement call, at any depth. -/
def callees : Stmt → List Expr
  | .functionDef h body => h.callees ++ calleesBlock body
  | .classDef h body => h.callees ++ calleesBlock body
  | .ret value => calleesOption value
  | .delete targets => calleesList targets
  | .assign targets value => calleesList targets ++ value.callees
  | .augAssign target _ value => target.callees ++ value.callees
  | .annAssign target annot value _ => target.callees ++ annot.callees ++ calleesOption value
  | .forLoop _ target iter body orelse =>
    target.callees ++ iter.callees ++ calleesBlock body ++ calleesBlock orelse
  | .whileLoop test body orelse => test.callees ++ calleesBlock body ++ calleesBlock orelse
  | .ifStmt test body orelse => test.callees ++ calleesBlock body ++ calleesBlock orelse
  | .withStmt _ items body => items.flatMap WithItem.callees ++ calleesBlock body
  | .matchStmt subject cases => subject.callees ++ calleesCases cases
  | .raise exc cause => calleesOption exc ++ calleesOption cause
  | .tryStmt _ body handlers orelse finalbody =>
    calleesBlock body ++ calleesHandlers handlers ++ calleesBlock orelse ++ calleesBlock finalbody
  | .assert test msg => test.callees ++ calleesOption msg
  | .imports _ _ => []
  | .scope _ _ => []
  | .expr value => value.callees
  | .jump _ => []

def calleesBlock : List Stmt → List Expr
  | [] => []
  | s :: ss => s.callees ++ calleesBlock ss

def calleesHandlers : List Handler → List Expr
  | [] => []
  | h :: hs => calleesHandler h ++ calleesHandlers hs

def calleesHandler : Handler → List Expr
  | ⟨type, _, body⟩ => calleesOption type ++ calleesBlock body

def calleesCases : List MatchCase → List Expr
  | [] => []
  | c :: cs => calleesCase c ++ calleesCases cs

def calleesCase : MatchCase → List Expr
  | ⟨pattern, guard, body⟩ => pattern.callees ++ calleesOption guard ++ calleesBlock body

end

theorem calleesBlock_append (b d : Block) :
    calleesBlock (b ++ d) = calleesBlock b ++ calleesBlock d := by
  induction b with
  | nil => rfl
  | cons s b ih => simp [calleesBlock, ih]

theorem calleesBlock_orPass (b : Block) : calleesBlock (orPass b) = calleesBlock b := by
  cases b <;> rfl

mutual

/-- Filling blocks adds no calls. -/
theorem callees_filled : ∀ s : Stmt, s.filled.callees = s.callees
  | .functionDef h body => by
    rw [filled, callees, callees, calleesBlock_orPass, calleesBlock_filled body]
  | .classDef h body => by
    rw [filled, callees, callees, calleesBlock_orPass, calleesBlock_filled body]
  | .forLoop _ _ _ body orelse => by
    rw [filled, callees, callees, calleesBlock_orPass, calleesBlock_filled body,
      calleesBlock_filled orelse]
  | .whileLoop _ body orelse => by
    rw [filled, callees, callees, calleesBlock_orPass, calleesBlock_filled body,
      calleesBlock_filled orelse]
  | .ifStmt _ body orelse => by
    rw [filled, callees, callees, calleesBlock_orPass, calleesBlock_filled body,
      calleesBlock_filled orelse]
  | .withStmt _ _ body => by
    rw [filled, callees, callees, calleesBlock_orPass, calleesBlock_filled body]
  | .matchStmt _ cases => by
    rw [filled, callees, callees, calleesCases_filled cases]
  | .tryStmt _ body handlers orelse finalbody => by
    have hfinal : ∀ p : Prop, [Decidable p] →
        calleesBlock (if p then orPass (filledBlock finalbody) else filledBlock finalbody) =
          calleesBlock finalbody := by
      intro p _
      split_ifs <;> simp only [calleesBlock_orPass, calleesBlock_filled finalbody]
    rw [filled, callees, callees, calleesBlock_orPass, calleesBlock_filled body,
      calleesHandlers_filled handlers, calleesBlock_filled orelse, hfinal]
  | .ret _ | .delete _ | .assign _ _ | .augAssign _ _ _ | .annAssign _ _ _ _ | .raise _ _
  | .assert _ _ | .imports _ _ | .scope _ _ | .expr _ | .jump _ => rfl

theorem calleesBlock_filled : ∀ b : List Stmt, calleesBlock (filledBlock b) = calleesBlock b
  | [] => rfl
  | s :: ss => by
    rw [filledBlock, calleesBlock, calleesBlock, callees_filled s, calleesBlock_filled ss]

theorem calleesHandlers_filled :
    ∀ hs : List Handler, calleesHandlers (filledHandlers hs) = calleesHandlers hs
  | [] => rfl
  | h :: hs => by
    rw [filledHandlers, calleesHandlers, calleesHandlers, calleesHandler_filled h,
      calleesHandlers_filled hs]

theorem calleesHandler_filled : ∀ h : Handler, calleesHandler (filledHandler h) = calleesHandler h
  | ⟨_, _, body⟩ => by
    rw [filledHandler, calleesHandler, calleesHandler, calleesBlock_orPass,
      calleesBlock_filled body]

theorem calleesCases_filled :
    ∀ cs : List MatchCase, calleesCases (filledCases cs) = calleesCases cs
  | [] => rfl
  | c :: cs => by
    rw [filledCases, calleesCases, calleesCases, calleesCase_filled c, calleesCases_filled cs]

theorem calleesCase_filled : ∀ c : MatchCase, calleesCase (filledCase c) = calleesCase c
  | ⟨_, _, body⟩ => by
    rw [filledCase, calleesCase, calleesCase, calleesBlock_orPass, calleesBlock_filled body]

end

end Stmt

theorem ClassModel.callees_ownerExpr (c : ClassModel) : c.ownerExpr.callees = [] := by
  unfold ClassModel.ownerExpr
  split_ifs
  · rfl
  · cases c.path with
    | nil => rfl
    | cons head attrs => exact Expr.callees_path head attrs

namespace ClassScope

/-- Whether a callee goes by the name of the function that stores to classes. -/
def isStore (f : Expr) : Bool :=
  f.terminalName == some "store_static"

/-- Whether it is that function of the runtime itself. -/
def isRuntimeStore (runtimeAlias : String) : Expr → Bool
  | .attribute (.name id .load) "store_static" .load => id == runtimeAlias
  | _ => false

def isForeignStore (runtimeAlias : String) (f : Expr) : Bool :=
  isStore f && !isRuntimeStore runtimeAlias f

/-- The rewritten callees store to classes through the runtime, but for as many as there were of
that name before. -/
def Stores (runtimeAlias : String) (rewritten source : List Expr) : Prop :=
  rewritten.countP (isForeignStore runtimeAlias) ≤ source.countP isStore

namespace Stores

variable {runtimeAlias : String} {xs ys xs' ys' : List Expr}

theorem nil : Stores runtimeAlias [] ys := by
  simp [Stores]

theorem same : Stores runtimeAlias xs xs :=
  List.countP_mono_left fun _ _ hf => (Bool.and_eq_true_iff.1 hf).1

theorem congr (h : Stores runtimeAlias xs xs') (hxs : xs' = ys) : Stores runtimeAlias xs ys :=
  hxs ▸ h

theorem after (h : Stores runtimeAlias xs xs') : Stores runtimeAlias xs (ys ++ xs') := by
  simp only [Stores, List.countP_append] at h ⊢
  exact Nat.le_add_left_of_le h

theorem before (h : Stores runtimeAlias xs xs') : Stores runtimeAlias xs (xs' ++ ys) := by
  simp only [Stores, List.countP_append] at h ⊢
  exact Nat.le_add_right_of_le h

theorem append (h : Stores runtimeAlias xs xs') (k : Stores runtimeAlias ys ys') :
    Stores runtimeAlias (xs ++ ys) (xs' ++ ys') := by
  simp only [Stores, List.countP_append] at h k ⊢
  exact Nat.add_le_add h k

theorem cons {f g : Expr} (hf : isForeignStore runtimeAlias f = true → isStore g = true)
    (h : Stores runtimeAlias xs xs') : Stores runtimeAlias (f :: xs) (g :: xs') := by
  simp only [Stores, List.countP_cons] at h ⊢
  split_ifs with hfore hstore
  · exact Nat.add_le_add_right h 1
  · exact absurd (hf hfore) hstore
  · exact Nat.le_add_right_of_le h
  · exact h

end Stores

open StateWeave.Expr

variable (s : ClassScope)

theorem isStore_of_rewritten (f : Expr)
    (h : isForeignStore s.runtimeAlias (s.rewriteExpr f) = true) : isStore f = true := by
  have h := (Bool.and_eq_true_iff.1 h).1
  cases f with
  | name id ctx =>
    rw [rewriteExpr, rewriteName] at h
    split_ifs at h
    · exact h
    · simp [isStore, terminalName, discardName] at h
    · exact h
  | walrus target value =>
    rw [rewriteExpr, rewriteWalrus] at h
    split_ifs at h <;> simp [isStore, terminalName, storeStatic] at h
  | «attribute» value attr ctx => exact h
  | _ => simp [isStore, terminalName, rewriteExpr] at h

theorem stores_storeStatic (howner : s.owner.callees = []) {name : String} {value : Expr}
    {source : List Expr} (h : Stores s.runtimeAlias value.callees source) :
    Stores s.runtimeAlias (s.storeStatic name value).callees source := by
  have hcallees : (s.storeStatic name value).callees =
      .attribute (.name s.runtimeAlias .load) "store_static" .load :: value.callees := by
    simp [storeStatic, callees, calleesList, calleesKeywords, howner]
  rw [hcallees]
  unfold Stores at h ⊢
  rw [List.countP_cons_of_neg (by simp [isForeignStore, isRuntimeStore])]
  exact h

mutual

theorem stores_rewriteExpr (howner : s.owner.callees = []) :
    ∀ e : Expr, Stores s.runtimeAlias (s.rewriteExpr e).callees e.callees
  | .constant _ => .nil
  | .name id ctx => by
    rw [rewriteExpr, rewriteName]
    split_ifs
    · exact .nil
    · exact .nil
    · rw [member, callees.eq_def]
      simp only [howner]
      exact .nil
  | .attribute value _ _ => stores_rewriteExpr howner value
  | .subscript value index _ =>
    (stores_rewriteExpr howner value).append (stores_rewriteExpr howner index)
  | .starred value _ => stores_rewriteExpr howner value
  | .sequence _ elts _ => stores_rewriteExprs howner elts
  | .set elts => stores_rewriteExprs howner elts
  | .dict keys values =>
    (stores_rewriteOptions howner keys).append (stores_rewriteExprs howner values)
  | .boolOp _ values => stores_rewriteExprs howner values
  | .binOp left _ right =>
    (stores_rewriteExpr howner left).append (stores_rewriteExpr howner right)
  | .unaryOp _ operand => stores_rewriteExpr howner operand
  | .compare left _ comparators =>
    (stores_rewriteExpr howner left).append (stores_rewriteExprs howner comparators)
  | .call func args keywords =>
    .cons (s.isStore_of_rewritten func)
      (((stores_rewriteExpr howner func).append (stores_rewriteExprs howner args)).append
        (stores_rewriteKeywords howner keywords))
  | .ifExp test body orelse =>
    ((stores_rewriteExpr howner test).append (stores_rewriteExpr howner body)).append
      (stores_rewriteExpr howner orelse)
  | .walrus target value => by
    rw [rewriteExpr, rewriteWalrus]
    split_ifs
    · exact stores_rewriteExpr howner value
    · exact stores_rewriteExpr howner value
    · exact s.stores_storeStatic howner (stores_rewriteExpr howner value)
  | .lambda params _ => (stores_rewriteParams howner params).append .same
  | .comprehension _ _ first _ =>
    (Stores.same.append (stores_rewriteGenerator howner first)).append .same
  | .dictComprehension _ _ first _ =>
    (Stores.same.append (stores_rewriteGenerator howner first)).append .same
  | .await value => stores_rewriteExpr howner value
  | .yield value => stores_rewriteOption howner value
  | .yieldFrom value => stores_rewriteExpr howner value
  | .joinedStr values => stores_rewriteExprs howner values
  | .formatted value _ spec =>
    (stores_rewriteExpr howner value).append (stores_rewriteOption howner spec)
  | .slice lower upper step =>
    ((stores_rewriteOption howner lower).append (stores_rewriteOption howner upper)).append
      (stores_rewriteOption howner step)

theorem stores_rewriteOption (howner : s.owner.callees = []) :
    ∀ e : Option Expr, Stores s.runtimeAlias (calleesOption (s.rewriteOption e)) (calleesOption e)
  | none => .nil
  | some e => stores_rewriteExpr howner e

theorem stores_rewriteExprs (howner : s.owner.callees = []) :
    ∀ es : List Expr, Stores s.runtimeAlias (calleesList (s.rewriteExprs es)) (calleesList es)
  | [] => .nil
  | e :: es => (stores_rewriteExpr howner e).append (stores_rewriteExprs howner es)

theorem stores_rewriteOptions (howner : s.owner.callees = []) :
    ∀ es : List (Option Expr),
      Stores s.runtimeAlias (calleesOptions (s.rewriteOptions es)) (calleesOptions es)
  | [] => .nil
  | e :: es => (stores_rewriteOption howner e).append (stores_rewriteOptions howner es)

theorem stores_rewriteKeywords (howner : s.owner.callees = []) :
    ∀ ks : List Keyword,
      Stores s.runtimeAlias (calleesKeywords (s.rewriteKeywords ks)) (calleesKeywords ks)
  | [] => .nil
  | k :: ks => (stores_rewriteKeyword howner k).append (stores_rewriteKeywords howner ks)

theorem stores_rewriteKeyword (howner : s.owner.callees = []) :
    ∀ k : Keyword, Stores s.runtimeAlias (calleesKeyword (s.rewriteKeyword k)) (calleesKeyword k)
  | ⟨_, value⟩ => stores_rewriteExpr howner value

theorem stores_rewriteParams (howner : s.owner.callees = []) :
    ∀ ps : Params, Stores s.runtimeAlias (calleesParams (s.rewriteParams ps)) (calleesParams ps)
  | ⟨_, _, _, _, kwDefaults, _, defaults⟩ =>
    ((Stores.same.append (stores_rewriteOptions howner kwDefaults)).append .same).append
      (stores_rewriteExprs howner defaults)

theorem stores_rewriteGenerator (howner : s.owner.callees = []) :
    ∀ g : Generator,
      Stores s.runtimeAlias (calleesGenerator (s.rewriteGenerator g)) (calleesGenerator g)
  | ⟨_, iter, _, _⟩ => (Stores.same.append (stores_rewriteExpr howner iter)).append .same

end

mutual

theorem stores_rewritePattern (howner : s.owner.callees = []) :
    ∀ p : Pattern, Stores s.runtimeAlias (s.rewritePattern p).callees p.callees
  | .value e => s.stores_rewriteExpr howner e
  | .singleton _ => .nil
  | .sequence patterns => stores_rewritePatterns howner patterns
  | .mapping keys patterns _ =>
    (s.stores_rewriteExprs howner keys).append (stores_rewritePatterns howner patterns)
  | .classPattern cls patterns _ named =>
    ((s.stores_rewriteExpr howner cls).append (stores_rewritePatterns howner patterns)).append
      (stores_rewritePatterns howner named)
  | .star _ => .nil
  | .capture none _ => .nil
  | .capture (some pattern) _ => stores_rewritePattern howner pattern
  | .alternatives patterns => stores_rewritePatterns howner patterns

theorem stores_rewritePatterns (howner : s.owner.callees = []) :
    ∀ ps : List Pattern,
      Stores s.runtimeAlias (Pattern.calleesList (s.rewritePatterns ps)) (Pattern.calleesList ps)
  | [] => .nil
  | p :: ps => (stores_rewritePattern howner p).append (stores_rewritePatterns howner ps)

end

theorem stores_rewriteWithItems (howner : s.owner.callees = []) (items : List WithItem) :
    Stores s.runtimeAlias ((items.map s.rewriteWithItem).flatMap WithItem.callees)
      (items.flatMap WithItem.callees) := by
  induction items with
  | nil => exact .nil
  | cons item items ih =>
    exact ((s.stores_rewriteExpr howner item.context).append
      (s.stores_rewriteOption howner item.target)).append ih

theorem stores_rebind (howner : s.owner.callees = []) (names : List String) {source : List Expr} :
    Stores s.runtimeAlias (Stmt.calleesBlock (s.rebind names)) source := by
  have hnone : Stmt.calleesBlock (s.rebind names) = [] := by
    unfold rebind
    induction names.filter fun name => s.inScope name && !s.retains name with
    | nil => rfl
    | cons name names ih =>
      rw [List.map_cons, Stmt.calleesBlock, ih]
      simp [Stmt.callees, member, calleesList, callees, howner]
  rw [hnone]
  exact .nil

theorem stores_singleton {x : Stmt} {source : List Expr}
    (h : Stores s.runtimeAlias x.callees source) :
    Stores s.runtimeAlias (Stmt.calleesBlock [x]) source := by
  simpa [Stmt.calleesBlock] using h

theorem stores_rewriteStore (howner : s.owner.callees = []) {target value : Expr} {general : Stmt}
    {source : List Expr} (hvalue : Stores s.runtimeAlias value.callees source)
    (hgeneral : Stores s.runtimeAlias general.callees source) :
    Stores s.runtimeAlias (Stmt.calleesBlock (s.rewriteStore target value general)) source := by
  unfold rewriteStore
  split
  · split_ifs
    · exact s.stores_singleton hgeneral
    · exact .nil
    · exact s.stores_singleton (s.stores_storeStatic howner hvalue)
  · exact s.stores_singleton hgeneral

theorem stores_rewriteAssign (howner : s.owner.callees = []) (targets : List Expr) (value : Expr) :
    Stores s.runtimeAlias (Stmt.calleesBlock (s.rewriteAssign targets value))
      (Stmt.callees (.assign targets value)) := by
  have hvalue := s.stores_rewriteExpr howner value
  have hgeneral : Stores s.runtimeAlias
      (Stmt.callees (.assign (s.rewriteExprs targets) (s.rewriteExpr value)))
      (Stmt.callees (.assign targets value)) :=
    (s.stores_rewriteExprs howner targets).append hvalue
  unfold rewriteAssign
  split
  · exact s.stores_rewriteStore howner hvalue.after hgeneral
  · exact s.stores_singleton hgeneral

theorem stores_rewriteAnnAssign (howner : s.owner.callees = []) (target annot : Expr)
    (simple : Option Int) : ∀ value : Option Expr,
      Stores s.runtimeAlias (Stmt.calleesBlock (s.rewriteAnnAssign target value))
        (Stmt.callees (.annAssign target annot value simple))
  | none => .nil
  | some value =>
    have hvalue := s.stores_rewriteExpr howner value
    have htarget : Stores s.runtimeAlias _ (_ ++ annot.callees) :=
      (s.stores_rewriteExprs howner [target]).before
    s.stores_rewriteStore howner hvalue.after
      ((htarget.append hvalue).congr (by simp [Stmt.callees, calleesList, calleesOption]))

theorem stores_rewriteAugAssign (howner : s.owner.callees = []) (target : Expr) (op : BinOp)
    (value : Expr) : Stores s.runtimeAlias (Stmt.calleesBlock (s.rewriteAugAssign target op value))
      (Stmt.callees (.augAssign target op value)) := by
  unfold rewriteAugAssign
  split_ifs
  · exact .nil
  · exact s.stores_singleton
      ((s.stores_rewriteExpr howner target).append (s.stores_rewriteExpr howner value))

theorem calleesList_filter (p : Expr → Bool) (es : List Expr) :
    (calleesList (es.filter p)).Sublist (calleesList es) := by
  induction es with
  | nil => exact List.Sublist.refl _
  | cons e es ih =>
    rw [List.filter_cons]
    split_ifs
    · exact (List.Sublist.refl _).append ih
    · exact ih.trans (List.sublist_append_right _ _)

theorem stores_rewriteDelete (howner : s.owner.callees = []) (targets : List Expr) :
    Stores s.runtimeAlias (Stmt.calleesBlock (s.rewriteDelete targets))
      (Stmt.callees (.delete targets)) := by
  unfold rewriteDelete
  split
  · exact .nil
  · exact s.stores_singleton
      (Nat.le_trans (s.stores_rewriteExprs howner _) (calleesList_filter _ targets).countP_le)

theorem stores_rewriteFunction (howner : s.owner.callees = []) (h : FunctionHeader) :
    Stores s.runtimeAlias (s.rewriteFunction h).callees h.callees :=
  ((s.stores_rewriteExprs howner h.decorators).append
    (s.stores_rewriteParams howner h.params)).append .same

theorem stores_rewriteClass (howner : s.owner.callees = []) (h : ClassHeader) :
    Stores s.runtimeAlias (s.rewriteClass h).callees h.callees :=
  ((s.stores_rewriteExprs howner h.decorators).append
    (s.stores_rewriteExprs howner h.bases)).append (s.stores_rewriteKeywords howner h.keywords)

mutual

theorem stores_rewriteStmt (howner : s.owner.callees = []) :
    ∀ x : Stmt, Stores s.runtimeAlias (Stmt.calleesBlock (s.rewriteStmt x)) x.callees
  | .functionDef h body =>
    have hrebind : Stores s.runtimeAlias _ [] := s.stores_rebind howner [h.name]
    (((s.stores_rewriteFunction howner h).append .same).append hrebind).congr
      (by simp [Stmt.callees])
  | .classDef h body =>
    have hrebind : Stores s.runtimeAlias _ [] := s.stores_rebind howner [h.name]
    (((s.stores_rewriteClass howner h).append .same).append hrebind).congr
      (by simp [Stmt.callees])
  | .ret value => s.stores_singleton (s.stores_rewriteOption howner value)
  | .delete targets => s.stores_rewriteDelete howner targets
  | .assign targets value => s.stores_rewriteAssign howner targets value
  | .augAssign target op value => s.stores_rewriteAugAssign howner target op value
  | .annAssign target annot value simple =>
    s.stores_rewriteAnnAssign howner target annot simple value
  | .forLoop _ target iter body orelse =>
    s.stores_singleton ((((s.stores_rewriteExpr howner target).append
      (s.stores_rewriteExpr howner iter)).append (stores_rewriteBlock howner body)).append
      (stores_rewriteBlock howner orelse))
  | .whileLoop test body orelse =>
    s.stores_singleton (((s.stores_rewriteExpr howner test).append
      (stores_rewriteBlock howner body)).append (stores_rewriteBlock howner orelse))
  | .ifStmt test body orelse =>
    s.stores_singleton (((s.stores_rewriteExpr howner test).append
      (stores_rewriteBlock howner body)).append (stores_rewriteBlock howner orelse))
  | .withStmt _ items body =>
    s.stores_singleton ((s.stores_rewriteWithItems howner items).append
      (stores_rewriteBlock howner body))
  | .matchStmt subject cases =>
    s.stores_singleton ((s.stores_rewriteExpr howner subject).append
      (stores_rewriteCases howner cases))
  | .raise exc cause =>
    s.stores_singleton ((s.stores_rewriteOption howner exc).append
      (s.stores_rewriteOption howner cause))
  | .tryStmt _ body handlers orelse finalbody =>
    s.stores_singleton ((((stores_rewriteBlock howner body).append
      (stores_rewriteHandlers howner handlers)).append (stores_rewriteBlock howner orelse)).append
      (stores_rewriteBlock howner finalbody))
  | .assert test msg =>
    s.stores_singleton ((s.stores_rewriteExpr howner test).append
      (s.stores_rewriteOption howner msg))
  | .imports _ names =>
    s.stores_rebind howner (names.filterMap Binding.ofAlias)
  | .scope _ _ => .nil
  | .expr value => s.stores_singleton (s.stores_rewriteExpr howner value)
  | .jump _ => .nil

/-- Rewriting adds stores to the class through the runtime only. -/
theorem stores_rewriteBlock (howner : s.owner.callees = []) :
    ∀ b : List Stmt,
      Stores s.runtimeAlias (Stmt.calleesBlock (s.rewriteBlock b)) (Stmt.calleesBlock b)
  | [] => .nil
  | x :: xs => by
    rw [rewriteBlock, Stmt.calleesBlock_append]
    exact (stores_rewriteStmt howner x).append (stores_rewriteBlock howner xs)

theorem stores_rewriteHandlers (howner : s.owner.callees = []) :
    ∀ hs : List Handler,
      Stores s.runtimeAlias (Stmt.calleesHandlers (s.rewriteHandlers hs)) (Stmt.calleesHandlers hs)
  | [] => .nil
  | h :: hs => (stores_rewriteHandler howner h).append (stores_rewriteHandlers howner hs)

theorem stores_rewriteHandler (howner : s.owner.callees = []) :
    ∀ h : Handler,
      Stores s.runtimeAlias (Stmt.calleesHandler (s.rewriteHandler h)) (Stmt.calleesHandler h)
  | ⟨type, _, body⟩ =>
    (s.stores_rewriteOption howner type).append (stores_rewriteBlock howner body)

theorem stores_rewriteCases (howner : s.owner.callees = []) :
    ∀ cs : List MatchCase,
      Stores s.runtimeAlias (Stmt.calleesCases (s.rewriteCases cs)) (Stmt.calleesCases cs)
  | [] => .nil
  | c :: cs => (stores_rewriteCase howner c).append (stores_rewriteCases howner cs)

theorem stores_rewriteCase (howner : s.owner.callees = []) :
    ∀ c : MatchCase, Stores s.runtimeAlias (Stmt.calleesCase (s.rewriteCase c)) (Stmt.calleesCase c)
  | ⟨pattern, guard, body⟩ =>
    ((s.stores_rewritePattern howner pattern).append (s.stores_rewriteOption howner guard)).append
      (stores_rewriteBlock howner body)

end

end ClassScope

end StateWeave
