import StateWeave.Proofs.Changes

/-! What can stand where a value is stored or deleted. Rewriting the names of a class puts
attributes and other names in the place of names, so that a target stays one; comprehensions keep
their own targets. -/

namespace StateWeave

namespace Expr

/-- Whether a single thing is stored or deleted, as a name, an attribute or an item. -/
def isPlace (ctx : Ctx) : Expr → Bool
  | .name _ c | .attribute _ _ c | .subscript _ _ c => c == ctx
  | _ => false

mutual

/-- Whether an expression can be stored to or deleted. A display is taken apart; in it, but nowhere
else, a part can be starred, unless it is deleted. -/
def isTarget (ctx : Ctx) (inner : Bool) : Expr → Bool
  | .sequence _ elts c => c == ctx && areTargets ctx elts
  | .starred value c => inner && ctx == .store && c == ctx && value.isTarget ctx false
  | .name _ c | .attribute _ _ c | .subscript _ _ c => c == ctx
  | _ => false

def areTargets (ctx : Ctx) : List Expr → Bool
  | [] => true
  | e :: es => e.isTarget ctx true && areTargets ctx es

end

mutual

/-- The targets of the comprehensions in an expression, those in nested scopes included. -/
def loopTargets : Expr → List Expr
  | .constant _ | .name _ _ => []
  | .attribute value _ _ => value.loopTargets
  | .subscript value index _ => value.loopTargets ++ index.loopTargets
  | .starred value _ => value.loopTargets
  | .sequence _ elts _ => loopTargetsList elts
  | .set elts => loopTargetsList elts
  | .dict keys values => loopTargetsOptions keys ++ loopTargetsList values
  | .boolOp _ values => loopTargetsList values
  | .binOp left _ right => left.loopTargets ++ right.loopTargets
  | .unaryOp _ operand => operand.loopTargets
  | .compare left _ comparators => left.loopTargets ++ loopTargetsList comparators
  | .call func args keywords =>
    func.loopTargets ++ loopTargetsList args ++ loopTargetsKeywords keywords
  | .ifExp test body orelse => test.loopTargets ++ body.loopTargets ++ orelse.loopTargets
  | .walrus _ value => value.loopTargets
  | .lambda params body => loopTargetsParams params ++ body.loopTargets
  | .comprehension _ element first rest =>
    element.loopTargets ++ loopTargetsGenerator first ++ loopTargetsGenerators rest
  | .dictComprehension key value first rest =>
    key.loopTargets ++ value.loopTargets ++ loopTargetsGenerator first
      ++ loopTargetsGenerators rest
  | .await value => value.loopTargets
  | .yield value => loopTargetsOption value
  | .yieldFrom value => value.loopTargets
  | .joinedStr values => loopTargetsList values
  | .formatted value _ spec => value.loopTargets ++ loopTargetsOption spec
  | .slice lower upper step =>
    loopTargetsOption lower ++ loopTargetsOption upper ++ loopTargetsOption step

def loopTargetsOption : Option Expr → List Expr
  | none => []
  | some e => e.loopTargets

def loopTargetsList : List Expr → List Expr
  | [] => []
  | e :: es => e.loopTargets ++ loopTargetsList es

def loopTargetsOptions : List (Option Expr) → List Expr
  | [] => []
  | e :: es => loopTargetsOption e ++ loopTargetsOptions es

def loopTargetsKeywords : List Keyword → List Expr
  | [] => []
  | k :: ks => loopTargetsKeyword k ++ loopTargetsKeywords ks

def loopTargetsKeyword : Keyword → List Expr
  | ⟨_, value⟩ => value.loopTargets

def loopTargetsArgs : List Arg → List Expr
  | [] => []
  | a :: as => loopTargetsArg a ++ loopTargetsArgs as

def loopTargetsArgOption : Option Arg → List Expr
  | none => []
  | some a => loopTargetsArg a

def loopTargetsArg : Arg → List Expr
  | ⟨_, annot⟩ => loopTargetsOption annot

def loopTargetsParams : Params → List Expr
  | ⟨posOnly, positional, vararg, kwOnly, kwDefaults, kwarg, defaults⟩ =>
    loopTargetsArgs posOnly ++ loopTargetsArgs positional ++ loopTargetsArgOption vararg
      ++ loopTargetsArgs kwOnly ++ loopTargetsOptions kwDefaults ++ loopTargetsArgOption kwarg
      ++ loopTargetsList defaults

def loopTargetsGenerators : List Generator → List Expr
  | [] => []
  | g :: gs => loopTargetsGenerator g ++ loopTargetsGenerators gs

def loopTargetsGenerator : Generator → List Expr
  | ⟨target, iter, ifs, _⟩ =>
    target :: (target.loopTargets ++ iter.loopTargets ++ loopTargetsList ifs)

end

theorem loopTargets_path (head : String) (attrs : List String) :
    (path head attrs).loopTargets = [] :=
  path_induction (motive := fun e => e.loopTargets = []) rfl fun _ _ he => he

end Expr

open StateWeave.Expr

namespace ClassScope

variable {s : ClassScope}

theorem Grounded.loopTargets_owner (hs : s.Grounded) : s.owner.loopTargets = [] := by
  obtain ⟨head, attrs, howner⟩ := hs.owner
  rw [howner, loopTargets_path]

theorem isPlace_rewriteName {id : String} {c ctx : Ctx} (h : c = ctx) :
    (s.rewriteName id c).isPlace ctx = true := by
  subst h
  unfold rewriteName
  split_ifs with hscope hdiscard
  · simp [isPlace]
  · simp only [Bool.and_eq_true, decide_eq_true_eq] at hdiscard
    simp [isPlace, hdiscard.1]
  · simp [isPlace, member]

theorem isTarget_of_isPlace {ctx : Ctx} {e : Expr} (inner : Bool) (h : e.isPlace ctx = true) :
    e.isTarget ctx inner = true := by
  cases e <;> first | exact h | cases h

theorem isPlace_rewriteExpr {ctx : Ctx} {e : Expr} (h : e.isPlace ctx = true) :
    (s.rewriteExpr e).isPlace ctx = true := by
  cases e with
  | name id c => exact isPlace_rewriteName (by simpa [isPlace] using h)
  | «attribute» | subscript => exact h
  | _ => cases h

mutual

/-- A rewritten target is one. -/
theorem isTarget_rewriteExpr {ctx : Ctx} : ∀ {inner : Bool} (e : Expr),
    e.isTarget ctx inner = true → (s.rewriteExpr e).isTarget ctx inner = true
  | inner, .name id c, h =>
    isTarget_of_isPlace inner (isPlace_rewriteName (by simpa [isTarget] using h))
  | _, .attribute _ _ _, h => h
  | _, .subscript _ _ _, h => h
  | _, .starred value c, h => by
    simp only [rewriteExpr, isTarget, Bool.and_eq_true] at h ⊢
    exact ⟨h.1, isTarget_rewriteExpr value h.2⟩
  | _, .sequence kind elts c, h => by
    simp only [rewriteExpr, isTarget, Bool.and_eq_true] at h ⊢
    exact ⟨h.1, areTargets_rewriteExprs elts h.2⟩

theorem areTargets_rewriteExprs {ctx : Ctx} : ∀ es : List Expr,
    areTargets ctx es = true → areTargets ctx (s.rewriteExprs es) = true
  | [], _ => rfl
  | e :: es, h => by
    simp only [rewriteExprs, areTargets, Bool.and_eq_true] at h ⊢
    exact ⟨isTarget_rewriteExpr e h.1, areTargets_rewriteExprs es h.2⟩

end

theorem loopTargets_storeStatic (hs : s.Grounded) (name : String) (value : Expr) :
    (s.storeStatic name value).loopTargets = value.loopTargets := by
  simp [storeStatic, loopTargets, loopTargetsList, loopTargetsKeywords, hs.loopTargets_owner]

mutual

/-- Comprehensions keep their targets. -/
theorem loopTargets_rewriteExpr (hs : s.Grounded) :
    ∀ e : Expr, (s.rewriteExpr e).loopTargets = e.loopTargets
  | .constant _ => rfl
  | .name id ctx => by
    rw [rewriteExpr, rewriteName]
    split_ifs
    · rfl
    · rfl
    · exact hs.loopTargets_owner
  | .attribute value _ _ => loopTargets_rewriteExpr hs value
  | .subscript value index _ => by
    rw [rewriteExpr, loopTargets, loopTargets, loopTargets_rewriteExpr hs value,
      loopTargets_rewriteExpr hs index]
  | .starred value _ => loopTargets_rewriteExpr hs value
  | .sequence _ elts _ => loopTargets_rewriteExprs hs elts
  | .set elts => loopTargets_rewriteExprs hs elts
  | .dict keys values => by
    rw [rewriteExpr, loopTargets, loopTargets, loopTargets_rewriteOptions hs keys,
      loopTargets_rewriteExprs hs values]
  | .boolOp _ values => loopTargets_rewriteExprs hs values
  | .binOp left _ right => by
    rw [rewriteExpr, loopTargets, loopTargets, loopTargets_rewriteExpr hs left,
      loopTargets_rewriteExpr hs right]
  | .unaryOp _ operand => loopTargets_rewriteExpr hs operand
  | .compare left _ comparators => by
    rw [rewriteExpr, loopTargets, loopTargets, loopTargets_rewriteExpr hs left,
      loopTargets_rewriteExprs hs comparators]
  | .call func args keywords => by
    rw [rewriteExpr, loopTargets, loopTargets, loopTargets_rewriteExpr hs func,
      loopTargets_rewriteExprs hs args, loopTargets_rewriteKeywords hs keywords]
  | .ifExp test body orelse => by
    rw [rewriteExpr, loopTargets, loopTargets, loopTargets_rewriteExpr hs test,
      loopTargets_rewriteExpr hs body, loopTargets_rewriteExpr hs orelse]
  | .walrus target value => by
    rw [rewriteExpr, rewriteWalrus]
    split_ifs
    · exact loopTargets_rewriteExpr hs value
    · exact loopTargets_rewriteExpr hs value
    · rw [loopTargets_storeStatic hs]
      exact loopTargets_rewriteExpr hs value
  | .lambda params _ => congrArg (· ++ _) (loopTargets_rewriteParams hs params)
  | .comprehension _ _ first _ => by
    rw [rewriteExpr, loopTargets, loopTargets, loopTargets_rewriteGenerator hs first]
  | .dictComprehension _ _ first _ => by
    rw [rewriteExpr, loopTargets, loopTargets, loopTargets_rewriteGenerator hs first]
  | .await value => loopTargets_rewriteExpr hs value
  | .yield value => loopTargets_rewriteOption hs value
  | .yieldFrom value => loopTargets_rewriteExpr hs value
  | .joinedStr values => loopTargets_rewriteExprs hs values
  | .formatted value _ spec => by
    rw [rewriteExpr, loopTargets, loopTargets, loopTargets_rewriteExpr hs value,
      loopTargets_rewriteOption hs spec]
  | .slice lower upper step => by
    rw [rewriteExpr, loopTargets, loopTargets, loopTargets_rewriteOption hs lower,
      loopTargets_rewriteOption hs upper, loopTargets_rewriteOption hs step]

theorem loopTargets_rewriteOption (hs : s.Grounded) :
    ∀ e : Option Expr, loopTargetsOption (s.rewriteOption e) = loopTargetsOption e
  | none => rfl
  | some e => loopTargets_rewriteExpr hs e

theorem loopTargets_rewriteExprs (hs : s.Grounded) :
    ∀ es : List Expr, loopTargetsList (s.rewriteExprs es) = loopTargetsList es
  | [] => rfl
  | e :: es => by
    rw [rewriteExprs, loopTargetsList, loopTargetsList, loopTargets_rewriteExpr hs e,
      loopTargets_rewriteExprs hs es]

theorem loopTargets_rewriteOptions (hs : s.Grounded) :
    ∀ es : List (Option Expr), loopTargetsOptions (s.rewriteOptions es) = loopTargetsOptions es
  | [] => rfl
  | e :: es => by
    rw [rewriteOptions, loopTargetsOptions, loopTargetsOptions, loopTargets_rewriteOption hs e,
      loopTargets_rewriteOptions hs es]

theorem loopTargets_rewriteKeywords (hs : s.Grounded) :
    ∀ ks : List Keyword, loopTargetsKeywords (s.rewriteKeywords ks) = loopTargetsKeywords ks
  | [] => rfl
  | k :: ks => by
    rw [rewriteKeywords, loopTargetsKeywords, loopTargetsKeywords, loopTargets_rewriteKeyword hs k,
      loopTargets_rewriteKeywords hs ks]

theorem loopTargets_rewriteKeyword (hs : s.Grounded) :
    ∀ k : Keyword, loopTargetsKeyword (s.rewriteKeyword k) = loopTargetsKeyword k
  | ⟨_, value⟩ => loopTargets_rewriteExpr hs value

theorem loopTargets_rewriteParams (hs : s.Grounded) :
    ∀ p : Params, loopTargetsParams (s.rewriteParams p) = loopTargetsParams p
  | ⟨_, _, _, _, kwDefaults, _, defaults⟩ => by
    rw [rewriteParams, loopTargetsParams, loopTargetsParams,
      loopTargets_rewriteOptions hs kwDefaults, loopTargets_rewriteExprs hs defaults]

theorem loopTargets_rewriteGenerator (hs : s.Grounded) :
    ∀ g : Generator, loopTargetsGenerator (s.rewriteGenerator g) = loopTargetsGenerator g
  | ⟨_, iter, _, _⟩ => by
    rw [rewriteGenerator, loopTargetsGenerator, loopTargetsGenerator,
      loopTargets_rewriteExpr hs iter]

end

end ClassScope

end StateWeave
