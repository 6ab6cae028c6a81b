import StateWeave.Proofs.Parts

/-! Following a rewriting. Rewriting the names of a class replaces names and walruses and keeps
every other expression, and it treats each statement by itself; so what is looked for part by part
in rewritten code comes from the parts of the source. Both inductions over the syntax are made here,
for whatever is looked for. -/

namespace StateWeave

/-- Whether an expression names a variable by itself, so that another can take its place. -/
def Expr.namesVariable : Expr → Bool
  | .name _ _ | .walrus _ _ => true
  | _ => false

/-- Whether other statements can stand in the blocks of a statement and run in its scope. -/
def Stmt.opensBlock : Stmt → Bool
  | .forLoop .. | .whileLoop .. | .ifStmt .. | .withStmt .. | .matchStmt .. | .tryStmt .. => true
  | _ => false

theorem Stmt.isSimple_of_opensBlock {x : Stmt} (h : x.opensBlock = false) : x.IsSimple := by
  cases x <;> first | rfl | cases h

namespace ClassScope

variable {s : ClassScope} {α : Type}

/-- A store through the runtime reaches the runtime and the owner before it evaluates the value. -/
theorem parts_storeStatic (s : ClassScope) (name : String) (value : Expr) :
    (s.storeStatic name value).parts = s.storeStatic name value ::
      ([.attribute (.name s.runtimeAlias .load) "store_static" .load, .name s.runtimeAlias .load]
        ++ s.owner.parts ++ [.constant (.str (mangle s.className name))] ++ value.parts) := by
  simp [storeStatic, Expr.parts, Expr.partsList, Expr.partsKeywords]

section Expressions

variable {found sought : Expr → List α}

/-- What is found in rewritten code is what is sought in its source, for names, for walruses and for
every other expression by itself. -/
structure Tracks (s : ClassScope) (found sought : Expr → List α) : Prop where
  name : ∀ id ctx, (s.rewriteName id ctx).parts.flatMap found = sought (.name id ctx)
  walrus : ∀ target value value', (s.rewriteWalrus target value').parts.flatMap found =
    sought (.walrus target value) ++ value'.parts.flatMap found
  other : ∀ e, e.namesVariable = false → found (s.rewriteExpr e) = sought e

/-- In one list of expressions is found what is sought in another. -/
def Matches (found sought : Expr → List α) (rewritten source : List Expr) : Prop :=
  rewritten.flatMap found = source.flatMap sought

namespace Matches

variable {xs ys xs' ys' : List Expr}

theorem nil : Matches found sought [] [] := rfl

theorem append (h : Matches found sought xs xs') (k : Matches found sought ys ys') :
    Matches found sought (xs ++ ys) (xs' ++ ys') := by
  unfold Matches at h k ⊢
  rw [List.flatMap_append, List.flatMap_append, h, k]

theorem cons {e e' : Expr} (he : found e = sought e') (h : Matches found sought xs xs') :
    Matches found sought (e :: xs) (e' :: xs') := by
  unfold Matches at h ⊢
  rw [List.flatMap_cons, List.flatMap_cons, he, h]

end Matches

mutual

/-- It is then so of whole expressions. -/
theorem Tracks.matches (t : s.Tracks found sought) :
    ∀ e : Expr, Matches found sought (s.rewriteExpr e).parts e.parts
  | .constant value => .cons (t.other (.constant value) rfl) .nil
  | .name id ctx => (t.name id ctx).trans (List.append_nil _).symm
  | .attribute value attr ctx => .cons (t.other (.attribute value attr ctx) rfl) (t.matches value)
  | .subscript value index ctx =>
    .cons (t.other (.subscript value index ctx) rfl) ((t.matches value).append (t.matches index))
  | .starred value ctx => .cons (t.other (.starred value ctx) rfl) (t.matches value)
  | .sequence kind elts ctx =>
    .cons (t.other (.sequence kind elts ctx) rfl) (t.matches_list elts)
  | .set elts => .cons (t.other (.set elts) rfl) (t.matches_list elts)
  | .dict keys values =>
    .cons (t.other (.dict keys values) rfl)
      ((t.matches_options keys).append (t.matches_list values))
  | .boolOp op values => .cons (t.other (.boolOp op values) rfl) (t.matches_list values)
  | .binOp left op right =>
    .cons (t.other (.binOp left op right) rfl) ((t.matches left).append (t.matches right))
  | .unaryOp op operand => .cons (t.other (.unaryOp op operand) rfl) (t.matches operand)
  | .compare left ops comparators =>
    .cons (t.other (.compare left ops comparators) rfl)
      ((t.matches left).append (t.matches_list comparators))
  | .call func args keywords =>
    .cons (t.other (.call func args keywords) rfl)
      (((t.matches func).append (t.matches_list args)).append (t.matches_keywords keywords))
  | .ifExp test body orelse =>
    .cons (t.other (.ifExp test body orelse) rfl)
      (((t.matches test).append (t.matches body)).append (t.matches orelse))
  | .walrus target value => by
    have hvalue := t.matches value
    unfold Matches at hvalue ⊢
    rw [rewriteExpr, t.walrus target value, hvalue, Expr.parts, List.flatMap_cons]
  | .lambda params body => .cons (t.other (.lambda params body) rfl) (t.matches_params params)
  | .comprehension kind element first rest =>
    .cons (t.other (.comprehension kind element first rest) rfl) (t.matches_generator first)
  | .dictComprehension key value first rest =>
    .cons (t.other (.dictComprehension key value first rest) rfl) (t.matches_generator first)
  | .await value => .cons (t.other (.await value) rfl) (t.matches value)
  | .yield value => .cons (t.other (.yield value) rfl) (t.matches_option value)
  | .yieldFrom value => .cons (t.other (.yieldFrom value) rfl) (t.matches value)
  | .joinedStr values => .cons (t.other (.joinedStr values) rfl) (t.matches_list values)
  | .formatted value conversion spec =>
    .cons (t.other (.formatted value conversion spec) rfl)
      ((t.matches value).append (t.matches_option spec))
  | .slice lower upper step =>
    .cons (t.other (.slice lower upper step) rfl)
      (((t.matches_option lower).append (t.matches_option upper)).append (t.matches_option step))

theorem Tracks.matches_option (t : s.Tracks found sought) : ∀ e : Option Expr,
    Matches found sought (Expr.partsOption (s.rewriteOption e)) (Expr.partsOption e)
  | none => .nil
  | some e => t.matches e

theorem Tracks.matches_list (t : s.Tracks found sought) : ∀ es : List Expr,
    Matches found sought (Expr.partsList (s.rewriteExprs es)) (Expr.partsList es)
  | [] => .nil
  | e :: es => (t.matches e).append (t.matches_list es)

theorem Tracks.matches_options (t : s.Tracks found sought) : ∀ es : List (Option Expr),
    Matches found sought (Expr.partsOptions (s.rewriteOptions es)) (Expr.partsOptions es)
  | [] => .nil
  | e :: es => (t.matches_option e).append (t.matches_options es)

theorem Tracks.matches_keywords (t : s.Tracks found sought) : ∀ ks : List Keyword,
    Matches found sought (Expr.partsKeywords (s.rewriteKeywords ks)) (Expr.partsKeywords ks)
  | [] => .nil
  | k :: ks => (t.matches_keyword k).append (t.matches_keywords ks)

theorem Tracks.matches_keyword (t : s.Tracks found sought) : ∀ k : Keyword,
    Matches found sought (Expr.partsKeyword (s.rewriteKeyword k)) (Expr.partsKeyword k)
  | ⟨_, value⟩ => t.matches value

theorem Tracks.matches_params (t : s.Tracks found sought) : ∀ p : Params,
    Matches found sought (Expr.partsParams (s.rewriteParams p)) (Expr.partsParams p)
  | ⟨_, _, _, _, kwDefaults, _, defaults⟩ =>
    (t.matches_list defaults).append (t.matches_options kwDefaults)

theorem Tracks.matches_generator (t : s.Tracks found sought) : ∀ g : Generator,
    Matches found sought (Expr.partsGenerator (s.rewriteGenerator g)) (Expr.partsGenerator g)
  | ⟨_, iter, _, _⟩ => t.matches iter

end

end Expressions

section Statements

variable {found sought : Stmt → List α}

theorem opensBlock_rebind (names : List String) :
    ∀ y ∈ s.rebind names, y.opensBlock = false := by
  intro y hy
  obtain ⟨name, -, rfl⟩ := List.mem_map.1 hy
  rfl

theorem opensBlock_rewriteStore {target value : Expr} {general : Stmt}
    (h : general.opensBlock = false) :
    ∀ y ∈ s.rewriteStore target value general, y.opensBlock = false := by
  intro y hy
  unfold rewriteStore at hy
  split at hy
  · split_ifs at hy
    · exact List.mem_singleton.1 hy ▸ h
    · cases hy
    · rw [List.mem_singleton.1 hy]
      rfl
  · exact List.mem_singleton.1 hy ▸ h

/-- What a statement without blocks becomes has none either. -/
theorem opensBlock_rewriteStmt {x : Stmt} (h : x.opensBlock = false) :
    ∀ y ∈ s.rewriteStmt x, y.opensBlock = false := by
  cases x with
  | functionDef | classDef | imports =>
    exact List.forall_mem_cons.2 ⟨rfl, opensBlock_rebind _⟩
  | assign targets value =>
    rcases targets with - | ⟨target, - | ⟨next, rest⟩⟩
    · exact List.forall_mem_singleton.2 rfl
    · exact opensBlock_rewriteStore rfl
    · exact List.forall_mem_singleton.2 rfl
  | annAssign target annot value simple =>
    cases value with
    | none => exact nofun
    | some value => exact opensBlock_rewriteStore rfl
  | augAssign target op value =>
    rw [rewriteStmt, rewriteAugAssign]
    split_ifs
    · exact nofun
    · exact List.forall_mem_singleton.2 rfl
  | delete targets =>
    rw [rewriteStmt, rewriteDelete]
    split
    · exact nofun
    · exact List.forall_mem_singleton.2 rfl
  | ret | raise | assert | scope | expr | jump => exact List.forall_mem_singleton.2 rfl
  | _ => cases h

theorem partsBlock_rewriteStmt {x : Stmt} (h : x.opensBlock = false) :
    Stmt.partsBlock (s.rewriteStmt x) = s.rewriteStmt x :=
  Stmt.partsBlock_simple fun y hy =>
    Stmt.isSimple_of_opensBlock (opensBlock_rewriteStmt h y hy)

/-- A statement whose blocks are followed, and which is followed by itself. -/
theorem flatMap_parts_around {x y : Stmt} {inner inner' : List Stmt} (hy : y.parts = y :: inner')
    (own : [y].flatMap found = sought x) (h : inner'.flatMap found = inner.flatMap sought) :
    (Stmt.partsBlock [y]).flatMap found = (x :: inner).flatMap sought := by
  rw [Stmt.partsBlock, Stmt.partsBlock, List.append_nil, hy, List.flatMap_cons, List.flatMap_cons,
    h, ← own, List.flatMap_singleton]

theorem flatMap_parts_alone (own : ∀ x, (s.rewriteStmt x).flatMap found = sought x) {x : Stmt}
    (h : x.opensBlock = false) :
    (Stmt.partsBlock (s.rewriteStmt x)).flatMap found = x.parts.flatMap sought := by
  rw [partsBlock_rewriteStmt h, own x, Stmt.isSimple_of_opensBlock h, List.flatMap_singleton]

mutual

/-- If in what each statement becomes by itself is found what is sought in the statement, then it is
so with the statements of its blocks. -/
theorem flatMap_parts_rewriteStmt (own : ∀ x, (s.rewriteStmt x).flatMap found = sought x) :
    ∀ x : Stmt, (Stmt.partsBlock (s.rewriteStmt x)).flatMap found = x.parts.flatMap sought
  | .forLoop isAsync target iter body orelse => by
    refine flatMap_parts_around rfl (own (.forLoop isAsync target iter body orelse)) ?_
    rw [List.flatMap_append, List.flatMap_append, flatMap_parts_rewriteBlock own body,
      flatMap_parts_rewriteBlock own orelse]
  | .whileLoop test body orelse => by
    refine flatMap_parts_around rfl (own (.whileLoop test body orelse)) ?_
    rw [List.flatMap_append, List.flatMap_append, flatMap_parts_rewriteBlock own body,
      flatMap_parts_rewriteBlock own orelse]
  | .ifStmt test body orelse => by
    refine flatMap_parts_around rfl (own (.ifStmt test body orelse)) ?_
    rw [List.flatMap_append, List.flatMap_append, flatMap_parts_rewriteBlock own body,
      flatMap_parts_rewriteBlock own orelse]
  | .withStmt isAsync items body =>
    flatMap_parts_around rfl (own (.withStmt isAsync items body))
      (flatMap_parts_rewriteBlock own body)
  | .matchStmt subject cases =>
    flatMap_parts_around rfl (own (.matchStmt subject cases)) (flatMap_parts_rewriteCases own cases)
  | .tryStmt isGroup body handlers orelse finalbody => by
    refine flatMap_parts_around rfl (own (.tryStmt isGroup body handlers orelse finalbody)) ?_
    simp only [List.flatMap_append]
    rw [flatMap_parts_rewriteBlock own body, flatMap_parts_rewriteHandlers own handlers,
      flatMap_parts_rewriteBlock own orelse, flatMap_parts_rewriteBlock own finalbody]
  | .functionDef _ _ | .classDef _ _ | .ret _ | .delete _ | .assign _ _ | .augAssign _ _ _
  | .annAssign _ _ _ _ | .raise _ _ | .assert _ _ | .imports _ _ | .scope _ _ | .expr _ | .jump _ =>
    flatMap_parts_alone own rfl

theorem flatMap_parts_rewriteBlock (own : ∀ x, (s.rewriteStmt x).flatMap found = sought x) :
    ∀ b : List Stmt,
      (Stmt.partsBlock (s.rewriteBlock b)).flatMap found = (Stmt.partsBlock b).flatMap sought
  | [] => rfl
  | x :: xs => by
    rw [rewriteBlock, Stmt.partsBlock_append, Stmt.partsBlock, List.flatMap_append,
      List.flatMap_append, flatMap_parts_rewriteStmt own x, flatMap_parts_rewriteBlock own xs]

theorem flatMap_parts_rewriteHandlers (own : ∀ x, (s.rewriteStmt x).flatMap found = sought x) :
    ∀ hs : List Handler,
      (Stmt.partsHandlers (s.rewriteHandlers hs)).flatMap found =
        (Stmt.partsHandlers hs).flatMap sought
  | [] => rfl
  | h :: hs => by
    rw [rewriteHandlers, Stmt.partsHandlers, Stmt.partsHandlers, List.flatMap_append,
      List.flatMap_append, flatMap_parts_rewriteHandler own h,
      flatMap_parts_rewriteHandlers own hs]

theorem flatMap_parts_rewriteHandler (own : ∀ x, (s.rewriteStmt x).flatMap found = sought x) :
    ∀ h : Handler,
      (Stmt.partsHandler (s.rewriteHandler h)).flatMap found = (Stmt.partsHandler h).flatMap sought
  | ⟨_, _, body⟩ => flatMap_parts_rewriteBlock own body

theorem flatMap_parts_rewriteCases (own : ∀ x, (s.rewriteStmt x).flatMap found = sought x) :
    ∀ cs : List MatchCase,
      (Stmt.partsCases (s.rewriteCases cs)).flatMap found = (Stmt.partsCases cs).flatMap sought
  | [] => rfl
  | c :: cs => by
    rw [rewriteCases, Stmt.partsCases, Stmt.partsCases, List.flatMap_append, List.flatMap_append,
      flatMap_parts_rewriteCase own c, flatMap_parts_rewriteCases own cs]

theorem flatMap_parts_rewriteCase (own : ∀ x, (s.rewriteStmt x).flatMap found = sought x) :
    ∀ c : MatchCase,
      (Stmt.partsCase (s.rewriteCase c)).flatMap found = (Stmt.partsCase c).flatMap sought
  | ⟨_, _, body⟩ => flatMap_parts_rewriteBlock own body

end

end Statements

end ClassScope

end StateWeave
