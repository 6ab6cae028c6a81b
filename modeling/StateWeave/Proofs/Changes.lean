import Mathlib.Data.List.Basic
import StateWeave.Proofs.Tracking
import StateWeave.Proofs.Written

/-! What class-scope code does to its class, before and after it is rewritten. Before, it stores and
deletes names of the scope; afterwards it writes to the owning class, through the runtime or at its
attributes. One table says what each change becomes, and the writes of rewritten code are what the
changes of the code become, each in its turn. -/

namespace StateWeave

/-- What a piece of code can do to a class whose scope it runs in. -/
inductive Effect
  /-- Binds the one target of an assignment. -/
  | sole (name : String)
  /-- Stores to a name that is a target or part of one. -/
  | target (name : String)
  /-- Deletes a name that is part of a larger target. -/
  | removed (name : String)
  /-- Deletes a name that is a target of its own. -/
  | deleted (name : String)
  | walrus (name : String)
  /-- Binds the name of an import, of a `def` or of a `class`. -/
  | declared (name : String)
  /-- Binds a name to part of a matched subject or to an exception. -/
  | captured (name : String)
  /-- Names no variable: an attribute that is stored or deleted, or a call. -/
  | spelled (e : Expr)

/-- Where in its statement a change stands. -/
inductive Position
  | code
  /-- In an assignment to this name alone. -/
  | assigned (name : String)
  /-- In the annotation of an assignment. -/
  | annot
  /-- In a target that is annotated but given no value. -/
  | unassigned
  /-- In an annotation of a function. -/
  | signature
deriving DecidableEq, Repr, Inhabited

structure Change where
  effect : Effect
  place : Position

/-- A write to a class: through the runtime, or to one of its attributes. -/
inductive OwnerWrite
  | static (attr : String)
  | attribute (attr : String) (ctx : Ctx)
deriving DecidableEq, Repr, Inhabited

/-- The name that an effect is about. -/
def Effect.name? : Effect → Option String
  | .sole name | .target name | .removed name | .deleted name | .walrus name | .declared name
  | .captured name => some name
  | .spelled _ => none

namespace Expr

/-- What an expression does by itself, apart from what its parts do. -/
def effect? : Expr → Option Effect
  | .name _ .load => none
  | .name id .store => some (.target id)
  | .name id .del => some (.removed id)
  | .walrus target _ => some (.walrus target)
  | .attribute _ _ .load => none
  | .attribute value attr ctx => some (.spelled (.attribute value attr ctx))
  | .call func args keywords => some (.spelled (.call func args keywords))
  | _ => none

def effects (e : Expr) : List Effect :=
  e.parts.filterMap effect?

/-- The changes that expressions at a place make. -/
def changesIn (place : Position) (es : List Expr) : List Change :=
  es.flatMap fun e => e.effects.map (⟨·, place⟩)

theorem changesIn_append (place : Position) (es ds : List Expr) :
    changesIn place (es ++ ds) = changesIn place es ++ changesIn place ds :=
  List.flatMap_append

theorem changesIn_cons (place : Position) (e : Expr) (es : List Expr) :
    changesIn place (e :: es) = changesIn place [e] ++ changesIn place es :=
  changesIn_append place [e] es

/-- The changes that a target of a deletion makes. -/
def deletions : Expr → List Change
  | .name id .del => [⟨.deleted id, .code⟩]
  | e => changesIn .code [e]

/-- The components of `a.b.c`, when it is read. -/
def dotted? : Expr → Option (List String)
  | .name id .load => some [id]
  | .attribute value attr .load => value.dotted?.map (· ++ [attr])
  | _ => none

theorem dotted?_path (head : String) (attrs : List String) :
    (path head attrs).dotted? = some (head :: attrs) := by
  have hfold : ∀ (root : Expr) (names : List String), root.dotted? = some names →
      (attrs.foldl (fun e a => .attribute e a .load) root).dotted? = some (names ++ attrs) := by
    induction attrs with
    | nil => simp
    | cons a attrs ih =>
      intro root names hroot
      rw [List.foldl_cons, ih _ (names ++ [a]) (by rw [dotted?, hroot]; rfl)]
      simp
  exact hfold (.name head .load) [head] rfl

end Expr

open StateWeave.Expr (changesIn deletions)

namespace Stmt

/-- The changes that a statement makes by itself, less those of its blocks. -/
def ownChanges : Stmt → List Change
  | .functionDef h _ =>
    changesIn .code h.evaluated ++ changesIn .signature h.annots ++ [⟨.declared h.name, .code⟩]
  | .classDef h _ => changesIn .code h.evaluated ++ [⟨.declared h.name, .code⟩]
  | .imports _ names => (names.filterMap Binding.ofAlias).map fun n => ⟨.declared n, .code⟩
  | .delete targets => targets.flatMap deletions
  | .assign [.name id _] value =>
    ⟨.sole id, .assigned id⟩ :: changesIn (.assigned id) [value]
  | .augAssign (.name id ctx) _ value => changesIn (.assigned id) [.name id ctx, value]
  | .annAssign target annot none _ =>
    changesIn .unassigned [target] ++ changesIn .annot [annot]
  | .annAssign (.name id _) annot (some value) _ =>
    ⟨.sole id, .assigned id⟩ :: (changesIn .annot [annot] ++ changesIn (.assigned id) [value])
  | .annAssign target annot (some value) _ =>
    changesIn .code [target] ++ changesIn .annot [annot] ++ changesIn .code [value]
  | .matchStmt subject cases =>
    changesIn .code (evaluated (.matchStmt subject cases)) ++
      cases.flatMap fun c => c.pattern.captures.map fun n => ⟨.captured n, .code⟩
  | .tryStmt isGroup body handlers orelse finalbody =>
    changesIn .code (evaluated (.tryStmt isGroup body handlers orelse finalbody)) ++
      handlers.flatMap fun h => h.name.toList.map fun n => ⟨.captured n, .code⟩
  | s => changesIn .code s.evaluated

/-- Every change that a statement makes in the scope it runs in. -/
def changes (s : Stmt) : List Change :=
  s.parts.flatMap ownChanges

def changesBlock (b : Block) : List Change :=
  (partsBlock b).flatMap ownChanges

end Stmt

namespace ClassScope

section Writes

variable (s : ClassScope)

def isOwner (e : Expr) : Bool :=
  e.dotted?.isSome && e.dotted? == s.owner.dotted?

/-- The write to the owner that an expression is. -/
def writeOf? : Expr → Option OwnerWrite
  | .attribute value attr ctx =>
    if ctx ≠ .load ∧ s.isOwner value = true then some (.attribute attr ctx) else none
  | .call (.attribute (.name id .load) "store_static" .load) (owner :: .constant (.str attr) :: _) _
    => if id = s.runtimeAlias ∧ s.isOwner owner = true then some (.static attr) else none
  | _ => none

/-- The writes to the owner that a statement makes by itself. -/
def ownWrites (x : Stmt) : List OwnerWrite :=
  (x.evaluated.flatMap Expr.parts).filterMap s.writeOf?

/-- Every write to the owner that a block makes in the scope it runs in. -/
def writes (b : Block) : List OwnerWrite :=
  (Stmt.partsBlock b).flatMap s.ownWrites

/-- Whether a name of the class is stored by rewritten code. -/
def stores (name : String) : Bool :=
  s.inScope name && !s.retains name

/-- What an effect in rewritten code is. A deletion in a larger target is not looked at again. -/
def writeFor : Effect → Option OwnerWrite
  | .sole name | .walrus name =>
    if s.stores name then some (.static (mangle s.className name)) else none
  | .target name | .declared name =>
    if s.stores name then some (.attribute name .store) else none
  | .removed name => if s.inScope name then some (.attribute name .del) else none
  | .deleted name => if s.stores name then some (.attribute name .del) else none
  | .captured _ => none
  | .spelled e => s.writeOf? (s.rewriteExpr e)

/-- What an effect in code that is kept as it stands is. -/
def writeKept : Effect → Option OwnerWrite
  | .spelled e => s.writeOf? e
  | _ => none

/-- The write to the owner that a change becomes, if any. -/
def becomes (c : Change) : Option OwnerWrite :=
  match c.place with
  | .code => s.writeFor c.effect
  | .assigned name => if s.retains name then none else s.writeFor c.effect
  | .annot | .unassigned => none
  | .signature => s.writeKept c.effect

end Writes

/-- The owner is reached by a path, and what is retained is a name of the scope. -/
structure Grounded (s : ClassScope) : Prop where
  owner : ∃ head attrs, s.owner = .path head attrs
  retained : ∀ name, s.retains name = true → s.inScope name = true

variable {s : ClassScope}

namespace Grounded

theorem isOwner (hs : s.Grounded) : s.isOwner s.owner = true := by
  obtain ⟨head, attrs, howner⟩ := hs.owner
  rw [ClassScope.isOwner, howner, Expr.dotted?_path]
  simp

theorem retains_of_not_inScope (hs : s.Grounded) {name : String} (h : s.inScope name = false) :
    s.retains name = false := by
  cases hr : s.retains name with
  | false => rfl
  | true => rw [hs.retained name hr] at h; cases h

/-- The expression for the owner writes nothing. -/
theorem writes_owner (hs : s.Grounded) : s.owner.parts.filterMap s.writeOf? = [] := by
  obtain ⟨head, attrs, howner⟩ := hs.owner
  rw [howner]
  refine Expr.path_induction (motive := fun e => e.parts.filterMap s.writeOf? = []) rfl ?_
  intro e attr he
  rw [Expr.parts, List.filterMap_cons_none (by simp [writeOf?]), he]

/-- An attribute of the owner is one write, unless it is read. -/
theorem writes_member (hs : s.Grounded) (name : String) (ctx : Ctx) :
    (s.member name ctx).parts.filterMap s.writeOf? =
      if ctx = .load then [] else [.attribute name ctx] := by
  have howner := hs.isOwner
  rw [member, Expr.parts]
  split_ifs with hctx
  · rw [List.filterMap_cons_none (by simp [writeOf?, hctx]), hs.writes_owner]
  · rw [List.filterMap_cons_some (b := .attribute name ctx) (by simp [writeOf?, hctx, howner]),
      hs.writes_owner]

/-- A store through the runtime is one write, and then those of its value. -/
theorem writes_storeStatic (hs : s.Grounded) (name : String) (value : Expr) :
    (s.storeStatic name value).parts.filterMap s.writeOf? =
      .static (mangle s.className name) :: value.parts.filterMap s.writeOf? := by
  have howner := hs.isOwner
  have hself : s.writeOf? (s.storeStatic name value) =
      some (.static (mangle s.className name)) := by simp [storeStatic, writeOf?, howner]
  rw [s.parts_storeStatic, List.filterMap_cons_some hself, List.filterMap_append,
    List.filterMap_append, List.filterMap_append, hs.writes_owner]
  rfl

end Grounded

/-- Rewritten expressions write what the effects of their sources become. -/
def Follows (s : ClassScope) (rewritten source : List Expr) : Prop :=
  rewritten.filterMap s.writeOf? = (source.filterMap Expr.effect?).filterMap s.writeFor

theorem rewriteName_of_not_inScope {id : String} (h : s.inScope id = false) (ctx : Ctx) :
    s.rewriteName id ctx = .name id ctx := by
  simp [rewriteName, h]

theorem rewriteName_of_stores {id : String} (h : s.stores id = true) (ctx : Ctx) :
    s.rewriteName id ctx = s.member id ctx := by
  simp only [stores, Bool.and_eq_true, Bool.not_eq_true'] at h
  simp [rewriteName, h]

theorem rewriteName_of_ne_store {id : String} (h : s.inScope id = true) {ctx : Ctx}
    (hctx : ctx ≠ .store) : s.rewriteName id ctx = s.member id ctx := by
  simp [rewriteName, h, hctx]

theorem rewriteName_of_retains {id : String} (h : s.inScope id = true)
    (hret : s.retains id = true) : s.rewriteName id .store = .name discardName .store := by
  simp [rewriteName, h, hret]

theorem follows_name (hs : s.Grounded) (id : String) (ctx : Ctx) :
    s.Follows (s.rewriteName id ctx).parts [.name id ctx] := by
  unfold Follows
  cases hscope : s.inScope id with
  | false =>
    rw [rewriteName_of_not_inScope hscope]
    cases ctx <;>
      simp [Expr.parts, Expr.effect?, writeOf?, writeFor, stores, hscope, List.filterMap_cons]
  | true =>
    cases ctx with
    | load =>
      rw [rewriteName_of_ne_store hscope (by simp), hs.writes_member]
      rfl
    | del =>
      rw [rewriteName_of_ne_store hscope (by simp), hs.writes_member]
      simp [Expr.effect?, writeFor, hscope]
    | store =>
      cases hret : s.retains id with
      | true =>
        rw [rewriteName_of_retains hscope hret]
        simp [Expr.parts, Expr.effect?, writeOf?, writeFor, stores, hret]
      | false =>
        have hstores : s.stores id = true := by simp [stores, hscope, hret]
        rw [rewriteName_of_stores hstores, hs.writes_member]
        simp [Expr.effect?, writeFor, hstores]

theorem writes_rewriteWalrus (hs : s.Grounded) (target : String) (value : Expr) :
    (s.rewriteWalrus target value).parts.filterMap s.writeOf? =
      (s.writeFor (.walrus target)).toList ++ value.parts.filterMap s.writeOf? := by
  rw [rewriteWalrus]
  split_ifs with hscope hret
  · have hnone : s.writeFor (.walrus target) = none := by simp_all [writeFor, stores]
    rw [hnone, Expr.parts, List.filterMap_cons_none rfl]
    rfl
  · have hnone : s.writeFor (.walrus target) = none := by simp [writeFor, stores, hret]
    rw [hnone, Expr.parts, List.filterMap_cons_none rfl]
    rfl
  · have hsome : s.writeFor (.walrus target) = some (.static (mangle s.className target)) := by
      simp_all [writeFor, stores]
    rw [hsome, hs.writes_storeStatic]
    rfl

/-- What an expression by itself writes once it is rewritten is what its effect becomes. -/
theorem tracks_writes (hs : s.Grounded) :
    s.Tracks (fun e => (s.writeOf? e).toList) fun e => (e.effect?.bind s.writeFor).toList where
  name id ctx := by
    have hname := follows_name hs id ctx
    unfold Follows at hname
    rw [← List.filterMap_eq_flatMap_toList, hname, List.filterMap_filterMap,
      List.filterMap_eq_flatMap_toList, List.flatMap_singleton]
  walrus target value value' := by
    rw [← List.filterMap_eq_flatMap_toList, ← List.filterMap_eq_flatMap_toList,
      writes_rewriteWalrus hs]
    rfl
  other e he := by
    cases e with
    | «attribute» value attr ctx => cases ctx <;> rfl
    | name | walrus => cases he
    | _ => rfl

/-- The writes of a rewritten expression are what its effects become. -/
theorem follows_rewriteExpr (hs : s.Grounded) (e : Expr) :
    s.Follows (s.rewriteExpr e).parts e.parts := by
  have hmatches := (tracks_writes hs).matches e
  unfold Matches at hmatches
  unfold Follows
  rw [List.filterMap_filterMap, List.filterMap_eq_flatMap_toList, hmatches,
    List.filterMap_eq_flatMap_toList]

end ClassScope

end StateWeave
