import StateWeave.Proofs.Changes
import StateWeave.Proofs.Tracking

/-! The names that code of one scope uses: as expressions and in targets, by declarations and by
captures. One table says what each use is rendered as when class-scope code is rewritten, and the
uses of rewritten code are what the uses of the code are rendered as, each in its turn. -/

namespace StateWeave

/-- One use of a name. -/
inductive Use
  /-- Stands by itself or in a target. -/
  | bare (o : Occurrence)
  /-- Is a target of a deletion. -/
  | deleted (o : Occurrence)
  /-- Is the one target of an assignment. -/
  | sole (name : String)
  | walrus (name : String)
  /-- The names that an import, a `def` or a `class` binds. -/
  | declared (names : List String)
  /-- Binds part of a matched subject, or an exception. -/
  | captured (name : String)
  /-- The names that a statement says belong to a scope further out. -/
  | foreign (names : List String)
deriving DecidableEq, Repr, Inhabited

structure PlacedUse where
  use : Use
  place : Position
deriving DecidableEq, Repr, Inhabited

namespace Use

/-- The names that are expressions of the code; all others are only spelled in a statement. -/
def named : Use → List String
  | .bare o | .deleted o => [o.name]
  | .sole name | .walrus name => [name]
  | .declared _ | .captured _ | .foreign _ => []

/-- The names that are bound. A deletion makes a name one of the scope too. -/
def bound : Use → List String
  | .bare o | .deleted o => if o.ctx = .load then [] else [o.name]
  | .sole name | .walrus name | .captured name => [name]
  | .declared names => names
  | .foreign _ => []

/-- The names that are not of this scope, wherever it binds them. -/
def outer : Use → List String
  | .foreign names => names
  | _ => []

end Use

namespace Expr

/-- The use of a name that an expression is by itself. -/
def use? : Expr → Option Use
  | .name id ctx => some (.bare ⟨id, ctx⟩)
  | .walrus target _ => some (.walrus target)
  | _ => none

def uses (e : Expr) : List Use :=
  e.parts.flatMap (·.use?.toList)

def usesIn (place : Position) (es : List Expr) : List PlacedUse :=
  es.flatMap fun e => e.uses.map (⟨·, place⟩)

theorem usesIn_append (place : Position) (es ds : List Expr) :
    usesIn place (es ++ ds) = usesIn place es ++ usesIn place ds :=
  List.flatMap_append

theorem usesIn_cons (place : Position) (e : Expr) (es : List Expr) :
    usesIn place (e :: es) = usesIn place [e] ++ usesIn place es :=
  usesIn_append place [e] es

/-- The uses that a target of a deletion is. -/
def deletedUses : Expr → List PlacedUse
  | .name id ctx => [⟨.deleted ⟨id, ctx⟩, .code⟩]
  | e => usesIn .code [e]

/-- Whether an expression is a name. -/
def isName : Expr → Bool
  | .name _ _ => true
  | _ => false

/-- The name that a dotted expression begins with. -/
def root : Expr → String
  | .name id _ => id
  | .attribute value _ _ => value.root
  | _ => ""

theorem root_path (head : String) (attrs : List String) : (path head attrs).root = head :=
  path_induction (motive := fun e => e.root = head) rfl fun _ _ he => he

theorem uses_path (head : String) (attrs : List String) :
    (path head attrs).uses = [.bare ⟨head, .load⟩] :=
  path_induction (motive := fun e => e.uses = [.bare ⟨head, .load⟩]) rfl fun _ _ he => he

end Expr

open StateWeave.Expr (usesIn usesIn_append usesIn_cons deletedUses)

namespace Stmt

/-- The uses of names in a statement by itself, less those of its blocks. -/
def ownUses : Stmt → List PlacedUse
  | .functionDef h _ =>
    usesIn .code h.evaluated ++ usesIn .signature h.annots ++ [⟨.declared [h.name], .code⟩]
  | .classDef h _ => usesIn .code h.evaluated ++ [⟨.declared [h.name], .code⟩]
  | .imports _ names => [⟨.declared (names.filterMap Binding.ofAlias), .code⟩]
  | .scope _ names => [⟨.foreign names, .code⟩]
  | .delete targets => targets.flatMap deletedUses
  | .assign [.name id _] value => ⟨.sole id, .assigned id⟩ :: usesIn (.assigned id) [value]
  | .augAssign (.name id ctx) _ value => usesIn (.assigned id) [.name id ctx, value]
  | .annAssign target annot none _ => usesIn .unassigned [target] ++ usesIn .annot [annot]
  | .annAssign (.name id _) annot (some value) _ =>
    ⟨.sole id, .assigned id⟩ :: (usesIn .annot [annot] ++ usesIn (.assigned id) [value])
  | .annAssign target annot (some value) _ =>
    usesIn .code [target] ++ usesIn .annot [annot] ++ usesIn .code [value]
  | .matchStmt subject cases =>
    usesIn .code (evaluated (.matchStmt subject cases)) ++
      cases.flatMap fun c => c.pattern.captures.map fun n => ⟨.captured n, .code⟩
  | .tryStmt isGroup body handlers orelse finalbody =>
    usesIn .code (evaluated (.tryStmt isGroup body handlers orelse finalbody)) ++
      handlers.flatMap fun h => h.name.toList.map fun n => ⟨.captured n, .code⟩
  | s => usesIn .code s.evaluated

/-- Every use of a name in the scope that a block runs in. -/
def usesBlock (b : Block) : List PlacedUse :=
  (partsBlock b).flatMap ownUses

/-- An assignment to anything but one name by itself. -/
theorem ownUses_assign {targets : List Expr} (value : Expr)
    (h : ∀ target, targets = [target] → target.isName = false) :
    (assign targets value).ownUses = usesIn .code (targets ++ [value]) := by
  rcases targets with - | ⟨target, - | ⟨next, rest⟩⟩
  · rfl
  · have hname := h target rfl
    cases target <;> first | rfl | cases hname
  · cases target <;> rfl

/-- Every name that is an expression of the scope that a block runs in. -/
def namedBlock (b : Block) : List String :=
  (partsBlock b).flatMap fun x => x.evaluated.flatMap fun e => e.uses.flatMap Use.named

theorem named_usesIn (place : Position) (es : List Expr) :
    (usesIn place es).flatMap (·.use.named) = es.flatMap fun e => e.uses.flatMap Use.named := by
  unfold Expr.usesIn
  rw [List.flatMap_assoc]
  simp only [List.flatMap_map]

theorem named_captured (names : List String) :
    (names.map fun n => (⟨.captured n, .code⟩ : PlacedUse)).flatMap (·.use.named) = [] := by
  rw [List.flatMap_map, List.flatMap_eq_nil_iff]
  exact fun _ _ => rfl

/-- The uses of a statement leave out no name among what it evaluates. -/
theorem named_ownUses (x : Stmt) :
    x.ownUses.flatMap (·.use.named) = x.evaluated.flatMap fun e => e.uses.flatMap Use.named := by
  cases x with
  | functionDef h body =>
    rw [ownUses, List.flatMap_append, List.flatMap_append, named_usesIn, named_usesIn,
      ← List.flatMap_append]
    exact List.append_nil _
  | classDef h body =>
    rw [ownUses, List.flatMap_append, named_usesIn]
    exact List.append_nil _
  | imports source names => rfl
  | scope kind names => rfl
  | delete targets =>
    rw [ownUses, List.flatMap_assoc, evaluated]
    congr 1
    funext e
    cases e <;> first | rfl | exact (named_usesIn .code [_]).trans (List.flatMap_singleton ..)
  | assign targets value =>
    rcases targets with - | ⟨target, - | ⟨next, rest⟩⟩
    · exact named_usesIn .code _
    · cases target with
      | name id ctx => rw [ownUses, List.flatMap_cons, named_usesIn]; rfl
      | _ => exact named_usesIn .code [_, value]
    · have hown : (assign (target :: next :: rest) value).ownUses = usesIn .code _ :=
        ownUses_assign value nofun
      rw [hown, named_usesIn, evaluated]
  | augAssign target op value =>
    cases target with
    | name id ctx => exact named_usesIn ..
    | _ => exact named_usesIn .code [_, value]
  | annAssign target annot value simple =>
    cases value with
    | none =>
      rw [ownUses, List.flatMap_append, named_usesIn, named_usesIn, ← List.flatMap_append]
      rfl
    | some value =>
      cases target with
      | name id ctx =>
        rw [ownUses, List.flatMap_cons, List.flatMap_append, named_usesIn, named_usesIn,
          ← List.flatMap_append]
        rfl
      | _ =>
        rw [ownUses, List.flatMap_append, List.flatMap_append, named_usesIn, named_usesIn,
          named_usesIn, ← List.flatMap_append, ← List.flatMap_append]
        · rfl
        · nofun
  | matchStmt subject cases =>
    rw [ownUses, List.flatMap_append, named_usesIn, ← List.map_flatMap, named_captured,
      List.append_nil]
  | tryStmt isGroup body handlers orelse finalbody =>
    rw [ownUses, List.flatMap_append, named_usesIn, ← List.map_flatMap, named_captured,
      List.append_nil]
  | _ => exact named_usesIn ..

theorem namedBlock_eq (b : Block) : namedBlock b = (usesBlock b).flatMap (·.use.named) := by
  rw [namedBlock, usesBlock, List.flatMap_assoc]
  simp only [named_ownUses]

theorem name_filledHandler (h : Handler) : (filledHandler h).name = h.name := by
  cases h
  rfl

theorem ownUses_filled (x : Stmt) : x.filled.ownUses = x.ownUses := by
  have hevaluated := x.evaluated_filled
  cases x with
  | matchStmt subject cases =>
    rw [filled] at hevaluated ⊢
    rw [ownUses, ownUses, hevaluated, filledCases_eq_map, List.flatMap_map]
    simp only [pattern_filledCase]
  | tryStmt isGroup body handlers orelse finalbody =>
    rw [filled] at hevaluated ⊢
    rw [ownUses, ownUses, hevaluated, filledHandlers_eq_map, List.flatMap_map]
    simp only [name_filledHandler]
  | _ => rfl

theorem ownUses_looksAtNoBlock : LooksAtNoBlock ownUses where
  filled := ownUses_filled
  pass := rfl

theorem usesBlock_filled (b : Block) : usesBlock (orPass (filledBlock b)) = usesBlock b := by
  unfold usesBlock
  rw [flatMap_partsBlock_orPass ownUses_looksAtNoBlock,
    flatMap_partsBlock_filled ownUses_looksAtNoBlock]

end Stmt

/-- How a name got into rewritten code. -/
inductive Rendition
  /-- It is a use of the source, as it was there. -/
  | kept (u : Use)
  /-- It leads to the owner, -/
  | owner
  /-- or to the runtime. -/
  | runtime
  /-- It takes in what is not to be stored. -/
  | discard (isWalrus : Bool)
  /-- A nested statement has bound it, and it is read to be stored to the owner. -/
  | rebound (name : String)
deriving DecidableEq, Repr, Inhabited

namespace ClassScope

section Table

variable (s : ClassScope)

/-- What a use of a name is rendered as where code is rewritten. -/
def renditions : Use → List Rendition
  | .bare o =>
    if !s.inScope o.name then [.kept (.bare o)]
    else if o.ctx = .store && s.retains o.name then [.discard false]
    else [.owner]
  | .deleted o =>
    if s.retains o.name then [] else if s.inScope o.name then [.owner] else [.kept (.deleted o)]
  | .sole name => if s.inScope name then [.runtime, .owner] else [.kept (.sole name)]
  | .walrus name =>
    if !s.inScope name then [.kept (.walrus name)]
    else if s.retains name then [.discard true]
    else [.runtime, .owner]
  | .declared names =>
    .kept (.declared names) :: (names.filter s.stores).flatMap fun n => [.owner, .rebound n]
  | .captured name => [.kept (.captured name)]
  | .foreign names => [.kept (.foreign names)]

/-- Assignments to retained names are dropped and annotations are not evaluated. Signatures of
functions stay as they are. -/
def rendered (x : PlacedUse) : List Rendition :=
  match x.place with
  | .code => s.renditions x.use
  | .assigned name => if s.retains name then [] else s.renditions x.use
  | .annot | .unassigned => []
  | .signature => [.kept x.use]

/-- The use of a name that a rendition is. -/
def spelled : Rendition → Use
  | .kept u => u
  | .owner => .bare ⟨s.owner.root, .load⟩
  | .runtime => .bare ⟨s.runtimeAlias, .load⟩
  | .discard false => .bare ⟨discardName, .store⟩
  | .discard true => .walrus discardName
  | .rebound name => .bare ⟨name, .load⟩

end Table

variable {s : ClassScope}

/-- A use that stays as it was is the one that is rendered, and names nothing of the class. -/
theorem kept_of_mem {u v : Use} (h : Rendition.kept v ∈ s.renditions u) :
    v = u ∧ ∀ n ∈ u.named, s.inScope n = false := by
  cases u with
  | bare o =>
    rw [renditions] at h
    split_ifs at h with hscope
    · exact ⟨by simpa using h, by simpa [Use.named] using hscope⟩
    · simp at h
    · simp at h
  | deleted o =>
    rw [renditions] at h
    split_ifs at h with hret hscope
    · simp at h
    · simp at h
    · exact ⟨by simpa using h, by simpa [Use.named] using hscope⟩
  | sole name =>
    rw [renditions] at h
    split_ifs at h with hscope
    · simp at h
    · exact ⟨by simpa using h, by simpa [Use.named] using hscope⟩
  | walrus name =>
    rw [renditions] at h
    split_ifs at h with hscope
    · exact ⟨by simpa using h, by simpa [Use.named] using hscope⟩
    · simp at h
    · simp at h
  | declared names => exact ⟨by simpa [renditions] using h, nofun⟩
  | captured name => exact ⟨by simpa [renditions] using h, nofun⟩
  | foreign names => exact ⟨by simpa [renditions] using h, nofun⟩

theorem Grounded.uses_owner (hs : s.Grounded) : s.owner.uses = [s.spelled .owner] := by
  obtain ⟨head, attrs, howner⟩ := hs.owner
  rw [spelled, howner, Expr.uses_path, Expr.root_path]

theorem Grounded.uses_member (hs : s.Grounded) (name : String) (ctx : Ctx) :
    (s.member name ctx).uses = [s.spelled .owner] :=
  hs.uses_owner

theorem Grounded.uses_storeStatic (hs : s.Grounded) (name : String) (value : Expr) :
    (s.storeStatic name value).uses = [s.spelled .runtime, s.spelled .owner] ++ value.uses := by
  have howner := hs.uses_owner
  unfold Expr.uses at howner ⊢
  rw [parts_storeStatic, List.flatMap_cons, List.flatMap_append, List.flatMap_append,
    List.flatMap_append, howner]
  rfl

theorem uses_rewriteName (hs : s.Grounded) (id : String) (ctx : Ctx) :
    (s.rewriteName id ctx).uses = (s.renditions (.bare ⟨id, ctx⟩)).map s.spelled := by
  rw [rewriteName, renditions]
  split_ifs
  · rfl
  · rfl
  · exact hs.uses_member id ctx

theorem uses_rewriteWalrus (hs : s.Grounded) (target : String) (value : Expr) :
    (s.rewriteWalrus target value).uses =
      (s.renditions (.walrus target)).map s.spelled ++ value.uses := by
  rw [rewriteWalrus, renditions]
  split_ifs
  · rfl
  · rfl
  · exact hs.uses_storeStatic target value

/-- What an expression by itself contributes to the uses of rewritten code. -/
theorem tracks_uses (hs : s.Grounded) : s.Tracks (fun e => e.use?.toList)
    fun e => (e.use?.toList.flatMap s.renditions).map s.spelled where
  name id ctx := (uses_rewriteName hs id ctx).trans
    (congrArg (List.map s.spelled) (List.append_nil _).symm)
  walrus target value value' := (uses_rewriteWalrus hs target value').trans
    (congrArg (List.map s.spelled · ++ value'.uses) (List.append_nil _).symm)
  other e he := by
    cases e <;> first | rfl | cases he

/-- The uses of a rewritten expression are what its uses are rendered as. -/
theorem uses_rewriteExpr (hs : s.Grounded) (e : Expr) :
    (s.rewriteExpr e).uses = (e.uses.flatMap s.renditions).map s.spelled := by
  have h := (tracks_uses hs).matches e
  unfold Matches at h
  rw [Expr.uses, h, Expr.uses, List.flatMap_assoc, List.map_flatMap]

/-- The uses of some placed uses, once they are rendered. -/
def spelledAll (s : ClassScope) (xs : List PlacedUse) : List Use :=
  (xs.flatMap s.rendered).map s.spelled

theorem spelledAll_append (xs ys : List PlacedUse) :
    s.spelledAll (xs ++ ys) = s.spelledAll xs ++ s.spelledAll ys := by
  rw [spelledAll, spelledAll, spelledAll, List.flatMap_append, List.map_append]

theorem spelledAll_cons (x : PlacedUse) (xs : List PlacedUse) :
    s.spelledAll (x :: xs) = (s.rendered x).map s.spelled ++ s.spelledAll xs := by
  rw [spelledAll, spelledAll, List.flatMap_cons, List.map_append]

theorem map_use_usesIn (place : Position) (es : List Expr) :
    (usesIn place es).map (·.use) = es.flatMap Expr.uses := by
  unfold Expr.usesIn
  rw [List.map_flatMap]
  congr 1
  funext e
  rw [List.map_map]
  exact List.map_id _

/-- Rewritten expressions use what the expressions are rendered as, where code is rewritten, -/
theorem spelledAll_usesIn (hs : s.Grounded) {place : Position}
    (hplace : ∀ u, s.rendered ⟨u, place⟩ = s.renditions u) (es : List Expr) :
    s.spelledAll (usesIn place es) = (es.map s.rewriteExpr).flatMap Expr.uses := by
  have hsame : (fun u => s.rendered ⟨u, place⟩) = s.renditions := funext hplace
  unfold spelledAll Expr.usesIn
  rw [List.flatMap_map, List.flatMap_assoc, List.map_flatMap]
  congr 1
  funext e
  rw [uses_rewriteExpr hs, List.flatMap_map, hsame]

/-- and nothing where it is dropped. -/
theorem spelledAll_dropped {place : Position} (hplace : ∀ u, s.rendered ⟨u, place⟩ = [])
    (es : List Expr) : s.spelledAll (usesIn place es) = [] := by
  unfold spelledAll Expr.usesIn
  rw [List.map_eq_nil_iff, List.flatMap_eq_nil_iff]
  intro x hx
  obtain ⟨e, -, hx⟩ := List.mem_flatMap.1 hx
  obtain ⟨u, -, rfl⟩ := List.mem_map.1 hx
  exact hplace u

theorem spelledAll_code (hs : s.Grounded) (es : List Expr) :
    s.spelledAll (usesIn .code es) = (es.map s.rewriteExpr).flatMap Expr.uses :=
  spelledAll_usesIn hs (fun _ => rfl) es

theorem spelledAll_assigned (hs : s.Grounded) {name : String} (h : s.retains name = false)
    (es : List Expr) :
    s.spelledAll (usesIn (.assigned name) es) = (es.map s.rewriteExpr).flatMap Expr.uses :=
  spelledAll_usesIn hs (fun u => by simp [rendered, h]) es

theorem spelledAll_retained {name : String} (h : s.retains name = true) (es : List Expr) :
    s.spelledAll (usesIn (.assigned name) es) = [] :=
  spelledAll_dropped (fun u => by simp [rendered, h]) es

theorem spelledAll_annot (es : List Expr) : s.spelledAll (usesIn .annot es) = [] :=
  spelledAll_dropped (fun _ => rfl) es

theorem spelledAll_signature (es : List Expr) :
    s.spelledAll (usesIn .signature es) = es.flatMap Expr.uses := by
  unfold spelledAll Expr.usesIn
  rw [List.flatMap_assoc, List.map_flatMap]
  congr 1
  funext e
  rw [List.flatMap_map]
  induction e.uses with
  | nil => rfl
  | cons u us ih =>
    rw [List.flatMap_cons, List.map_append, ih]
    rfl

/-- What a statement becomes uses what the uses of the statement are rendered as. -/
def Voices (s : ClassScope) (ys : Block) (x : Stmt) : Prop :=
  ys.flatMap (fun y => y.ownUses.map (·.use)) = s.spelledAll x.ownUses

theorem voices_singleton {x y : Stmt} (h : y.ownUses.map (·.use) = s.spelledAll x.ownUses) :
    s.Voices [y] x :=
  (List.flatMap_singleton ..).trans h

/-- A statement all of whose expressions are rewritten. -/
theorem voices_code (hs : s.Grounded) {x y : Stmt} (es : List Expr)
    (hx : x.ownUses = usesIn .code es)
    (hy : y.ownUses = usesIn .code (es.map s.rewriteExpr)) : s.Voices [y] x := by
  refine voices_singleton ?_
  rw [hy, map_use_usesIn, hx, spelledAll_code hs]

theorem voices_evaluated (hs : s.Grounded) {x y : Stmt}
    (h : y.evaluated = x.evaluated.map s.rewriteExpr) (hx : x.ownUses = usesIn .code x.evaluated)
    (hy : y.ownUses = usesIn .code y.evaluated) : s.Voices [y] x :=
  voices_code hs x.evaluated hx (hy.trans (congrArg (usesIn .code) h))

theorem isName_rewriteExpr {e : Expr} (h : e.isName = false) :
    (s.rewriteExpr e).isName = false := by
  cases e with
  | name id ctx => cases h
  | walrus target value =>
    rw [rewriteExpr, rewriteWalrus]
    split_ifs <;> rfl
  | _ => rfl

theorem voices_assign (hs : s.Grounded) {targets : List Expr} (value : Expr)
    (h : ∀ target, targets = [target] → target.isName = false) :
    s.Voices [.assign (s.rewriteExprs targets) (s.rewriteExpr value)] (.assign targets value) := by
  have hrewritten : ∀ target, s.rewriteExprs targets = [target] → target.isName = false := by
    intro target htarget
    rw [rewriteExprs_eq_map, List.map_eq_singleton_iff] at htarget
    obtain ⟨e, rfl, rfl⟩ := htarget
    exact isName_rewriteExpr (h e rfl)
  refine voices_code hs (targets ++ [value]) (Stmt.ownUses_assign value h) ?_
  rw [Stmt.ownUses_assign _ hrewritten, rewriteExprs_eq_map, List.map_append, List.map_singleton]

/-- An assignment to one name: it goes through the runtime, is dropped, or stays an assignment. -/
theorem voices_rewriteStore (hs : s.Grounded) {id : String} {ctx : Ctx} {value : Expr} {x : Stmt}
    (hx : s.spelledAll x.ownUses =
      s.spelledAll (⟨.sole id, .assigned id⟩ :: usesIn (.assigned id) [value])) :
    s.Voices (s.rewriteStore (.name id ctx) (s.rewriteExpr value)
      (.assign [s.rewriteExpr (.name id ctx)] (s.rewriteExpr value))) x := by
  unfold Voices
  rw [hx, spelledAll_cons, rewriteStore]
  split_ifs with hscope hret
  · have hout : s.inScope id = false := by simpa using hscope
    have hkept := hs.retains_of_not_inScope hout
    have hrendered : s.rendered ⟨.sole id, .assigned id⟩ = [.kept (.sole id)] := by
      simp [rendered, renditions, hkept, hout]
    rw [hrendered, spelledAll_assigned hs hkept, rewriteExpr, rewriteName, if_pos hscope,
      List.flatMap_singleton, Stmt.ownUses, List.map_cons, map_use_usesIn]
    rfl
  · have hdropped : s.rendered ⟨.sole id, .assigned id⟩ = [] := by simp [rendered, hret]
    rw [hdropped, spelledAll_retained hret]
    rfl
  · have hin : s.inScope id = true := by simpa using hscope
    have hkept : s.retains id = false := by simpa using hret
    have hrendered : s.rendered ⟨.sole id, .assigned id⟩ = [.runtime, .owner] := by
      simp [rendered, renditions, hkept, hin]
    have hown : (Stmt.expr (s.storeStatic id (s.rewriteExpr value))).ownUses =
        usesIn .code [s.storeStatic id (s.rewriteExpr value)] := rfl
    rw [hrendered, spelledAll_assigned hs hkept, List.flatMap_singleton, hown, map_use_usesIn,
      List.flatMap_singleton, hs.uses_storeStatic, List.map_singleton, List.flatMap_singleton]
    rfl

theorem voices_rewriteAssign (hs : s.Grounded) (targets : List Expr) (value : Expr) :
    s.Voices (s.rewriteAssign targets value) (.assign targets value) := by
  rcases targets with - | ⟨target, - | ⟨next, rest⟩⟩
  · exact voices_assign hs value nofun
  · cases target with
    | name id ctx => exact voices_rewriteStore hs rfl
    | _ =>
      refine voices_assign hs value fun target htarget => ?_
      rw [← List.singleton_inj.1 htarget]
      rfl
  · exact voices_assign hs value nofun

theorem voices_rewriteAnnAssign (hs : s.Grounded) (target annot : Expr) (value : Option Expr)
    (simple : Option Int) :
    s.Voices (s.rewriteAnnAssign target value) (.annAssign target annot value simple) := by
  cases value with
  | none =>
    unfold Voices
    rw [Stmt.ownUses, spelledAll_append, spelledAll_annot, spelledAll_dropped fun _ => rfl]
    rfl
  | some value =>
    have hgeneral : target.isName = false → s.spelledAll (usesIn .code [target] ++
        usesIn .annot [annot] ++ usesIn .code [value]) =
          (Stmt.assign [s.rewriteExpr target] (s.rewriteExpr value)).ownUses.map (·.use) := by
      intro hname
      have hassign : ∀ e, [s.rewriteExpr target] = [e] → e.isName = false := by
        intro e he
        rw [← List.singleton_inj.1 he]
        exact isName_rewriteExpr hname
      rw [spelledAll_append, spelledAll_append, spelledAll_annot, spelledAll_code hs,
        spelledAll_code hs, Stmt.ownUses_assign _ hassign, map_use_usesIn]
      simp
    cases target with
    | name id ctx =>
      refine voices_rewriteStore hs ?_
      rw [Stmt.ownUses, spelledAll_cons, spelledAll_cons, spelledAll_append, spelledAll_annot]
      rfl
    | _ => exact voices_singleton (hgeneral rfl).symm

theorem use_ownUses_augAssign (target : Expr) (op : BinOp) (value : Expr) :
    (Stmt.augAssign target op value).ownUses.map (·.use) = [target, value].flatMap Expr.uses := by
  cases target with
  | name id ctx => exact map_use_usesIn (.assigned id) _
  | _ => exact map_use_usesIn .code _

theorem voices_rewriteAugAssign (hs : s.Grounded) (target : Expr) (op : BinOp) (value : Expr) :
    s.Voices (s.rewriteAugAssign target op value) (.augAssign target op value) := by
  unfold rewriteAugAssign
  split_ifs with hret
  · cases target with
    | name id ctx =>
      unfold Voices
      rw [Stmt.ownUses, spelledAll_retained hret]
      rfl
    | _ => cases hret
  · refine voices_singleton ((use_ownUses_augAssign ..).trans ?_)
    cases target with
    | name id ctx =>
      have hkept : s.retains id = false := by simpa [isRetainedName] using hret
      rw [Stmt.ownUses, spelledAll_assigned hs hkept]
      rfl
    | _ => exact (spelledAll_code hs [_, value]).symm

theorem deletedUses_of_not_isName {e : Expr} (h : e.isName = false) :
    deletedUses e = usesIn .code [e] := by
  cases e <;> first | rfl | cases h

/-- A target of a deletion that is not dropped. -/
theorem use_deletedUses_rewriteExpr (hs : s.Grounded) {target : Expr}
    (h : s.isRetainedName target = false) :
    (deletedUses (s.rewriteExpr target)).map (·.use) = s.spelledAll (deletedUses target) := by
  cases target with
  | name id ctx =>
    have hkept : s.retains id = false := h
    by_cases hin : s.inScope id = true
    · have hmember : s.rewriteExpr (.name id ctx) = s.member id ctx := by
        simp [rewriteExpr, rewriteName, hin, hkept]
      have hrendered : s.rendered ⟨.deleted ⟨id, ctx⟩, .code⟩ = [.owner] := by
        simp [rendered, renditions, hin, hkept]
      rw [hmember, deletedUses_of_not_isName rfl, map_use_usesIn, List.flatMap_singleton,
        hs.uses_member, Expr.deletedUses, spelledAll, List.flatMap_singleton, hrendered,
        List.map_singleton]
    · have hstays : s.rewriteExpr (.name id ctx) = .name id ctx := by
        simp [rewriteExpr, rewriteName, hin]
      have hrendered : s.rendered ⟨.deleted ⟨id, ctx⟩, .code⟩ = [.kept (.deleted ⟨id, ctx⟩)] := by
        simp [rendered, renditions, hin, hkept]
      rw [hstays, Expr.deletedUses, spelledAll, List.flatMap_singleton, hrendered]
      rfl
  | walrus name value =>
    rw [deletedUses_of_not_isName (isName_rewriteExpr rfl), map_use_usesIn,
      deletedUses_of_not_isName rfl, spelledAll_code hs]
    rfl
  | _ =>
    rw [deletedUses_of_not_isName rfl, map_use_usesIn, deletedUses_of_not_isName rfl,
      spelledAll_code hs]
    rfl

/-- Of the targets of a deletion the retained names are dropped. -/
theorem voices_rewriteDelete (hs : s.Grounded) (targets : List Expr) :
    s.Voices (s.rewriteDelete targets) (.delete targets) := by
  have hkept : ((s.rewriteExprs (s.keptTargets targets)).flatMap deletedUses).map (·.use) =
      s.spelledAll (targets.flatMap deletedUses) := by
    rw [rewriteExprs_eq_map, keptTargets]
    induction targets with
    | nil => rfl
    | cons target targets ih =>
      rw [List.flatMap_cons, spelledAll_append, ← ih]
      by_cases hret : s.isRetainedName target = true
      · have hnone : s.spelledAll (deletedUses target) = [] := by
          cases target with
          | name id ctx =>
            have hname : s.retains id = true := hret
            simp [deletedUses, spelledAll, rendered, renditions, hname]
          | _ => cases hret
        rw [List.filter_cons_of_neg (by simpa using hret), hnone, List.nil_append]
      · have hsome := use_deletedUses_rewriteExpr hs (Bool.eq_false_iff.2 hret)
        rw [List.filter_cons_of_pos (by simpa using hret), List.map_cons, List.flatMap_cons,
          List.map_append, hsome]
  unfold rewriteDelete
  split
  next hnil =>
    unfold Voices
    rw [Stmt.ownUses, ← hkept, hnil]
    rfl
  next => exact voices_singleton hkept

/-- Once a nested statement has bound its names, each that is stored to the owner is read. -/
theorem use_rebind (hs : s.Grounded) (names : List String) :
    (s.rebind names).flatMap (fun y => y.ownUses.map (·.use)) =
      ((names.filter s.stores).flatMap fun n => [.owner, .rebound n]).map s.spelled := by
  have hown : ∀ n, (Stmt.assign [s.member n .store] (.name n .load)).ownUses.map (·.use) =
      [s.spelled .owner, s.spelled (.rebound n)] := by
    intro n
    rw [Stmt.ownUses_assign (.name n .load) fun e he => List.singleton_inj.1 he ▸ rfl,
      map_use_usesIn, List.singleton_append, List.flatMap_cons, hs.uses_member]
    rfl
  unfold rebind
  rw [List.flatMap_map, List.map_flatMap]
  simp only [hown]
  rfl

theorem spelledAll_declared (names : List String) :
    s.spelledAll [⟨.declared names, .code⟩] = .declared names ::
      ((names.filter s.stores).flatMap fun n => [.owner, .rebound n]).map s.spelled := by
  rw [spelledAll, List.flatMap_singleton]
  rfl

theorem voices_functionDef (hs : s.Grounded) (h : FunctionHeader) (body : Block) :
    s.Voices (.functionDef (s.rewriteFunction h) body :: s.rebind [h.name])
      (.functionDef h body) := by
  unfold Voices
  rw [List.flatMap_cons, use_rebind hs, Stmt.ownUses, Stmt.ownUses, evaluated_rewriteFunction,
    annots_rewriteFunction, List.map_append, List.map_append, map_use_usesIn, map_use_usesIn,
    spelledAll_append, spelledAll_append, spelledAll_code hs, spelledAll_signature,
    spelledAll_declared, List.append_assoc]
  rfl

theorem voices_classDef (hs : s.Grounded) (h : ClassHeader) (body : Block) :
    s.Voices (.classDef (s.rewriteClass h) body :: s.rebind [h.name]) (.classDef h body) := by
  unfold Voices
  rw [List.flatMap_cons, use_rebind hs, Stmt.ownUses, Stmt.ownUses, evaluated_rewriteClass,
    List.map_append, map_use_usesIn, spelledAll_append, spelledAll_code hs, spelledAll_declared,
    List.append_assoc]
  rfl

theorem voices_imports (hs : s.Grounded) (source : ImportSource) (names : List Alias) :
    s.Voices (.imports source names :: s.rebind (names.filterMap Binding.ofAlias))
      (.imports source names) := by
  unfold Voices
  rw [List.flatMap_cons, use_rebind hs, Stmt.ownUses, spelledAll_declared]
  rfl

/-- Names that a block captures are captured as they were. -/
theorem spelledAll_captured (names : List String) :
    s.spelledAll (names.map fun n => ⟨.captured n, .code⟩) = names.map .captured := by
  induction names with
  | nil => rfl
  | cons n names ih =>
    rw [List.map_cons, spelledAll_cons, ih]
    rfl

mutual

theorem captures_rewritePattern : ∀ p : Pattern, (s.rewritePattern p).captures = p.captures
  | .value _ | .singleton _ | .star _ | .capture none _ => rfl
  | .sequence patterns => captures_rewritePatterns patterns
  | .mapping _ patterns rest => congrArg (· ++ rest.toList) (captures_rewritePatterns patterns)
  | .classPattern _ patterns _ named => by
    rw [rewritePattern, Pattern.captures, Pattern.captures, captures_rewritePatterns patterns,
      captures_rewritePatterns named]
  | .capture (some pattern) name =>
    congrArg (· ++ name.toList) (captures_rewritePattern pattern)
  | .alternatives patterns => captures_rewritePatterns patterns

theorem captures_rewritePatterns : ∀ ps : List Pattern,
    Pattern.capturesList (s.rewritePatterns ps) = Pattern.capturesList ps
  | [] => rfl
  | p :: ps => by
    rw [rewritePatterns, Pattern.capturesList, Pattern.capturesList, captures_rewritePattern p,
      captures_rewritePatterns ps]

end

/-- A statement that captures names besides. -/
theorem voices_capturing (hs : s.Grounded) {x y : Stmt} (es : List Expr) (names : List String)
    (hx : x.ownUses = usesIn .code es ++ names.map fun n => ⟨.captured n, .code⟩)
    (hy : y.ownUses =
      usesIn .code (es.map s.rewriteExpr) ++ names.map fun n => ⟨.captured n, .code⟩) :
    s.Voices [y] x := by
  refine voices_singleton ?_
  rw [hy, hx, List.map_append, map_use_usesIn, spelledAll_append, spelledAll_code hs,
    spelledAll_captured, List.map_map]
  rfl

theorem captures_rewriteCase (c : MatchCase) :
    (s.rewriteCase c).pattern.captures = c.pattern.captures := by
  obtain ⟨pattern, guard, body⟩ := c
  exact captures_rewritePattern pattern

theorem name_rewriteHandler (h : Handler) : (s.rewriteHandler h).name = h.name := by
  obtain ⟨type, name, body⟩ := h
  rfl

theorem voices_matchStmt (hs : s.Grounded) (subject : Expr) (cases : List MatchCase) :
    s.Voices [.matchStmt (s.rewriteExpr subject) (s.rewriteCases cases)]
      (.matchStmt subject cases) := by
  refine voices_capturing hs (Stmt.matchStmt subject cases).evaluated
    (cases.flatMap (·.pattern.captures)) ?_ ?_
  · rw [Stmt.ownUses, List.map_flatMap]
  · rw [Stmt.ownUses, Stmt.evaluated, Stmt.evaluated, rewriteCases_eq_map, List.flatMap_map,
      List.flatMap_map, List.map_cons, List.map_flatMap, List.map_flatMap]
    simp only [evaluated_rewriteCase, captures_rewriteCase]

theorem voices_tryStmt (hs : s.Grounded) (isGroup : Bool) (body : Block) (handlers : List Handler)
    (orelse finalbody : Block) :
    s.Voices [.tryStmt isGroup (s.rewriteBlock body) (s.rewriteHandlers handlers)
      (s.rewriteBlock orelse) (s.rewriteBlock finalbody)]
      (.tryStmt isGroup body handlers orelse finalbody) := by
  refine voices_capturing hs (Stmt.tryStmt isGroup body handlers orelse finalbody).evaluated
    (handlers.flatMap (·.name.toList)) ?_ ?_
  · rw [Stmt.ownUses, List.map_flatMap]
  · rw [Stmt.ownUses, Stmt.evaluated, Stmt.evaluated, rewriteHandlers_eq_map, List.flatMap_map,
      List.flatMap_map, List.map_flatMap, List.map_flatMap]
    simp only [type_rewriteHandler, name_rewriteHandler]

/-- Every statement becomes statements that use what its uses are rendered as. -/
theorem voices_rewriteStmt (hs : s.Grounded) : ∀ x : Stmt, s.Voices (s.rewriteStmt x) x
  | .functionDef h body => voices_functionDef hs h body
  | .classDef h body => voices_classDef hs h body
  | .imports source names => voices_imports hs source names
  | .delete targets => voices_rewriteDelete hs targets
  | .assign targets value => voices_rewriteAssign hs targets value
  | .augAssign target op value => voices_rewriteAugAssign hs target op value
  | .annAssign target annot value simple => voices_rewriteAnnAssign hs target annot value simple
  | .matchStmt subject cases => voices_matchStmt hs subject cases
  | .tryStmt isGroup body handlers orelse finalbody =>
    voices_tryStmt hs isGroup body handlers orelse finalbody
  | .ret value => voices_evaluated hs (s.toList_rewriteOption value) rfl rfl
  | .raise exc cause => by
    refine voices_evaluated hs ?_ rfl rfl
    rw [Stmt.evaluated, Stmt.evaluated, toList_rewriteOption, toList_rewriteOption,
      List.map_append]
  | .assert test msg => by
    refine voices_evaluated hs ?_ rfl rfl
    rw [Stmt.evaluated, Stmt.evaluated, toList_rewriteOption, List.map_cons]
  | .withStmt isAsync items body => by
    refine voices_evaluated hs ?_ rfl rfl
    simp only [Stmt.evaluated, List.flatMap_map, List.map_flatMap, evaluated_rewriteWithItem]
  | .forLoop isAsync target iter body orelse => voices_evaluated hs rfl rfl rfl
  | .whileLoop test body orelse | .ifStmt test body orelse => voices_evaluated hs rfl rfl rfl
  | .scope _ _ => voices_singleton rfl
  | .jump _ => voices_evaluated hs rfl rfl rfl
  | .expr value => voices_evaluated hs rfl rfl rfl

/-- The uses of names in rewritten code are what those of the code are rendered as. -/
theorem uses_rewritten (hs : s.Grounded) (b : Block) :
    (Stmt.usesBlock (orPass (filledBlock (s.rewriteBlock b)))).map (·.use) =
      s.spelledAll (Stmt.usesBlock b) := by
  have hown : ∀ x, (s.rewriteStmt x).flatMap (fun y => y.ownUses.map (·.use)) =
      s.spelledAll x.ownUses := voices_rewriteStmt hs
  have hblock := flatMap_parts_rewriteBlock hown b
  rw [Stmt.usesBlock_filled, Stmt.usesBlock, List.map_flatMap, hblock, Stmt.usesBlock, spelledAll,
    List.flatMap_assoc, List.map_flatMap]
  rfl

end ClassScope

/-- The uses of names in the state statements of a class. -/
def ClassModel.stateUses (c : ClassModel) : List PlacedUse :=
  Stmt.usesBlock (c.initializer.map (·.2))

end StateWeave
