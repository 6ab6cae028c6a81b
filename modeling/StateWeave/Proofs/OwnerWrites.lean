import StateWeave.Proofs.Changes

/-! The writes of rewritten statements. Statement by statement they are what the changes of the
source become, in the same order; filling the blocks that were left empty adds none. -/

namespace StateWeave

open StateWeave.Expr (changesIn changesIn_cons deletions)

namespace ClassScope

variable {s : ClassScope}

theorem filterMap_changesIn (place : Position) (f : Effect → Option OwnerWrite)
    (hf : ∀ effect, s.becomes ⟨effect, place⟩ = f effect) (es : List Expr) :
    (changesIn place es).filterMap s.becomes = (es.flatMap Expr.effects).filterMap f := by
  unfold changesIn
  induction es with
  | nil => rfl
  | cons e es ih =>
    rw [List.flatMap_cons, List.flatMap_cons, List.filterMap_append, List.filterMap_append, ih,
      List.filterMap_map]
    congr 2
    funext effect
    exact hf effect

theorem filterMap_changesIn_none {place : Position}
    (hf : ∀ effect, s.becomes ⟨effect, place⟩ = none) (es : List Expr) :
    (changesIn place es).filterMap s.becomes = [] := by
  rw [filterMap_changesIn place (fun _ => none) hf, List.filterMap_eq_nil_iff]
  exact fun _ _ => rfl

theorem filterMap_effects (hs : s.Grounded) (es : List Expr) :
    (es.flatMap Expr.effects).filterMap s.writeFor =
      ((es.map s.rewriteExpr).flatMap Expr.parts).filterMap s.writeOf? := by
  induction es with
  | nil => rfl
  | cons e es ih =>
    have he := follows_rewriteExpr hs e
    unfold Follows at he
    rw [List.flatMap_cons, List.map_cons, List.flatMap_cons, List.filterMap_append,
      List.filterMap_append, ih, he]
    rfl

/-- What code changes is what its rewriting writes. -/
theorem filterMap_code (hs : s.Grounded) (es : List Expr) :
    (changesIn .code es).filterMap s.becomes =
      ((es.map s.rewriteExpr).flatMap Expr.parts).filterMap s.writeOf? := by
  rw [filterMap_changesIn .code s.writeFor (fun _ => rfl), filterMap_effects hs]

/-- So it is in an assignment to a name that is not retained, -/
theorem filterMap_assigned (hs : s.Grounded) {name : String} (h : s.retains name = false)
    (es : List Expr) :
    (changesIn (.assigned name) es).filterMap s.becomes =
      ((es.map s.rewriteExpr).flatMap Expr.parts).filterMap s.writeOf? := by
  have hbecomes : ∀ effect, s.becomes ⟨effect, .assigned name⟩ = s.writeFor effect := by
    intro effect
    simp [becomes, h]
  rw [filterMap_changesIn _ s.writeFor hbecomes, filterMap_effects hs]

/-- and an assignment to a retained name is lost with all it does. -/
theorem filterMap_assigned_retained {name : String} (h : s.retains name = true) (es : List Expr) :
    (changesIn (.assigned name) es).filterMap s.becomes = [] :=
  filterMap_changesIn_none (fun _ => by simp [becomes, h]) es

theorem filterMap_annot (es : List Expr) :
    (changesIn .annot es).filterMap s.becomes = [] :=
  filterMap_changesIn_none (fun _ => rfl) es

theorem filterMap_unassigned (es : List Expr) :
    (changesIn .unassigned es).filterMap s.becomes = [] :=
  filterMap_changesIn_none (fun _ => rfl) es

/-- Signatures are kept as they stand. -/
theorem filterMap_signature (es : List Expr) :
    (changesIn .signature es).filterMap s.becomes =
      (es.flatMap Expr.parts).filterMap s.writeOf? := by
  have hpart : ∀ e : Expr, e.effect?.bind s.writeKept = s.writeOf? e := by
    intro e
    cases e with
    | «attribute» value attr ctx => cases ctx <;> rfl
    | name id ctx => cases ctx <;> rfl
    | _ => rfl
  have heffects : es.flatMap Expr.effects = (es.flatMap Expr.parts).filterMap Expr.effect? := by
    induction es with
    | nil => rfl
    | cons e es ih =>
      rw [List.flatMap_cons, List.flatMap_cons, List.filterMap_append, ih]
      rfl
  rw [filterMap_changesIn .signature s.writeKept (fun _ => rfl), heffects, List.filterMap_filterMap]
  congr 1
  funext e
  exact hpart e

theorem ownWrites_of_evaluated (hs : s.Grounded) {x : Stmt} (es : List Expr)
    (h : x.evaluated = es.map s.rewriteExpr) :
    s.ownWrites x = (changesIn .code es).filterMap s.becomes := by
  rw [ownWrites, h, filterMap_code hs]

/-- Rewritten statements write what the changes of their sources become. -/
def Renders (s : ClassScope) (rewritten source : List Stmt) : Prop :=
  rewritten.flatMap s.ownWrites = (source.flatMap Stmt.ownChanges).filterMap s.becomes

namespace Renders

/-- One statement stands for one statement. -/
theorem single {x x' : Stmt} (hparts : x.parts = [x])
    (hx : s.ownWrites x = x'.ownChanges.filterMap s.becomes) :
    s.Renders (Stmt.partsBlock [x]) [x'] := by
  unfold Renders
  rw [Stmt.partsBlock, Stmt.partsBlock, List.append_nil, hparts, List.flatMap_singleton,
    List.flatMap_singleton, hx]

theorem lost {x' : Stmt} (hx : x'.ownChanges.filterMap s.becomes = []) :
    s.Renders (Stmt.partsBlock []) [x'] := by
  unfold Renders
  rw [List.flatMap_singleton, hx]
  rfl

/-- What a statement without blocks becomes is all that is rendered. -/
theorem own {x : Stmt} (h : s.Renders (Stmt.partsBlock (s.rewriteStmt x)) [x])
    (hx : x.opensBlock = false) :
    (s.rewriteStmt x).flatMap s.ownWrites = x.ownChanges.filterMap s.becomes := by
  unfold Renders at h
  rwa [partsBlock_rewriteStmt hx, List.flatMap_singleton] at h

end Renders

theorem ownWrites_assign_member (hs : s.Grounded) (name : String) (value : Expr) :
    s.ownWrites (.assign [s.member name .store] value) =
      .attribute name .store :: value.parts.filterMap s.writeOf? := by
  have hmember := hs.writes_member name .store
  rw [ownWrites, Stmt.evaluated, List.singleton_append, List.flatMap_cons, List.flatMap_singleton,
    List.filterMap_append, hmember]
  rfl

/-- What a nested statement has bound is stored to the class, name by name. -/
theorem writes_rebind (hs : s.Grounded) (names : List String) :
    (Stmt.partsBlock (s.rebind names)).flatMap s.ownWrites =
      (names.map fun n => (⟨.declared n, .code⟩ : Change)).filterMap s.becomes := by
  have hsimple : ∀ x ∈ s.rebind names, x.IsSimple := by
    intro x hx
    obtain ⟨name, -, rfl⟩ := List.mem_map.1 hx
    rfl
  rw [Stmt.partsBlock_simple hsimple, rebind]
  clear hsimple
  induction names with
  | nil => rfl
  | cons name names ih =>
    by_cases hstores : s.stores name = true
    · have hbecomes : s.becomes ⟨.declared name, .code⟩ = some (.attribute name .store) := by
        simp [becomes, writeFor, hstores]
      have hfilter : (name :: names).filter (fun n => s.inScope n && !s.retains n) =
          name :: names.filter (fun n => s.inScope n && !s.retains n) :=
        List.filter_cons_of_pos hstores
      rw [hfilter, List.map_cons, List.map_cons, List.flatMap_cons, ih,
        ownWrites_assign_member hs, List.filterMap_cons_some hbecomes]
      rfl
    · have hbecomes : s.becomes ⟨.declared name, .code⟩ = none := by
        simp [becomes, writeFor, hstores]
      have hfilter : (name :: names).filter (fun n => s.inScope n && !s.retains n) =
          names.filter (fun n => s.inScope n && !s.retains n) :=
        List.filter_cons_of_neg hstores
      rw [hfilter, List.map_cons, ih, List.filterMap_cons_none hbecomes]

/-- A store to the one target of an assignment: it goes through the runtime, is lost with all of the
value, or takes the general way. -/
theorem renders_rewriteStore (hs : s.Grounded) {id : String} {ctx : Ctx} {value : Expr} {x : Stmt}
    (hx : x.ownChanges.filterMap s.becomes =
      (⟨.sole id, .assigned id⟩ :: changesIn (.assigned id) [value]).filterMap s.becomes) :
    s.Renders (Stmt.partsBlock (s.rewriteStore (.name id ctx) (s.rewriteExpr value)
      (.assign [s.rewriteExpr (.name id ctx)] (s.rewriteExpr value)))) [x] := by
  simp only [rewriteStore]
  split_ifs with hscope hret
  · have hout : s.inScope id = false := by simpa using hscope
    have hnone : s.becomes ⟨.sole id, .assigned id⟩ = none := by
      simp [becomes, writeFor, stores, hout]
    have hsource := filterMap_assigned hs (hs.retains_of_not_inScope hout) [value]
    refine .single rfl ?_
    rw [hx, List.filterMap_cons_none hnone, hsource, rewriteExpr, rewriteName, if_pos hscope]
    rfl
  · have hnone : s.becomes ⟨.sole id, .assigned id⟩ = none := by simp [becomes, hret]
    refine .lost ?_
    rw [hx, List.filterMap_cons_none hnone, filterMap_assigned_retained hret]
  · have hin : s.inScope id = true := by simpa using hscope
    have hkept : s.retains id = false := by simpa using hret
    have hsome : s.becomes ⟨.sole id, .assigned id⟩ =
        some (.static (mangle s.className id)) := by
      simp [becomes, writeFor, stores, hin, hkept]
    refine .single rfl ?_
    rw [hx, List.filterMap_cons_some hsome, filterMap_assigned hs hkept, ownWrites,
      Stmt.evaluated, List.flatMap_singleton, hs.writes_storeStatic, List.map_singleton,
      List.flatMap_singleton]

theorem renders_rewriteAssign (hs : s.Grounded) (targets : List Expr) (value : Expr) :
    s.Renders (Stmt.partsBlock (s.rewriteAssign targets value)) [.assign targets value] := by
  have hgeneral : s.ownWrites (.assign (s.rewriteExprs targets) (s.rewriteExpr value)) =
      (changesIn .code (targets ++ [value])).filterMap s.becomes := by
    refine ownWrites_of_evaluated hs _ ?_
    rw [Stmt.evaluated, rewriteExprs_eq_map, List.map_append, List.map_singleton]
  rcases targets with - | ⟨target, - | ⟨next, rest⟩⟩
  · exact .single rfl hgeneral
  · cases target with
    | name id ctx => exact renders_rewriteStore hs rfl
    | _ => exact .single rfl hgeneral
  · have hown : Stmt.ownChanges (.assign (target :: next :: rest) value) =
        changesIn .code (target :: next :: rest ++ [value]) := by
      cases target <;> rfl
    refine .single rfl ?_
    rw [hown]
    exact hgeneral

theorem renders_rewriteAnnAssign (hs : s.Grounded) (target annot : Expr) (value : Option Expr)
    (simple : Option Int) : s.Renders (Stmt.partsBlock (s.rewriteAnnAssign target value))
      [.annAssign target annot value simple] := by
  cases value with
  | none =>
    refine .lost ?_
    rw [Stmt.ownChanges, List.filterMap_append, filterMap_unassigned, filterMap_annot]
    rfl
  | some value =>
    have hgeneral : s.ownWrites (.assign [s.rewriteExpr target] (s.rewriteExpr value)) =
        (changesIn .code [target] ++ changesIn .annot [annot] ++
          changesIn .code [value]).filterMap s.becomes := by
      rw [List.filterMap_append, List.filterMap_append, filterMap_annot, List.append_nil,
        ← List.filterMap_append, ← changesIn_cons]
      exact ownWrites_of_evaluated hs _ rfl
    cases target with
    | name id ctx =>
      refine renders_rewriteStore hs ?_
      rw [Stmt.ownChanges, List.filterMap_cons, List.filterMap_cons, List.filterMap_append,
        filterMap_annot]
      rfl
    | _ => exact .single rfl hgeneral

theorem renders_rewriteAugAssign (hs : s.Grounded) (target : Expr) (op : BinOp) (value : Expr) :
    s.Renders (Stmt.partsBlock (s.rewriteAugAssign target op value))
      [.augAssign target op value] := by
  have hown : s.ownWrites (.augAssign (s.rewriteExpr target) op (s.rewriteExpr value)) =
      (changesIn .code [target, value]).filterMap s.becomes :=
    ownWrites_of_evaluated hs _ rfl
  cases target with
  | name id ctx =>
    unfold rewriteAugAssign
    split_ifs with hret
    · exact .lost (filterMap_assigned_retained hret _)
    · refine .single rfl ?_
      have hkept : s.retains id = false := by simpa [isRetainedName] using hret
      rw [hown, filterMap_code hs, Stmt.ownChanges, filterMap_assigned hs hkept]
  | _ => exact .single rfl hown

/-- Deletions of retained names by themselves are dropped, all others are followed. -/
theorem ownWrites_keptTargets (hs : s.Grounded) (targets : List Expr) :
    s.ownWrites (.delete (s.rewriteExprs (s.keptTargets targets))) =
      (targets.flatMap deletions).filterMap s.becomes := by
  rw [ownWrites, Stmt.evaluated, rewriteExprs_eq_map, keptTargets]
  induction targets with
  | nil => rfl
  | cons target targets ih =>
    rw [List.flatMap_cons, List.filterMap_append, ← ih]
    by_cases hret : s.isRetainedName target = true
    · have hnone : (deletions target).filterMap s.becomes = [] := by
        cases target with
        | name id ctx =>
          have hname : s.retains id = true := hret
          cases ctx <;>
            simp [deletions, changesIn, Expr.effects, Expr.parts, Expr.effect?, becomes, writeFor,
              stores, hname]
        | _ => cases hret
      rw [List.filter_cons_of_neg (by simpa using hret), hnone, List.nil_append]
    · have hsome : (s.rewriteExpr target).parts.filterMap s.writeOf? =
          (deletions target).filterMap s.becomes := by
        have hcode : (s.rewriteExpr target).parts.filterMap s.writeOf? =
            (changesIn .code [target]).filterMap s.becomes := by
          rw [filterMap_code hs, List.map_singleton, List.flatMap_singleton]
        rw [hcode]
        cases target with
        | name id ctx =>
          have hkept : s.retains id = false := by simpa [isRetainedName] using hret
          cases ctx <;>
            simp [deletions, changesIn, Expr.effects, Expr.parts, Expr.effect?, becomes, writeFor,
              stores, hkept, List.filterMap_cons]
        | _ => rfl
      rw [List.filter_cons_of_pos (by simpa using hret), List.map_cons, List.flatMap_cons,
        List.filterMap_append, hsome]

theorem renders_rewriteDelete (hs : s.Grounded) (targets : List Expr) :
    s.Renders (Stmt.partsBlock (s.rewriteDelete targets)) [.delete targets] := by
  have hkept := ownWrites_keptTargets hs targets
  unfold rewriteDelete
  split
  next hnil =>
    refine .lost ?_
    rw [Stmt.ownChanges, ← hkept, hnil]
    rfl
  next => exact .single rfl hkept

theorem renders_functionDef (hs : s.Grounded) (h : FunctionHeader) (body : Block) :
    s.Renders (Stmt.partsBlock (s.rewriteStmt (.functionDef h body))) [.functionDef h body] := by
  have hown : s.ownWrites (.functionDef (s.rewriteFunction h) body) =
      (changesIn .code h.evaluated ++ changesIn .signature h.annots).filterMap s.becomes := by
    rw [ownWrites, Stmt.evaluated, evaluated_rewriteFunction, annots_rewriteFunction,
      List.flatMap_append, List.filterMap_append, List.filterMap_append, filterMap_code hs,
      filterMap_signature]
  unfold Renders
  rw [rewriteStmt, Stmt.partsBlock, List.flatMap_append, writes_rebind hs, Stmt.parts,
    List.flatMap_singleton, List.flatMap_singleton, hown, Stmt.ownChanges,
    ← List.filterMap_append]
  rfl

theorem renders_classDef (hs : s.Grounded) (h : ClassHeader) (body : Block) :
    s.Renders (Stmt.partsBlock (s.rewriteStmt (.classDef h body))) [.classDef h body] := by
  have hown : s.ownWrites (.classDef (s.rewriteClass h) body) =
      (changesIn .code h.evaluated).filterMap s.becomes :=
    ownWrites_of_evaluated hs _ (s.evaluated_rewriteClass h)
  unfold Renders
  rw [rewriteStmt, Stmt.partsBlock, List.flatMap_append, writes_rebind hs, Stmt.parts,
    List.flatMap_singleton, List.flatMap_singleton, hown, Stmt.ownChanges,
    ← List.filterMap_append]
  rfl

theorem renders_imports (hs : s.Grounded) (source : ImportSource) (names : List Alias) :
    s.Renders (Stmt.partsBlock (s.rewriteStmt (.imports source names))) [.imports source names] := by
  unfold Renders
  rw [rewriteStmt, Stmt.partsBlock, List.flatMap_append, writes_rebind hs, List.flatMap_singleton]
  rfl

theorem ownWrites_only {x x' : Stmt} (hx : s.ownWrites x = x'.ownChanges.filterMap s.becomes) :
    [x].flatMap s.ownWrites = x'.ownChanges.filterMap s.becomes :=
  (List.flatMap_singleton ..).trans hx

theorem filterMap_captured (names : List String) :
    (names.map fun n => (⟨.captured n, .code⟩ : Change)).filterMap s.becomes = [] := by
  rw [List.filterMap_map, List.filterMap_eq_nil_iff]
  exact fun _ _ => rfl

theorem ownWrites_withStmt (hs : s.Grounded) (isAsync isAsync' : Bool) (items : List WithItem)
    (body body' : Block) : s.ownWrites (.withStmt isAsync (items.map s.rewriteWithItem) body) =
      (Stmt.ownChanges (.withStmt isAsync' items body')).filterMap s.becomes := by
  refine ownWrites_of_evaluated hs _ ?_
  simp only [Stmt.evaluated, List.flatMap_map, List.map_flatMap, evaluated_rewriteWithItem]

theorem ownWrites_matchStmt (hs : s.Grounded) (subject : Expr) (cases : List MatchCase) :
    s.ownWrites (.matchStmt (s.rewriteExpr subject) (s.rewriteCases cases)) =
      (Stmt.ownChanges (.matchStmt subject cases)).filterMap s.becomes := by
  have hcaptured : (cases.flatMap fun c => c.pattern.captures.map fun n =>
      (⟨.captured n, .code⟩ : Change)).filterMap s.becomes = [] := by
    induction cases with
    | nil => rfl
    | cons c cases ih => rw [List.flatMap_cons, List.filterMap_append, filterMap_captured, ih]; rfl
  rw [Stmt.ownChanges, List.filterMap_append, hcaptured, List.append_nil]
  refine ownWrites_of_evaluated hs _ ?_
  simp only [Stmt.evaluated, List.map_cons, rewriteCases_eq_map, List.flatMap_map,
    List.map_flatMap, evaluated_rewriteCase]

theorem ownWrites_tryStmt (hs : s.Grounded) (isGroup : Bool) (handlers : List Handler)
    (body body' orelse orelse' finalbody finalbody' : Block) :
    s.ownWrites (.tryStmt isGroup body (s.rewriteHandlers handlers) orelse finalbody) =
      (Stmt.ownChanges (.tryStmt isGroup body' handlers orelse' finalbody')).filterMap
        s.becomes := by
  have hcaptured : (handlers.flatMap fun h => h.name.toList.map fun n =>
      (⟨.captured n, .code⟩ : Change)).filterMap s.becomes = [] := by
    induction handlers with
    | nil => rfl
    | cons h handlers ih =>
      rw [List.flatMap_cons, List.filterMap_append, filterMap_captured, ih]; rfl
  rw [Stmt.ownChanges, List.filterMap_append, hcaptured, List.append_nil]
  refine ownWrites_of_evaluated hs _ ?_
  simp only [Stmt.evaluated, rewriteHandlers_eq_map, List.flatMap_map, List.map_flatMap,
    type_rewriteHandler]

/-- What a statement becomes writes, less what its blocks write, what its own changes become. -/
theorem ownWrites_rewriteStmt (hs : s.Grounded) : ∀ x : Stmt,
    (s.rewriteStmt x).flatMap s.ownWrites = x.ownChanges.filterMap s.becomes
  | .functionDef h body => (renders_functionDef hs h body).own rfl
  | .classDef h body => (renders_classDef hs h body).own rfl
  | .imports source names => (renders_imports hs source names).own rfl
  | .delete targets => (renders_rewriteDelete hs targets).own rfl
  | .assign targets value => (renders_rewriteAssign hs targets value).own rfl
  | .augAssign target op value => (renders_rewriteAugAssign hs target op value).own rfl
  | .annAssign target annot value simple =>
    (renders_rewriteAnnAssign hs target annot value simple).own rfl
  | .ret value => ownWrites_only (ownWrites_of_evaluated hs _ (s.toList_rewriteOption value))
  | .forLoop _ target iter _ _ => ownWrites_only (ownWrites_of_evaluated hs [target, iter] rfl)
  | .whileLoop test _ _ | .ifStmt test _ _ => ownWrites_only (ownWrites_of_evaluated hs [test] rfl)
  | .withStmt isAsync items body =>
    ownWrites_only (ownWrites_withStmt hs isAsync isAsync items _ body)
  | .matchStmt subject cases => ownWrites_only (ownWrites_matchStmt hs subject cases)
  | .tryStmt isGroup body handlers orelse finalbody =>
    ownWrites_only (ownWrites_tryStmt hs isGroup handlers _ body _ orelse _ finalbody)
  | .raise exc cause => by
    refine ownWrites_only (ownWrites_of_evaluated hs (exc.toList ++ cause.toList) ?_)
    rw [Stmt.evaluated, toList_rewriteOption, toList_rewriteOption, List.map_append]
  | .assert test msg => by
    refine ownWrites_only (ownWrites_of_evaluated hs (test :: msg.toList) ?_)
    rw [Stmt.evaluated, toList_rewriteOption, List.map_cons]
  | .expr value => ownWrites_only (ownWrites_of_evaluated hs [value] rfl)
  | .scope _ _ | .jump _ => ownWrites_only rfl

theorem renders_rewriteStmt (hs : s.Grounded) (x : Stmt) :
    s.Renders (Stmt.partsBlock (s.rewriteStmt x)) x.parts := by
  unfold Renders
  rw [flatMap_parts_rewriteStmt (ownWrites_rewriteStmt hs), List.filterMap_flatMap]

/-- Whatever the statements, their rewriting writes what their changes become. -/
theorem renders_rewriteBlock (hs : s.Grounded) (b : Block) :
    s.Renders (Stmt.partsBlock (s.rewriteBlock b)) (Stmt.partsBlock b) := by
  unfold Renders
  rw [flatMap_parts_rewriteBlock (ownWrites_rewriteStmt hs), List.filterMap_flatMap]

theorem ownWrites_looksAtNoBlock (s : ClassScope) : Stmt.LooksAtNoBlock s.ownWrites where
  filled x := by rw [ownWrites, ownWrites, Stmt.evaluated_filled]
  pass := rfl

/-- A statement that is written out writes what its changes become. -/
theorem writes_filled_rewriteStmt (hs : s.Grounded) (x : Stmt) :
    s.writes (filledBlock (s.rewriteStmt x)) = x.changes.filterMap s.becomes := by
  rw [writes, Stmt.flatMap_partsBlock_filled s.ownWrites_looksAtNoBlock]
  exact renders_rewriteStmt hs x

/-- A block that is written out writes what its changes become. -/
theorem writes_filled_rewriteBlock (hs : s.Grounded) (b : Block) :
    s.writes (orPass (filledBlock (s.rewriteBlock b))) =
      (Stmt.changesBlock b).filterMap s.becomes := by
  rw [writes, Stmt.flatMap_partsBlock_orPass s.ownWrites_looksAtNoBlock,
    Stmt.flatMap_partsBlock_filled s.ownWrites_looksAtNoBlock]
  exact renders_rewriteBlock hs b

end ClassScope

end StateWeave
