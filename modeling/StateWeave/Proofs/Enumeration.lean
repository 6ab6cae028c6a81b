import StateWeave.Proofs.Changes

/-! The changes of a statement and the names that reading a class finds in it. The two come from
different walks; every binding that reading finds is among the changes, as often as it is found. -/

namespace StateWeave

open StateWeave.Expr (changesIn changesIn_append changesIn_cons deletions)

/-- The binding that reading a class body makes of an effect. -/
def Effect.binding? : Effect → Option Binding
  | .sole name | .target name | .removed name | .deleted name | .walrus name => some (.store name)
  | .declared name => some (.declare name)
  | .captured _ | .spelled _ => none

/-- The bindings among changes. -/
def Change.bindings (cs : List Change) : List Binding :=
  cs.filterMap (·.effect.binding?)

namespace Expr

/-- Occurrences of names are the effects that bind them. -/
def Occurs (os : List Occurrence) (parts : List Expr) : Prop :=
  Binding.ofOccurrences os = (parts.filterMap effect?).filterMap Effect.binding?

namespace Occurs

variable {os os' : List Occurrence} {xs ys : List Expr}

theorem nil : Occurs [] [] := rfl

theorem append (h : Occurs os xs) (k : Occurs os' ys) : Occurs (os ++ os') (xs ++ ys) := by
  unfold Occurs Binding.ofOccurrences at h k ⊢
  rw [List.filterMap_append, List.filterMap_append, List.filterMap_append, h, k]

/-- An expression that binds nothing by itself. -/
theorem skip {e : Expr} (he : e.effect?.bind Effect.binding? = none) (h : Occurs os xs) :
    Occurs os (e :: xs) := by
  have hcons : (e :: xs).filterMap (fun x => x.effect?.bind Effect.binding?) =
      xs.filterMap fun x => x.effect?.bind Effect.binding? := List.filterMap_cons_none he
  unfold Occurs at h ⊢
  rw [h, List.filterMap_filterMap, List.filterMap_filterMap, hcons]

end Occurs

mutual

theorem occurs_parts : ∀ e : Expr, Occurs e.occurrences e.parts
  | .constant _ => .skip rfl .nil
  | .name _ ctx => by cases ctx <;> rfl
  | .attribute value _ ctx => .skip (by cases ctx <;> rfl) (occurs_parts value)
  | .subscript value index _ => .skip rfl ((occurs_parts value).append (occurs_parts index))
  | .starred value _ => .skip rfl (occurs_parts value)
  | .sequence _ elts _ => .skip rfl (occurs_partsList elts)
  | .set elts => .skip rfl (occurs_partsList elts)
  | .dict keys values => .skip rfl ((occurs_partsOptions keys).append (occurs_partsList values))
  | .boolOp _ values => .skip rfl (occurs_partsList values)
  | .binOp left _ right => .skip rfl ((occurs_parts left).append (occurs_parts right))
  | .unaryOp _ operand => .skip rfl (occurs_parts operand)
  | .compare left _ comparators =>
    .skip rfl ((occurs_parts left).append (occurs_partsList comparators))
  | .call func args keywords =>
    .skip rfl (((occurs_parts func).append (occurs_partsList args)).append
      (occurs_partsKeywords keywords))
  | .ifExp test body orelse =>
    .skip rfl (((occurs_parts test).append (occurs_parts body)).append (occurs_parts orelse))
  | .walrus target value => by
    have hvalue := occurs_parts value
    have hcons : Binding.ofOccurrences (⟨target, .store⟩ :: value.occurrences) =
        .store target :: Binding.ofOccurrences value.occurrences := rfl
    unfold Occurs at hvalue ⊢
    rw [occurrences, hcons, hvalue]
    rfl
  | .lambda params _ => .skip rfl (occurs_partsParams params)
  | .comprehension _ _ first _ => .skip rfl (occurs_partsGenerator first)
  | .dictComprehension _ _ first _ => .skip rfl (occurs_partsGenerator first)
  | .await value => .skip rfl (occurs_parts value)
  | .yield value => .skip rfl (occurs_partsOption value)
  | .yieldFrom value => .skip rfl (occurs_parts value)
  | .joinedStr values => .skip rfl (occurs_partsList values)
  | .formatted value _ spec => .skip rfl ((occurs_parts value).append (occurs_partsOption spec))
  | .slice lower upper step =>
    .skip rfl (((occurs_partsOption lower).append (occurs_partsOption upper)).append
      (occurs_partsOption step))

theorem occurs_partsOption : ∀ e : Option Expr, Occurs (occurrencesOption e) (partsOption e)
  | none => .nil
  | some e => occurs_parts e

theorem occurs_partsList : ∀ es : List Expr, Occurs (occurrencesList es) (partsList es)
  | [] => .nil
  | e :: es => (occurs_parts e).append (occurs_partsList es)

theorem occurs_partsOptions : ∀ es : List (Option Expr),
    Occurs (occurrencesOptions es) (partsOptions es)
  | [] => .nil
  | e :: es => (occurs_partsOption e).append (occurs_partsOptions es)

theorem occurs_partsKeywords : ∀ ks : List Keyword,
    Occurs (occurrencesKeywords ks) (partsKeywords ks)
  | [] => .nil
  | k :: ks => (occurs_partsKeyword k).append (occurs_partsKeywords ks)

theorem occurs_partsKeyword : ∀ k : Keyword, Occurs (occurrencesKeyword k) (partsKeyword k)
  | ⟨_, value⟩ => occurs_parts value

theorem occurs_partsParams : ∀ p : Params, Occurs (occurrencesParams p) (partsParams p)
  | ⟨_, _, _, _, kwDefaults, _, defaults⟩ =>
    (occurs_partsList defaults).append (occurs_partsOptions kwDefaults)

theorem occurs_partsGenerator : ∀ g : Generator, Occurs (occurrencesGenerator g) (partsGenerator g)
  | ⟨_, iter, _, _⟩ => occurs_parts iter

end

end Expr

namespace Change

/-- These bindings are among the bindings of these changes, each as often as it is found. -/
def Covers (cs : List Change) (bs : List Binding) : Prop :=
  ∀ b, bs.count b ≤ (bindings cs).count b

namespace Covers

variable {cs ds : List Change} {bs as : List Binding}

theorem of_eq (h : bindings cs = bs) : Covers cs bs := fun _ => h ▸ Nat.le_refl _

theorem nil : Covers cs [] := fun _ => Nat.zero_le _

theorem append (h : Covers cs bs) (k : Covers ds as) : Covers (cs ++ ds) (bs ++ as) := by
  intro b
  have hb := h b
  have kb := k b
  rw [bindings, List.filterMap_append, List.count_append, List.count_append]
  exact Nat.add_le_add hb kb

theorem before (h : Covers cs bs) : Covers (cs ++ ds) bs := by
  have := h.append (nil : Covers ds [])
  simpa using this

theorem of_sublist (h : Covers cs bs) (hcs : cs.Sublist ds) : Covers ds bs :=
  fun b => Nat.le_trans (h b) ((hcs.filterMap _).count_le b)

/-- Two walks that each keep the changes of a part in two lists. -/
theorem interleave {cs' ds' : List Change} (h : Covers (cs ++ ds) bs) (k : Covers (cs' ++ ds') as) :
    Covers ((cs ++ cs') ++ (ds ++ ds')) (bs ++ as) := by
  intro b
  have hb := h b
  have kb := k b
  simp only [bindings, List.filterMap_append, List.count_append] at hb kb ⊢
  omega

theorem congr (h : Covers cs bs) (hbs : bs = as) : Covers cs as := hbs ▸ h

end Covers

end Change

open StateWeave.Change (Covers)

theorem Expr.bindings_changesIn (place : Position) (es : List Expr) :
    Change.bindings (changesIn place es) = Binding.ofExprs es := by
  unfold Change.bindings changesIn Binding.ofExprs
  induction es with
  | nil => rfl
  | cons e es ih =>
    have he := Expr.occurs_parts e
    unfold Expr.Occurs Binding.ofOccurrences at he
    unfold Binding.ofOccurrences at ih ⊢
    rw [List.flatMap_cons, List.filterMap_append, ih, Expr.occurrencesList, List.filterMap_append,
      he, List.filterMap_map]
    rfl

theorem covers_exprs (place : Position) (es : List Expr) :
    Covers (changesIn place es) (Binding.ofExprs es) :=
  .of_eq (Expr.bindings_changesIn place es)

theorem Binding.ofExprs_singleton (e : Expr) : ofExprs [e] = ofExpr e := by
  simp [ofExprs, ofExpr, Expr.occurrencesList]

theorem Binding.ofExprs_cons (e : Expr) (es : List Expr) :
    ofExprs (e :: es) = ofExpr e ++ ofExprs es := by
  simp [ofExprs, ofExpr, ofOccurrences, Expr.occurrencesList]

theorem Binding.ofExprs_append (es ds : List Expr) :
    ofExprs (es ++ ds) = ofExprs es ++ ofExprs ds := by
  induction es with
  | nil => rfl
  | cons e es ih => rw [List.cons_append, ofExprs_cons, ih, ofExprs_cons, List.append_assoc]

theorem Binding.ofExprs_toList (e : Option Expr) : ofExprs e.toList = ofOption e := by
  cases e with
  | none => rfl
  | some e => exact ofExprs_singleton e

namespace Pattern

mutual

theorem bindings_evaluated : ∀ p : Pattern, Binding.ofExprs p.evaluated = Binding.ofPattern p
  | .value e => Binding.ofExprs_singleton e
  | .singleton _ => rfl
  | .sequence patterns => bindings_evaluatedList patterns
  | .mapping keys patterns _ => by
    rw [evaluated, Binding.ofExprs_append, bindings_evaluatedList patterns, Binding.ofPattern]
  | .classPattern cls patterns _ named => by
    rw [evaluated, Binding.ofExprs_cons, Binding.ofExprs_append, bindings_evaluatedList patterns,
      bindings_evaluatedList named, Binding.ofPattern, List.append_assoc]
  | .star _ => rfl
  | .capture none _ => rfl
  | .capture (some pattern) _ => bindings_evaluated pattern
  | .alternatives patterns => bindings_evaluatedList patterns

theorem bindings_evaluatedList :
    ∀ ps : List Pattern, Binding.ofExprs (evaluatedList ps) = Binding.ofPatterns ps
  | [] => rfl
  | p :: ps => by
    rw [evaluatedList, Binding.ofExprs_append, bindings_evaluated p, bindings_evaluatedList ps,
      Binding.ofPatterns]

end

end Pattern

namespace Stmt

theorem covers_deletions (targets : List Expr) :
    Covers (targets.flatMap deletions) (Binding.ofExprs targets) := by
  induction targets with
  | nil => exact .nil
  | cons target targets ih =>
    rw [List.flatMap_cons, Binding.ofExprs_cons]
    refine Covers.append ?_ ih
    have hgeneral := (covers_exprs .code [target]).congr (Binding.ofExprs_singleton target)
    cases target with
    | name id ctx =>
      cases ctx with
      | del => exact .of_eq rfl
      | _ => exact hgeneral
    | _ => exact hgeneral

theorem covers_sole (id : String) (ctx : Ctx) (place : Position) :
    Covers [⟨.sole id, place⟩] (Binding.ofExpr (.name id ctx)) := by
  cases ctx with
  | load => exact .nil
  | _ => exact .of_eq rfl

theorem covers_assign (targets : List Expr) (value : Expr) :
    Covers (ownChanges (.assign targets value)) (Binding.ofStmt (.assign targets value)) := by
  have hgeneral : Covers (changesIn .code (targets ++ [value]))
      (Binding.ofExprs targets ++ Binding.ofExpr value) := by
    refine (covers_exprs .code _).congr ?_
    rw [Binding.ofExprs_append, Binding.ofExprs_singleton]
  rcases targets with - | ⟨target, - | ⟨next, rest⟩⟩
  · exact hgeneral
  · cases target with
    | name id ctx =>
      refine ((covers_sole id ctx (.assigned id)).append
        (covers_exprs (.assigned id) [value])).congr ?_
      rw [Binding.ofStmt, Binding.ofExprs_singleton, Binding.ofExprs_singleton]
    | _ => exact hgeneral
  · have hown : ownChanges (.assign (target :: next :: rest) value) =
        changesIn .code (target :: next :: rest ++ [value]) := by
      cases target <;> rfl
    rw [hown]
    exact hgeneral

theorem covers_annAssign (target annot : Expr) (value : Option Expr) (simple : Option Int) :
    Covers (ownChanges (.annAssign target annot value simple))
      (Binding.ofStmt (.annAssign target annot value simple)) := by
  have htarget : ∀ place, Covers (changesIn place [target]) (Binding.ofExpr target) :=
    fun place => (covers_exprs place [target]).congr (Binding.ofExprs_singleton target)
  have hannot : Covers (changesIn .annot [annot]) (Binding.ofExpr annot) :=
    (covers_exprs .annot [annot]).congr (Binding.ofExprs_singleton annot)
  cases value with
  | none =>
    refine ((htarget .unassigned).append hannot).congr ?_
    simp [Binding.ofStmt, Binding.ofOption, Binding.ofOccurrences, Expr.occurrencesOption]
  | some value =>
    have hvalue : ∀ place, Covers (changesIn place [value]) (Binding.ofOption (some value)) :=
      fun place => (covers_exprs place [value]).congr (Binding.ofExprs_singleton value)
    cases target with
    | name id ctx =>
      refine ((covers_sole id ctx (.assigned id)).append
        (hannot.append (hvalue (.assigned id)))).congr ?_
      rw [Binding.ofStmt, List.append_assoc]
    | _ => exact ((htarget .code).append hannot).append (hvalue .code)

theorem covers_augAssign (target : Expr) (op : BinOp) (value : Expr) :
    Covers (ownChanges (.augAssign target op value))
      (Binding.ofStmt (.augAssign target op value)) := by
  have hboth : ∀ place, Covers (changesIn place [target, value])
      (Binding.ofExpr target ++ Binding.ofExpr value) := by
    intro place
    refine (covers_exprs place _).congr ?_
    rw [Binding.ofExprs_cons, Binding.ofExprs_singleton]
  cases target with
  | name id ctx => exact hboth _
  | _ => exact hboth _

theorem covers_functionDef (h : FunctionHeader) (body : Block) :
    Covers (ownChanges (.functionDef h body)) (Binding.ofStmt (.functionDef h body)) := by
  have hdecorators : Covers (changesIn .code h.evaluated) (Binding.ofExprs h.decorators) := by
    have hsplit : changesIn .code h.evaluated =
        changesIn .code h.decorators ++ changesIn .code h.params.written := by
      rw [FunctionHeader.evaluated, changesIn_append]
    rw [hsplit]
    exact (covers_exprs .code h.decorators).before
  exact hdecorators.before.append (.of_eq rfl)

theorem covers_classDef (h : ClassHeader) (body : Block) :
    Covers (ownChanges (.classDef h body)) (Binding.ofStmt (.classDef h body)) := by
  have hheader : Covers (changesIn .code h.evaluated)
      (Binding.ofExprs h.decorators ++ Binding.ofExprs h.bases) := by
    have hsplit : changesIn .code h.evaluated = changesIn .code (h.decorators ++ h.bases) ++
        changesIn .code (h.keywords.map (·.value)) := by
      rw [ClassHeader.evaluated, changesIn_append]
    rw [hsplit, ← Binding.ofExprs_append]
    exact (covers_exprs .code _).before
  exact hheader.append (.of_eq rfl)

theorem covers_imports (source : ImportSource) (names : List Alias) :
    Covers (ownChanges (.imports source names)) (Binding.ofStmt (.imports source names)) := by
  refine .of_eq ?_
  rw [ownChanges, Binding.ofStmt, Change.bindings, List.filterMap_map, ← List.filterMap_eq_map]
  rfl

theorem covers_withItems (items : List WithItem) :
    Covers (changesIn .code (items.flatMap (·.evaluated))) (items.flatMap Binding.ofWithItem) := by
  refine (covers_exprs .code _).congr ?_
  induction items with
  | nil => rfl
  | cons item items ih =>
    rw [List.flatMap_cons, Binding.ofExprs_append, ih, List.flatMap_cons, WithItem.evaluated,
      Binding.ofExprs_cons, Binding.ofExprs_toList]
    rfl

theorem changes_of_isSimple {s : Stmt} (h : s.IsSimple) : s.changes = s.ownChanges := by
  rw [changes, h, List.flatMap_singleton]

/-- Statements without blocks. -/
theorem covers_of_isSimple {s : Stmt} (hs : s.IsSimple)
    (h : Covers s.ownChanges (Binding.ofStmt s)) : Covers s.changes (Binding.ofStmt s) := by
  rwa [changes_of_isSimple hs]

mutual

/-- Every binding that reading finds in a statement is among its changes. -/
theorem covers_bindings : ∀ s : Stmt, Covers s.changes (Binding.ofStmt s)
  | .functionDef h body => covers_of_isSimple rfl (covers_functionDef h body)
  | .classDef h body => covers_of_isSimple rfl (covers_classDef h body)
  | .ret value =>
    covers_of_isSimple rfl
      ((covers_exprs .code value.toList).congr (Binding.ofExprs_toList value))
  | .delete targets => covers_of_isSimple rfl (covers_deletions targets)
  | .assign targets value => covers_of_isSimple rfl (covers_assign targets value)
  | .augAssign target op value => covers_of_isSimple rfl (covers_augAssign target op value)
  | .annAssign target annot value simple =>
    covers_of_isSimple rfl (covers_annAssign target annot value simple)
  | .forLoop _ target iter body orelse => by
    have hown : Covers (changesIn .code [target, iter])
        (Binding.ofExpr target ++ Binding.ofExpr iter) := by
      refine (covers_exprs .code _).congr ?_
      rw [Binding.ofExprs_cons, Binding.ofExprs_singleton]
    rw [Binding.ofStmt, List.append_assoc, changes, parts, List.flatMap_cons, List.flatMap_append]
    exact hown.append ((covers_block body).append (covers_block orelse))
  | .whileLoop test body orelse => by
    have hown := (covers_exprs .code [test]).congr (Binding.ofExprs_singleton test)
    rw [Binding.ofStmt, List.append_assoc, changes, parts, List.flatMap_cons, List.flatMap_append]
    exact hown.append ((covers_block body).append (covers_block orelse))
  | .ifStmt test body orelse => by
    have hown := (covers_exprs .code [test]).congr (Binding.ofExprs_singleton test)
    rw [Binding.ofStmt, List.append_assoc, changes, parts, List.flatMap_cons, List.flatMap_append]
    exact hown.append ((covers_block body).append (covers_block orelse))
  | .withStmt _ items body => by
    rw [Binding.ofStmt, changes, parts, List.flatMap_cons]
    exact (covers_withItems items).append (covers_block body)
  | .matchStmt subject cases => by
    have hsubject := (covers_exprs .code [subject]).congr (Binding.ofExprs_singleton subject)
    have hboth := hsubject.append (covers_cases cases)
    rw [Binding.ofStmt, changes, parts, List.flatMap_cons, ownChanges, evaluated,
      changesIn_cons]
    refine hboth.of_sublist ?_
    rw [List.append_assoc, List.append_assoc]
    exact ((List.sublist_append_right _ _).append_left _).append_left _
  | .raise exc cause => by
    refine covers_of_isSimple rfl ((covers_exprs .code (exc.toList ++ cause.toList)).congr ?_)
    rw [Binding.ofExprs_append, Binding.ofExprs_toList, Binding.ofExprs_toList, Binding.ofStmt]
  | .tryStmt _ body handlers orelse finalbody => by
    intro b
    have hbody := covers_block body b
    have hhandlers := covers_handlers handlers b
    have horelse := covers_block orelse b
    have hfinal := covers_block finalbody b
    simp only [Change.bindings, changesBlock, List.filterMap_append, List.count_append]
      at hbody hhandlers horelse hfinal
    simp only [Binding.ofStmt, changes, parts, List.flatMap_cons, ownChanges, evaluated,
      Change.bindings, List.flatMap_append, List.filterMap_append, List.count_append]
    omega
  | .assert test msg => by
    refine covers_of_isSimple rfl ((covers_exprs .code (test :: msg.toList)).congr ?_)
    rw [Binding.ofExprs_cons, Binding.ofExprs_toList, Binding.ofStmt]
  | .imports source names => covers_of_isSimple rfl (covers_imports source names)
  | .scope _ _ => .nil
  | .expr value =>
    covers_of_isSimple rfl ((covers_exprs .code [value]).congr (Binding.ofExprs_singleton value))
  | .jump _ => .nil

theorem covers_block : ∀ b : List Stmt, Covers (changesBlock b) (Binding.ofBlock b)
  | [] => .nil
  | s :: ss => by
    rw [changesBlock, partsBlock, List.flatMap_append, Binding.ofBlock]
    exact (covers_bindings s).append (covers_block ss)

theorem covers_handlers : ∀ hs : List Handler,
    Covers (changesIn .code (hs.flatMap (·.type.toList)) ++ (partsHandlers hs).flatMap ownChanges)
      (Binding.ofHandlers hs)
  | [] => .nil
  | h :: hs => by
    rw [List.flatMap_cons, changesIn_append, partsHandlers, List.flatMap_append]
    exact (covers_handler h).interleave (covers_handlers hs)

theorem covers_handler : ∀ h : Handler,
    Covers (changesIn .code h.type.toList ++ (partsHandler h).flatMap ownChanges)
      (Binding.ofHandler h)
  | ⟨type, _, body⟩ =>
    ((covers_exprs .code type.toList).congr (Binding.ofExprs_toList type)).append
      (covers_block body)

theorem covers_cases : ∀ cs : List MatchCase,
    Covers (changesIn .code (cs.flatMap fun c => c.pattern.evaluated ++ c.guard.toList)
      ++ (partsCases cs).flatMap ownChanges) (Binding.ofCases cs)
  | [] => .nil
  | c :: cs => by
    rw [List.flatMap_cons, changesIn_append, partsCases, List.flatMap_append]
    exact (covers_case c).interleave (covers_cases cs)

theorem covers_case : ∀ c : MatchCase,
    Covers (changesIn .code (c.pattern.evaluated ++ c.guard.toList)
      ++ (partsCase c).flatMap ownChanges) (Binding.ofCase c)
  | ⟨pattern, guard, body⟩ => by
    have hown : Covers (changesIn .code (pattern.evaluated ++ guard.toList))
        (Binding.ofPattern pattern ++ Binding.ofOption guard) := by
      refine (covers_exprs .code _).congr ?_
      rw [Binding.ofExprs_append, Pattern.bindings_evaluated, Binding.ofExprs_toList]
    exact hown.append (covers_block body)

end

end Stmt

end StateWeave
