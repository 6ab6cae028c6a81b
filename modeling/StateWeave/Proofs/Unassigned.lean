import StateWeave.Proofs.Enumeration
import StateWeave.Proofs.Fields
import StateWeave.Proofs.Straight

/-! Which names of a class body are storage. Reading a class looks at every statement that runs in
its body, however deep, and at the targets of assignments alike whether they are assigned a value or
only annotated; where functions and classes are defined it looks at their decorators and bases. -/

namespace StateWeave

open StateWeave.Expr (bindsList bindsOption)
open StateWeave.Stmt (partsBlock partsHandlers partsCases)
open StateWeave.Field (ofName)

variable {n : String}

/-! ### The expressions of a statement that reading looks at -/

namespace Stmt

/-- The target of an annotation that assigns no value. Running it binds nothing. -/
def unassigned : Stmt → List Expr
  | .annAssign (.name id ctx) _ none _ => [.name id ctx]
  | _ => []

/-- What a definition evaluates beside its decorators and bases: defaults and annotations of a
function, keywords of a class. -/
def passedOver : Stmt → List Expr
  | .functionDef h _ => h.params.written ++ h.annots
  | .classDef h _ => h.keywords.map (·.value)
  | _ => []

/-- What else a statement itself evaluates when it runs, less its blocks. -/
def lookedInto : Stmt → List Expr
  | .functionDef h _ => h.decorators
  | .classDef h _ => h.decorators ++ h.bases
  | .annAssign (.name _ _) annot none _ => [annot]
  | s => s.evaluated

/-- The expressions that a statement itself evaluates when it runs. -/
def executed (s : Stmt) : List Expr :=
  s.lookedInto ++ s.passedOver

/-- The names that reading finds in a statement itself. -/
def found (s : Stmt) : List String :=
  bindsList (s.unassigned ++ s.lookedInto)

/-- The names that a definition or an import binds. -/
def declared : Stmt → List String
  | .functionDef h _ => [h.name]
  | .classDef h _ => [h.name]
  | .imports _ names => names.filterMap Binding.ofAlias
  | _ => []

/-- The bindings that reading finds in a statement itself. -/
def ownBindings (s : Stmt) : List Binding :=
  Binding.ofExprs (s.unassigned ++ s.lookedInto) ++ s.declared.map .declare

end Stmt

theorem Expr.bindsList_append (es ds : List Expr) :
    bindsList (es ++ ds) = bindsList es ++ bindsList ds :=
  List.flatMap_append

theorem Expr.bindsList_cons (e : Expr) (es : List Expr) :
    bindsList (e :: es) = e.binds ++ bindsList es :=
  List.flatMap_cons

namespace Binding

theorem store_mem_ofExprs {es : List Expr} : store n ∈ ofExprs es ↔ n ∈ bindsList es := by
  induction es with
  | nil => simp [ofExprs, ofOccurrences, Expr.occurrencesList, bindsList]
  | cons e es ih =>
    have he : store n ∈ ofExpr e ↔ n ∈ e.binds := by simp [ofExpr_eq]
    rw [ofExprs_cons, List.mem_append, he, ih, Expr.bindsList_cons, List.mem_append]

theorem declare_not_mem_ofExprs (es : List Expr) : declare n ∉ ofExprs es := by
  intro h
  obtain ⟨o, -, ho⟩ := List.mem_filterMap.1 h
  split at ho <;> cases ho

theorem mem_stores {bs : List Binding} : n ∈ stores bs ↔ store n ∈ bs := by
  rw [stores, List.mem_eraseDups, List.mem_filterMap]
  constructor
  · rintro ⟨_ | _, mem, ⟨⟩⟩
    exact mem
  · exact fun mem => ⟨_, mem, rfl⟩

theorem mem_declarations {bs : List Binding} : n ∈ declarations bs ↔ declare n ∈ bs := by
  rw [declarations, List.mem_eraseDups, List.mem_filterMap]
  constructor
  · rintro ⟨_ | _, mem, ⟨⟩⟩
    exact mem
  · exact fun mem => ⟨_, mem, rfl⟩

end Binding

namespace Stmt

open Binding (ofExprs ofExprs_append ofExprs_cons ofExprs_singleton ofExprs_toList
  store_mem_ofExprs)

variable {b : Binding}

/-- A statement without blocks binds what it binds itself, -/
theorem mem_ofStmt_of_isSimple {s : Stmt} (hs : s.IsSimple) (h : Binding.ofStmt s = s.ownBindings) :
    b ∈ Binding.ofStmt s ↔ b ∈ s.parts.flatMap ownBindings := by
  rw [h, hs, List.flatMap_singleton]

/-- which for most statements is what their expressions bind; -/
theorem mem_ofStmt_of_exprs {s : Stmt} (hs : s.IsSimple) (hdeclared : s.declared = [])
    (h : Binding.ofStmt s = ofExprs (s.unassigned ++ s.lookedInto)) :
    b ∈ Binding.ofStmt s ↔ b ∈ s.parts.flatMap ownBindings :=
  mem_ofStmt_of_isSimple hs (by rw [h, ownBindings, hdeclared, List.map_nil, List.append_nil])

/-- and one with blocks binds what these bind too. -/
theorem mem_ofStmt_of_blocks {s : Stmt} {ss : List Stmt} (bs : List Binding)
    (hparts : s.parts = s :: ss) (hdeclared : s.declared = [])
    (h : Binding.ofStmt s = ofExprs (s.unassigned ++ s.lookedInto) ++ bs)
    (hbs : b ∈ bs ↔ b ∈ ss.flatMap ownBindings) :
    b ∈ Binding.ofStmt s ↔ b ∈ s.parts.flatMap ownBindings := by
  rw [h, hparts, List.flatMap_cons, List.mem_append, List.mem_append, hbs, ownBindings, hdeclared,
    List.map_nil, List.append_nil]

theorem mem_ofBlock_both {c d : Block}
    (hc : b ∈ Binding.ofBlock c ↔ b ∈ (partsBlock c).flatMap ownBindings)
    (hd : b ∈ Binding.ofBlock d ↔ b ∈ (partsBlock d).flatMap ownBindings) :
    b ∈ Binding.ofBlock c ++ Binding.ofBlock d ↔
      b ∈ (partsBlock c ++ partsBlock d).flatMap ownBindings := by
  rw [List.mem_append, hc, hd, List.flatMap_append, List.mem_append]

theorem ofExprs_withItems (items : List WithItem) :
    ofExprs (items.flatMap (·.evaluated)) = items.flatMap Binding.ofWithItem := by
  induction items with
  | nil => rfl
  | cons item items ih =>
    rw [List.flatMap_cons, List.flatMap_cons, ofExprs_append, ih, WithItem.evaluated,
      ofExprs_cons, ofExprs_toList, Binding.ofWithItem]

theorem evaluated_annAssign (target annot : Expr) (value : Option Expr) (simple : Option Int) :
    (annAssign target annot value simple).unassigned ++
      (annAssign target annot value simple).lookedInto = target :: annot :: value.toList := by
  cases target <;> cases value <;> rfl

mutual

/-- Reading finds what it looks for in the statements that run in the class, however deep. -/
theorem mem_ofStmt : ∀ s : Stmt, b ∈ Binding.ofStmt s ↔ b ∈ s.parts.flatMap ownBindings
  | .functionDef _ _ => mem_ofStmt_of_isSimple rfl rfl
  | .classDef h body => by
    refine mem_ofStmt_of_isSimple rfl ?_
    rw [Binding.ofStmt, ← ofExprs_append]
    rfl
  | .ret value => mem_ofStmt_of_exprs rfl rfl (ofExprs_toList value).symm
  | .delete targets => mem_ofStmt_of_exprs rfl rfl rfl
  | .assign targets value => by
    refine mem_ofStmt_of_exprs rfl rfl (.trans ?_ (ofExprs_append targets [value]).symm)
    rw [ofExprs_singleton, Binding.ofStmt]
  | .augAssign target op value => by
    refine mem_ofStmt_of_exprs rfl rfl (.trans ?_ (ofExprs_cons target [value]).symm)
    rw [ofExprs_singleton, Binding.ofStmt]
  | .annAssign target annot value simple => by
    refine mem_ofStmt_of_exprs rfl rfl ?_
    rw [evaluated_annAssign, ofExprs_cons, ofExprs_cons, ofExprs_toList, Binding.ofStmt,
      List.append_assoc]
  | .forLoop isAsync target iter body orelse => by
    refine mem_ofStmt_of_blocks (Binding.ofBlock body ++ Binding.ofBlock orelse) rfl rfl ?_ ?_
    · rw [Binding.ofStmt, List.append_assoc]
      exact congrArg (· ++ _) (by rw [← ofExprs_singleton iter, ← ofExprs_cons]; rfl)
    · exact mem_ofBlock_both (mem_ofBlock body) (mem_ofBlock orelse)
  | .whileLoop test body orelse => by
    refine mem_ofStmt_of_blocks (Binding.ofBlock body ++ Binding.ofBlock orelse) rfl rfl ?_ ?_
    · rw [Binding.ofStmt, List.append_assoc]
      exact congrArg (· ++ _) (ofExprs_singleton test).symm
    · exact mem_ofBlock_both (mem_ofBlock body) (mem_ofBlock orelse)
  | .ifStmt test body orelse => by
    refine mem_ofStmt_of_blocks (Binding.ofBlock body ++ Binding.ofBlock orelse) rfl rfl ?_ ?_
    · rw [Binding.ofStmt, List.append_assoc]
      exact congrArg (· ++ _) (ofExprs_singleton test).symm
    · exact mem_ofBlock_both (mem_ofBlock body) (mem_ofBlock orelse)
  | .withStmt _ items body => by
    refine mem_ofStmt_of_blocks (Binding.ofBlock body) rfl rfl ?_ (mem_ofBlock body)
    exact congrArg (· ++ _) (ofExprs_withItems items).symm
  | .matchStmt subject cases => by
    have hown : ownBindings (.matchStmt subject cases) = Binding.ofExpr subject ++
        ofExprs (cases.flatMap fun c => c.pattern.evaluated ++ c.guard.toList) :=
      (List.append_nil _).trans (ofExprs_cons subject _)
    rw [Binding.ofStmt, parts, List.flatMap_cons, hown]
    simp only [List.mem_append, mem_ofCases cases, or_assoc]
  | .raise exc cause => by
    refine mem_ofStmt_of_exprs rfl rfl (.trans ?_ (ofExprs_append exc.toList cause.toList).symm)
    rw [ofExprs_toList, ofExprs_toList, Binding.ofStmt]
  | .tryStmt isGroup body handlers orelse finalbody => by
    have hown : ownBindings (.tryStmt isGroup body handlers orelse finalbody) =
        ofExprs (handlers.flatMap (·.type.toList)) := List.append_nil _
    rw [Binding.ofStmt, parts, List.flatMap_cons, hown]
    simp only [List.flatMap_append, List.mem_append, mem_ofBlock body, mem_ofHandlers handlers,
      mem_ofBlock orelse, mem_ofBlock finalbody, or_assoc]
    exact or_left_comm
  | .assert test msg => by
    refine mem_ofStmt_of_exprs rfl rfl (.trans ?_ (ofExprs_cons test msg.toList).symm)
    rw [ofExprs_toList, Binding.ofStmt]
  | .imports source names => mem_ofStmt_of_isSimple rfl rfl
  | .scope _ _ => mem_ofStmt_of_exprs rfl rfl rfl
  | .expr value => mem_ofStmt_of_exprs rfl rfl (ofExprs_singleton value).symm
  | .jump _ => mem_ofStmt_of_exprs rfl rfl rfl

theorem mem_ofBlock : ∀ ss : List Stmt,
    b ∈ Binding.ofBlock ss ↔ b ∈ (partsBlock ss).flatMap ownBindings
  | [] => by simp [Binding.ofBlock, partsBlock]
  | s :: ss => by
    rw [Binding.ofBlock, partsBlock, List.mem_append, mem_ofStmt s, mem_ofBlock ss,
      List.flatMap_append, List.mem_append]

theorem mem_ofHandlers : ∀ hs : List Handler, b ∈ Binding.ofHandlers hs ↔
    b ∈ ofExprs (hs.flatMap (·.type.toList)) ∨ b ∈ (partsHandlers hs).flatMap ownBindings
  | [] => by simp [Binding.ofHandlers, partsHandlers, ofExprs, Binding.ofOccurrences,
      Expr.occurrencesList]
  | ⟨type, name, body⟩ :: hs => by
    rw [Binding.ofHandlers, Binding.ofHandler, partsHandlers, partsHandler, List.flatMap_cons,
      ofExprs_append, List.flatMap_append, ← ofExprs_toList]
    simp only [List.mem_append, mem_ofBlock body, mem_ofHandlers hs]
    exact or_or_or_comm

theorem mem_ofCases : ∀ cs : List MatchCase, b ∈ Binding.ofCases cs ↔
    b ∈ ofExprs (cs.flatMap fun c => c.pattern.evaluated ++ c.guard.toList) ∨
      b ∈ (partsCases cs).flatMap ownBindings
  | [] => by simp [Binding.ofCases, partsCases, ofExprs, Binding.ofOccurrences,
      Expr.occurrencesList]
  | ⟨pattern, guard, body⟩ :: cs => by
    rw [Binding.ofCases, Binding.ofCase, partsCases, partsCase, List.flatMap_cons, ofExprs_append,
      ofExprs_append, List.flatMap_append, ← ofExprs_toList, ← Pattern.bindings_evaluated]
    simp only [List.mem_append, mem_ofBlock body, mem_ofCases cs]
    exact or_or_or_comm

end

/-- So it finds the names that expressions bind, -/
theorem store_mem_ofStmt (s : Stmt) :
    .store n ∈ Binding.ofStmt s ↔ n ∈ s.parts.flatMap found := by
  have hown : ∀ q : Stmt, .store n ∈ q.ownBindings ↔ n ∈ q.found := fun q => by
    simp [ownBindings, found, store_mem_ofExprs]
  simp only [mem_ofStmt, List.mem_flatMap, hown]

/-- and those that definitions and imports declare. -/
theorem declare_mem_ofStmt (s : Stmt) :
    .declare n ∈ Binding.ofStmt s ↔ n ∈ s.parts.flatMap declared := by
  have hown : ∀ q : Stmt, .declare n ∈ q.ownBindings ↔ n ∈ q.declared := fun q => by
    simp [ownBindings, Binding.declare_not_mem_ofExprs]
  simp only [mem_ofStmt, List.mem_flatMap, hown]

/-! ### The storage that statements name -/

/-- Whether the values that a statement stores are state of the class: it is no definition, no
declaration of a property or an event, and no annotation of a name without a value. -/
def isState (s : Stmt) : Bool :=
  match s.singleTarget? with
  | none => !s.isDefinition
  | some ⟨_, _, none⟩ => false
  | some ⟨_, _, some value⟩ => (Declaration.ofExpr? value).isNone

/-- Whether a statement declares a name as a variable of the class without storing to it. -/
def DeclaresVariable (s : Stmt) (n : String) : Prop :=
  ∃ annot, s.singleTarget? = some ⟨n, annot, none⟩ ∧ Annot.isVariable annot = true

theorem mem_storedNames (s : Stmt) :
    n ∈ ClassModel.storedNames s ↔ isDunder n = false ∧ n ∈ s.parts.flatMap found := by
  rw [← store_mem_ofStmt, ClassModel.storedNames, List.mem_filter, Binding.mem_stores, and_comm,
    Bool.not_eq_true']
  rfl

/-- What a statement declares under a name that other statements may name too. -/
theorem named_storage_iff (s : Stmt) (cls : String) :
    (∃ d ∈ s.storage cls, d.isGenerated = false ∧ d.name = n) ↔
      isDunder n = false ∧
        (s.DeclaresVariable n ∨ s.isState = true ∧ n ∈ s.parts.flatMap found) := by
  have hstored : ∀ target, (∃ d ∈ (ClassModel.storedNames s).map (Field.stored cls target),
      d.isGenerated = false ∧ d.name = n) ↔ isDunder n = false ∧ n ∈ s.parts.flatMap found := by
    intro target
    rw [← mem_storedNames]
    constructor
    · rintro ⟨d, hd, -, rfl⟩
      obtain ⟨name, hname, rfl⟩ := List.mem_map.1 hd
      exact hname
    · exact fun hn => ⟨_, List.mem_map.2 ⟨n, hn, rfl⟩, rfl, rfl⟩
  rcases htarget : s.singleTarget? with - | ⟨name, annot, - | value⟩
  · have hdeclares : ¬s.DeclaresVariable n := by simp [DeclaresVariable, htarget]
    have hstate : s.isState = !s.isDefinition := by simp [isState, htarget]
    rw [storage_of_none htarget, hstate, or_iff_right hdeclares]
    cases s.isDefinition with
    | false => simpa using hstored none
    | true => simp
  · have hstate : s.isState = false := by simp [isState, htarget]
    have hdeclares : s.DeclaresVariable n ↔ name = n ∧ Annot.isVariable annot = true := by
      simp [DeclaresVariable, htarget]
    rw [storage_of_bare htarget, hstate, hdeclares]
    cases Annot.isVariable annot with
    | false => simp
    | true =>
      by_cases hname : name = n
      · subst hname
        cases isDunder name <;> simp [Field.declared]
      · cases isDunder name <;> simp [Field.declared, hname]
  · have hdeclares : ¬s.DeclaresVariable n := by simp [DeclaresVariable, htarget]
    have hstate : s.isState = (Declaration.ofExpr? value).isNone := by simp [isState, htarget]
    rw [hstate, or_iff_right hdeclares]
    rcases hvalue : Declaration.ofExpr? value with - | - | -
    · rw [storage_of_stored htarget hvalue]
      simpa using hstored _
    · simp [storage_of_property htarget hvalue, Field.behindProperty]
    · simp [storage_of_event htarget hvalue, Field.behindEvent]

end Stmt

/-- Whether statements of the class name the storage `n`. -/
def ClassModel.NamesStorage (c : ClassModel) (n : String) : Prop :=
  ∃ f ∈ c.fields, f.isGenerated = false ∧ f.name = n

theorem exists_named_settled (ds : List Field) :
    (∃ f ∈ settled ds, f.isGenerated = false) ↔ ∃ d ∈ ds, d.isGenerated = false := by
  cases ds with
  | nil => simp [settled]
  | cons d ds =>
    rw [settled]
    split_ifs with hgen hall
    · have hkinds : ∀ e ∈ ds, e.isGenerated = true := List.all_eq_true.1 hall
      simpa [hgen] using hkinds
    · simp [hgen]
    · rw [Bool.not_eq_true] at hgen
      simp [hgen]

namespace ClassTree

variable {t : ClassTree} {place : List Nat} {outer enums enums' : List String} {h : ClassHeader}
  {body : Block}

theorem namesStorage_iff (hr : read place outer enums h body = .ok (t, enums')) :
    t.cls.NamesStorage n ↔
      ∃ d ∈ h.declarations enums body, d.isGenerated = false ∧ d.name = n := by
  have hsettled := exists_named_settled (ofName n (h.declarations enums body))
  rw [← ofName_fields_read hr] at hsettled
  simpa only [ClassModel.NamesStorage, mem_ofName, and_assoc, and_comm] using hsettled

/-- Statements name the storage that they declare as a variable, and what is found in the parts of a
state statement: the targets of annotations without a value among it. A name that is no such target,
and that no expression binds that is passed over, is storage exactly if a state statement binds it
when it runs. -/
theorem named_storage_iff_bound (hr : read place outer enums h body = .ok (t, enums'))
    (henum : h.isEnum enums = false) (n : String) :
    (t.cls.NamesStorage n ↔ isDunder n = false ∧ ∃ s ∈ body, s.DeclaresVariable n ∨
      s.isState = true ∧ ∃ q ∈ s.parts,
        n ∈ bindsList q.unassigned ∨ n ∈ bindsList q.lookedInto) ∧
    ((∀ s ∈ body, s.isState = true → ∀ q ∈ s.parts,
        n ∉ bindsList q.unassigned ∧ n ∉ bindsList q.passedOver) →
      (t.cls.NamesStorage n ↔ isDunder n = false ∧ ∃ s ∈ body, s.DeclaresVariable n ∨
        s.isState = true ∧ ∃ q ∈ s.parts, n ∈ bindsList q.executed)) := by
  have hfound : t.cls.NamesStorage n ↔ isDunder n = false ∧ ∃ s ∈ body, s.DeclaresVariable n ∨
      s.isState = true ∧ ∃ q ∈ s.parts,
        n ∈ bindsList q.unassigned ∨ n ∈ bindsList q.lookedInto := by
    have hparts : ∀ s : Stmt,
        (∃ q ∈ s.parts, n ∈ bindsList q.unassigned ∨ n ∈ bindsList q.lookedInto) ↔
          n ∈ s.parts.flatMap Stmt.found := by
      intro s
      simp only [List.mem_flatMap, Stmt.found, Expr.bindsList_append, List.mem_append]
    rw [namesStorage_iff hr, ClassHeader.declarations, if_neg (by simp [henum])]
    simp only [hparts]
    constructor
    · rintro ⟨d, hd, hnamed⟩
      obtain ⟨s, hs, hd⟩ := List.mem_flatMap.1 hd
      obtain ⟨hdunder, hcase⟩ := (Stmt.named_storage_iff s h.name).1 ⟨d, hd, hnamed⟩
      exact ⟨hdunder, s, hs, hcase⟩
    · rintro ⟨hdunder, s, hs, hcase⟩
      obtain ⟨d, hd, hnamed⟩ := (Stmt.named_storage_iff s h.name).2 ⟨hdunder, hcase⟩
      exact ⟨d, List.mem_flatMap.2 ⟨s, hs, hd⟩, hnamed⟩
  refine ⟨hfound, fun hexact => hfound.trans (and_congr_right fun _ => ?_)⟩
  refine exists_congr fun s => and_congr_right fun hs => or_congr_right ?_
  refine and_congr_right fun hstate => exists_congr fun q => and_congr_right fun hq => ?_
  obtain ⟨hunassigned, hpassed⟩ := hexact s hs hstate q hq
  rw [Stmt.executed, Expr.bindsList_append, List.mem_append, or_iff_right hunassigned,
    or_iff_left hpassed]

/-- The body of a class with an annotation without a value in a block. -/
def settings : Block :=
  [.assign [.name "limit" .store] (.constant (.int 10)),
    .ifStmt (.name "DEBUG" .load)
      [.annAssign (.name "level" .store) (.name "int" .load) none (some 1)] []]

/-- It makes a field of a name that no statement binds. -/
theorem named_storage_iff_bound_settings :
    ∃ t, read [0] [] [] ⟨"Settings", [], [], [], []⟩ settings = .ok (t, []) ∧
      t.cls.NamesStorage "limit" ∧ t.cls.NamesStorage "level" ∧
      ∀ s ∈ settings, (∀ q ∈ s.parts, "level" ∉ bindsList q.executed) ∧
        ¬s.DeclaresVariable "level" := by
  obtain ⟨t, hr⟩ : ∃ t, read [0] [] [] ⟨"Settings", [], [], [], []⟩ settings = .ok (t, []) :=
    ⟨_, rfl⟩
  have hlimit := (named_storage_iff_bound hr rfl "limit").2 (by decide +kernel)
  have hlevel := (named_storage_iff_bound hr rfl "level").1
  refine ⟨t, hr, hlimit.2 ⟨by decide, _, .head _, .inr ⟨rfl, by decide +kernel⟩⟩,
    hlevel.2 ⟨by decide, _, .tail _ (.head _), .inr ⟨rfl, by decide +kernel⟩⟩, ?_⟩
  intro s hs
  refine ⟨fun q hq => ?_, ?_⟩
  · revert s q
    decide +kernel
  · rintro ⟨annot, hsingle, -⟩
    simp only [settings, List.mem_cons, List.not_mem_nil, or_false] at hs
    rcases hs with rfl | rfl
    · simp [Stmt.singleTarget?] at hsingle
    · cases hsingle

end ClassTree

end StateWeave
