import StateWeave.Proofs.Unassigned

/-! The names that reading takes the body of a class to bind, beside the names that the body binds
when it runs. Of a definition reading notices the name, and of the declaration of a property or an
event too; any other statement is searched, but not the defaults, annotations and keywords of
definitions in it, and not if all that would be found are dunder names. Whatever an expression out of
sight binds is overlooked, unless the body binds it somewhere in sight as well. -/

namespace StateWeave

open StateWeave.Expr (bindsList)
open StateWeave.Stmt (partsBlock)

variable {n : String}

namespace Expr

/-- The names that an expression stores to in the scope that evaluates it. -/
def assigns (e : Expr) : List String :=
  (e.occurrences.filter (·.ctx == .store)).map (·.name)

def assignsList (es : List Expr) : List String :=
  es.flatMap assigns

theorem assignsList_append (es ds : List Expr) :
    assignsList (es ++ ds) = assignsList es ++ assignsList ds :=
  List.flatMap_append

/-- Storing is one way of binding. -/
theorem assignsList_subset (es : List Expr) : assignsList es ⊆ bindsList es := by
  intro n mem
  obtain ⟨e, he, mem⟩ := List.mem_flatMap.1 mem
  obtain ⟨o, ho, rfl⟩ := List.mem_map.1 mem
  obtain ⟨ho, stored⟩ := List.mem_filter.1 ho
  refine List.mem_flatMap.2 ⟨e, he, List.mem_map.2 ⟨o, List.mem_filter.2 ⟨ho, ?_⟩, rfl⟩⟩
  rw [beq_iff_eq.1 stored]
  rfl

end Expr

open StateWeave.Expr (assignsList assignsList_append)

namespace Stmt

/-- The names that a statement binds when it runs, its blocks included. -/
def bound (s : Stmt) : List String :=
  s.parts.flatMap fun q => assignsList q.executed ++ q.declared

/-- The names of a statement that is not searched. -/
def named (s : Stmt) : List String :=
  match s.singleTarget? with
  | none => s.declared
  | some ⟨name, annot, none⟩ => if Annot.isVariable annot && !isDunder name then [name] else []
  | some ⟨name, _, some _⟩ => [name]

/-- What a statement that is not searched evaluates beside its name. -/
def beside (s : Stmt) : List Expr :=
  match s.singleTarget? with
  | none => s.executed
  | some ⟨_, annot, value⟩ => annot.toList ++ value.toList

/-- The names that reading takes a statement of a class body to bind. -/
def noticed (s : Stmt) : List String :=
  if s.isState then
    if ClassModel.bindsDunders s then [] else s.parts.flatMap fun q => q.found ++ q.declared
  else s.named

/-- The names that a statement of a class body binds where reading does not look. -/
def overlooked (s : Stmt) : List String :=
  if s.isState then
    if ClassModel.bindsDunders s then s.bound
    else s.parts.flatMap fun q => assignsList q.passedOver
  else assignsList s.beside

/-! ### In sight or out of sight -/

section Sight

variable {s : Stmt}

theorem bound_of_isSimple (simple : s.parts = [s]) :
    n ∈ s.bound ↔ n ∈ assignsList s.executed ∨ n ∈ s.declared := by
  rw [bound, simple, List.flatMap_singleton, List.mem_append]

/-- A target that is a name stores to nothing but that name. -/
theorem mem_assigns_name {id : String} {ctx : Ctx} (h : n ∈ (Expr.name id ctx).assigns) : n = id := by
  cases ctx with
  | store => exact List.mem_singleton.1 h
  | load | del => cases h

/-- An assignment of one name stores to that name if there is a value, and in what it evaluates
beside it. -/
theorem bound_of_singleTarget? {name : String} {annot value : Option Expr}
    (target : s.singleTarget? = some ⟨name, annot, value⟩) :
    (∀ n ∈ assignsList (annot.toList ++ value.toList), n ∈ s.bound) ∧
      ∀ n ∈ s.bound, (n = name ∧ value.isSome = true) ∨
        n ∈ assignsList (annot.toList ++ value.toList) := by
  have simple : s.parts = [s] ∧ s.declared = [] := by
    unfold singleTarget? at target
    split at target <;> first | exact ⟨rfl, rfl⟩ | cases target
  have assigned {e : Expr} {es : List Expr} (n : String) :
      n ∈ assignsList (e :: es) → n ∈ e.assigns ∨ n ∈ assignsList es := List.mem_append.1
  simp only [bound_of_isSimple simple.1, simple.2, List.not_mem_nil, or_false]
  unfold singleTarget? at target
  split at target
  next id ctx annot value _ =>
    cases target
    cases value with
    | none => exact ⟨fun n mem => mem, fun n mem => .inr mem⟩
    | some value =>
      exact ⟨fun n mem => List.mem_append_right _ mem,
        fun n mem => (assigned n mem).imp_left fun own => ⟨mem_assigns_name own, rfl⟩⟩
  next id ctx value =>
    cases target
    exact ⟨fun n mem => List.mem_append_right _ mem,
      fun n mem => (assigned n mem).imp_left fun own => ⟨mem_assigns_name own, rfl⟩⟩
  next => cases target

/-- A statement that is not searched binds its name at most, and what is bound beside it. -/
theorem bound_of_not_isState (h : s.isState = false) :
    (∀ n ∈ assignsList s.beside, n ∈ s.bound) ∧
      ∀ n ∈ s.bound, n ∈ s.named ∨ n ∈ assignsList s.beside := by
  rcases target : s.singleTarget? with - | ⟨name, annot, value⟩
  · have definition : s.isDefinition = true := by simpa [isState, target] using h
    have simple : s.parts = [s] := by
      cases s <;> first | rfl | cases definition
    have same : s.beside = s.executed ∧ s.named = s.declared := by simp [beside, named, target]
    simp only [bound_of_isSimple simple, same.1, same.2]
    exact ⟨fun n mem => .inl mem, fun n mem => mem.symm⟩
  · have beside : s.beside = annot.toList ++ value.toList := by simp [Stmt.beside, target]
    obtain ⟨inside, only⟩ := bound_of_singleTarget? target
    rw [beside]
    refine ⟨inside, fun n mem => (only n mem).imp_left ?_⟩
    rintro ⟨rfl, valued⟩
    obtain ⟨value, rfl⟩ := Option.isSome_iff_exists.1 valued
    simp [named, target]

/-- What is overlooked is bound, -/
theorem bound_of_overlooked (h : n ∈ s.overlooked) : n ∈ s.bound := by
  unfold overlooked at h
  split_ifs at h with searched dunders
  · exact h
  · obtain ⟨q, hq, mem⟩ := List.mem_flatMap.1 h
    refine List.mem_flatMap.2 ⟨q, hq, List.mem_append_left _ ?_⟩
    rw [executed, assignsList_append]
    exact List.mem_append_right _ mem
  · exact (bound_of_not_isState (by simpa using searched)).1 n h

/-- and what is bound is overlooked unless it is noticed. -/
theorem noticed_or_overlooked (h : n ∈ s.bound) : n ∈ s.noticed ∨ n ∈ s.overlooked := by
  unfold noticed overlooked
  split_ifs with searched dunders
  · exact .inr h
  · obtain ⟨q, hq, mem⟩ := List.mem_flatMap.1 h
    rw [executed, assignsList_append, List.mem_append, List.mem_append] at mem
    rcases mem with (inSight | outOfSight) | declares
    · refine .inl (List.mem_flatMap.2 ⟨q, hq, List.mem_append_left _ ?_⟩)
      rw [found, Expr.bindsList_append]
      exact List.mem_append_right _ (Expr.assignsList_subset _ inSight)
    · exact .inr (List.mem_flatMap.2 ⟨q, hq, outOfSight⟩)
    · exact .inl (List.mem_flatMap.2 ⟨q, hq, List.mem_append_right _ declares⟩)
  · exact (bound_of_not_isState (by simpa using searched)).2 n h

end Sight

/-! ### Reading the statements of a body -/

/-- A search that is not given up notices what it finds in all parts. -/
theorem mem_searched (s : Stmt) :
    n ∈ Binding.stores s.bindings ++ Binding.declarations s.bindings ↔
      n ∈ s.parts.flatMap fun q => q.found ++ q.declared := by
  rw [List.mem_append, Binding.mem_stores, Binding.mem_declarations]
  simp only [bindings, store_mem_ofStmt, declare_mem_ofStmt, List.mem_flatMap, List.mem_append,
    and_or_left, exists_or]

theorem noticed_of_isDefinition {s : Stmt} (h : s.isDefinition = true) : s.noticed = s.declared := by
  cases s with
  | functionDef | classDef | imports => rfl
  | _ => cases h

theorem noticed_of_idle {s : Stmt} {index : Nat}
    (h : s.isDocstring index = true ∨ s.isNoop = true) : s.noticed = [] := by
  rcases h with h | h
  · unfold isDocstring at h
    split at h
    · rfl
    · cases h
  · unfold isNoop at h
    split at h
    · rfl
    · rfl
    · cases h

end Stmt

namespace ClassModel

variable {c c' : ClassModel} {index : Nat} {s : Stmt}

@[simp] theorem scopeNames_addField (c : ClassModel) (f : Field) :
    (c.addField f).scopeNames = c.scopeNames := by
  obtain ⟨fs, h⟩ := c.addField_eq f
  rw [h]

theorem scopeNames_readStores (state : s.isState = true) (h : c.readStores index s = .ok c') :
    n ∈ c'.scopeNames ↔ n ∈ c.scopeNames ∨ n ∈ s.noticed := by
  rw [readStores_eq] at h
  rw [Stmt.noticed, if_pos state]
  split_ifs at h ⊢ with dunders
  · cases h
    simp
  · obtain ⟨markers, -, same⟩ := bind_eq_ok.1 h
    cases same
    obtain ⟨fs, declared⟩ := foldl_declareStored_eq s.singleTarget? markers (storedNames s) c
    rw [← Stmt.mem_searched]
    unfold afterStores declareAll
    rw [declared]
    exact mem_scopeNames_addScope _ _ n

theorem scopeNames_readDeclared {name : String} {annot : Option Expr}
    (h : c.readDeclared name annot = .ok c') : n ∈ c'.scopeNames ↔
      n ∈ c.scopeNames ∨ n ∈ if Annot.isVariable annot && !isDunder name then [name] else [] := by
  obtain ⟨isVar, known, h⟩ := bind_eq_ok.1 h
  rw [Annot.isVariable_of_ok known]
  split_ifs at h ⊢
  · obtain ⟨markers, -, same⟩ := bind_eq_ok.1 h
    cases same
    rw [mem_scopeNames_addScope, declareField, scopeNames_addField]
  · cases h
    simp

theorem scopeNames_readState (hs : s.isDefinition = false) (h : c.readState index s = .ok c') :
    n ∈ c'.scopeNames ↔ n ∈ c.scopeNames ∨ n ∈ s.noticed := by
  unfold readState at h
  split at h
  next target => exact scopeNames_readStores (by simp [Stmt.isState, target, hs]) h
  next name annot target =>
    have noticed : s.noticed = if Annot.isVariable annot && !isDunder name then [name] else [] := by
      simp [Stmt.noticed, Stmt.isState, Stmt.named, target]
    rw [noticed]
    exact scopeNames_readDeclared h
  next name annot value target =>
    have noticed (kind : Declaration) (declared : Declaration.ofExpr? value = some kind) :
        s.noticed = [name] := by
      simp [Stmt.noticed, Stmt.isState, Stmt.named, target, declared]
    split at h
    next stored => exact scopeNames_readStores (by simp [Stmt.isState, target, stored]) h
    next property =>
      obtain ⟨markers, -, same⟩ := bind_eq_ok.1 h
      cases same
      rw [noticed .property property]
      exact (mem_scopeNames_addScope _ _ n).trans (by rw [scopeNames_addField])
    next event =>
      obtain ⟨markers, -, same⟩ := bind_eq_ok.1 h
      cases same
      rw [noticed .event event]
      exact (mem_scopeNames_addScope _ _ n).trans (by rw [scopeNames_addField])

/-- A statement adds the names that reading notices to the scope, and no others. -/
theorem scopeNames_readOther (hs : s.isClass = false) (h : c.readOther index s = .ok c') :
    n ∈ c'.scopeNames ↔ n ∈ c.scopeNames ∨ n ∈ s.noticed := by
  unfold readOther at h
  split at h
  next header body =>
    cases h
    exact mem_scopeNames_addScope _ _ n
  next source names =>
    cases h
    rw [mem_scopeNames_addScope, Stmt.noticed_of_isDefinition rfl, Binding.mem_declarations,
      Stmt.bindings, Stmt.declare_mem_ofStmt]
    simp [Stmt.parts]
  next hfunction himports =>
    split_ifs at h with hidle
    · cases h
      rw [Stmt.noticed_of_idle (by simpa using hidle)]
      simp
    · refine scopeNames_readState ?_ h
      cases s with
      | functionDef header body => exact (hfunction header body rfl).elim
      | imports source names => exact (himports source names rfl).elim
      | classDef header body => cases hs
      | _ => rfl

end ClassModel

/-- The names that a block hands to a scope around it. -/
def Stmt.redirected (b : Block) : List String :=
  (partsBlock b).flatMap fun
    | .scope _ names => names
    | _ => []

/-- Whether a class body binds a name of the class when it runs. -/
def Stmt.BindsMember (body : Block) (n : String) : Prop :=
  n ∉ Stmt.redirected body ∧ ∃ s ∈ body, n ∈ s.bound

namespace ClassTree

variable {t : ClassTree} {place : List Nat} {outer enums enums' : List String} {h : ClassHeader}
  {body : Block}

theorem scopeNames_readBody (b : Block) :
    ∀ {t t' : ClassTree} {enums enums' : List String} {index : Nat},
      readBody t enums index b = .ok (t', enums') →
      (n ∈ t'.cls.scopeNames ↔ n ∈ t.cls.scopeNames ∨ ∃ s ∈ b, n ∈ s.noticed) := by
  induction b with
  | nil =>
    intro t t' enums enums' index hr
    cases hr
    simp
  | cons s rest ih =>
    intro t t' enums enums' index hr
    rw [List.exists_mem_cons_iff, ← or_assoc]
    rcases readBody_cons_cases hr with
      ⟨hs, c, -, hc, hrest⟩ | ⟨h, body, m, later, rfl, hm, hrest⟩
    · rw [ih hrest, ClassModel.scopeNames_readOther hs hc]
    · rw [ih hrest, Stmt.noticed_of_isDefinition rfl, addNested,
        ClassModel.mem_scopeNames_addScope, name_read hm]
      rfl

/-- The names of the scope of a class are those that every body binds and those that reading notices.
A statement binds what is noticed or overlooked in it; so nothing that the body binds is missing
exactly if everything that is overlooked somewhere is noticed elsewhere. -/
theorem scopeNames_complete_iff (hr : read place outer enums h body = .ok (t, enums'))
    (henum : h.isEnum enums = false) :
    (∀ n, n ∈ t.cls.scopeNames ↔
      n ∈ ClassModel.implicitNames ∨ ∃ s ∈ body, n ∈ s.noticed) ∧
    (∀ s ∈ body, (∀ n ∈ s.overlooked, n ∈ s.bound) ∧
      ∀ n ∈ s.bound, n ∈ s.noticed ∨ n ∈ s.overlooked) ∧
    ((∀ n, Stmt.BindsMember body n → n ∈ t.cls.scopeNames) ↔
      ∀ s ∈ body, ∀ n ∈ s.overlooked, n ∉ Stmt.redirected body →
        n ∈ ClassModel.implicitNames ∨ ∃ r ∈ body, n ∈ r.noticed) := by
  have names : ∀ n, n ∈ t.cls.scopeNames ↔
      n ∈ ClassModel.implicitNames ∨ ∃ s ∈ body, n ∈ s.noticed := by
    intro n
    obtain ⟨params, -, ⟨isEnum, -, -⟩ | ⟨-, u, hu, rfl⟩⟩ := read_cases hr
    · rw [henum] at isEnum
      cases isEnum
    · exact scopeNames_readBody body hu
  refine ⟨names, fun s _ => ⟨fun n => Stmt.bound_of_overlooked, fun n => Stmt.noticed_or_overlooked⟩,
    fun complete s hs n overlooked member => ?_, fun covered n binds => ?_⟩
  · exact (names n).1 (complete n ⟨member, s, hs, Stmt.bound_of_overlooked overlooked⟩)
  · obtain ⟨member, s, hs, bound⟩ := binds
    rw [names]
    rcases Stmt.noticed_or_overlooked bound with noticed | overlooked
    · exact .inr ⟨s, hs, noticed⟩
    · exact covered s hs n overlooked member

/-- A class whose body stores to four names out of sight: of dunder names alone, in a default, in a
keyword and in the declaration of a property. -/
def fitting : Block :=
  [.assign [.name "__slots__" .store] (.sequence .tuple [] .load),
    .functionDef ⟨false, "fit",
        { Params.ofNames ["self", "size"] with
          defaults := [.walrus "limit" (.constant (.int 10))] }, [], none, []⟩ [.pass],
    .classDef ⟨"Part", [], [⟨some "metaclass", .walrus "kind" (.name "type" .load)⟩], [], []⟩ [.pass],
    .assign [.name "hits" .store]
      (.call (.name "static_property" .load) [.walrus "start" (.constant (.int 0))] [])]

/-- None of them is a name of its scope. -/
theorem scopeNames_complete_iff_fitting :
    ∃ t, read [0] [] [] ⟨"Fitting", [], [], [], []⟩ fitting = .ok (t, []) ∧
      ∀ n ∈ ["__slots__", "limit", "kind", "start"],
        Stmt.BindsMember fitting n ∧ n ∉ t.cls.scopeNames := by
  obtain ⟨t, hr⟩ : ∃ t, read [0] [] [] ⟨"Fitting", [], [], [], []⟩ fitting = .ok (t, []) :=
    ⟨_, rfl⟩
  obtain ⟨names, -, -⟩ := scopeNames_complete_iff hr rfl
  refine ⟨t, hr, fun n hn => ?_⟩
  rw [names]
  unfold Stmt.BindsMember
  revert n
  decide +kernel

end ClassTree

end StateWeave
