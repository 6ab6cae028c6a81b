import Mathlib.Data.List.Nodup
import StateWeave.Proofs.Classes
import StateWeave.Proofs.Running

/-! Class bodies whose state statements assign plain values to single names. Such a body declares no
generated storage, so each stored name has one field, and the initializer is the assignments of the
body in their order. -/

namespace StateWeave

open ClassModel (ReadStep)

namespace Expr

mutual

/-- Whether an expression is made of constants, names, operators and displays. -/
def isPlain : Expr → Bool
  | .constant _ => true
  | .name _ .load => true
  | .unaryOp _ operand => operand.isPlain
  | .binOp left _ right => left.isPlain && right.isPlain
  | .sequence _ elts .load => arePlain elts
  | _ => false

def arePlain : List Expr → Bool
  | [] => true
  | e :: es => e.isPlain && arePlain es

end

/-- The names that an expression uses. -/
def names (e : Expr) : List String :=
  e.occurrences.map (·.name)

mutual

theorem binds_of_isPlain : ∀ e : Expr, e.isPlain = true → e.binds = []
  | .constant _, _ => rfl
  | .name _ .load, _ => rfl
  | .unaryOp _ operand, h => binds_of_isPlain operand h
  | .binOp left _ right, h => by
    simp only [isPlain, Bool.and_eq_true] at h
    have hleft := binds_of_isPlain left h.1
    have hright := binds_of_isPlain right h.2
    simp only [binds, occurrences, List.filter_append, List.map_append] at hleft hright ⊢
    rw [hleft, hright]
    rfl
  | .sequence _ elts .load, h => binds_of_arePlain elts h

theorem binds_of_arePlain : ∀ es : List Expr, arePlain es = true →
    ((occurrencesList es).filter (·.ctx != .load)).map (·.name) = []
  | [], _ => rfl
  | e :: es, h => by
    simp only [arePlain, Bool.and_eq_true] at h
    have hhead := binds_of_isPlain e h.1
    have htail := binds_of_arePlain es h.2
    simp only [binds] at hhead
    rw [occurrencesList, List.filter_append, List.map_append, hhead, htail]
    rfl

end

theorem ofExpr?_of_isPlain {e : Expr} (h : e.isPlain = true) : Declaration.ofExpr? e = none := by
  cases e with
  | call func args keywords => cases h
  | _ => rfl

end Expr

theorem Binding.ofExpr_eq (e : Expr) : ofExpr e = e.binds.map .store := by
  unfold ofExpr ofOccurrences Expr.binds
  induction e.occurrences with
  | nil => rfl
  | cons o os ih =>
    obtain ⟨name, ctx⟩ := o
    cases ctx <;> simp [ih]

namespace Stmt

variable {s : Stmt} {x : Assignment}

theorem assignment?_eq_some (h : s.assignment? = some x) :
    isDunder x.name = false ∧
      (s = .assign [.name x.name .store] x.value ∧ x.annot = none ∨
        ∃ annot simple, s = .annAssign (.name x.name .store) annot (some x.value) simple ∧
          x.annot = some annot) := by
  unfold assignment? at h
  split at h
  next id value =>
    split_ifs at h with hd
    cases h
    exact ⟨by simpa using hd, .inl ⟨rfl, rfl⟩⟩
  next id annot value simple =>
    split_ifs at h with hd
    cases h
    exact ⟨by simpa using hd, .inr ⟨annot, simple, rfl, rfl⟩⟩
  next => cases h

theorem singleTarget?_of_assignment? (h : s.assignment? = some x) :
    s.singleTarget? = some ⟨x.name, x.annot, some x.value⟩ := by
  obtain ⟨-, ⟨rfl, hannot⟩ | ⟨annot, simple, rfl, hannot⟩⟩ := assignment?_eq_some h
  · rw [hannot]
    rfl
  · rw [hannot]
    rfl

/-- An assignment stores the name it is about, before all that its value and annotation bind. -/
theorem bindings_of_assignment? (h : s.assignment? = some x) :
    s.bindings = .store x.name :: (Expr.bindsOption x.annot ++ x.value.binds).map .store := by
  obtain ⟨-, ⟨rfl, hannot⟩ | ⟨annot, simple, rfl, hannot⟩⟩ := assignment?_eq_some h
  · have hsplit : (assign [.name x.name .store] x.value).bindings =
        .store x.name :: Binding.ofExpr x.value := rfl
    rw [hsplit, hannot, Binding.ofExpr_eq]
    rfl
  · have hsplit : (annAssign (.name x.name .store) annot (some x.value) simple).bindings =
        .store x.name :: (Binding.ofExpr annot ++ Binding.ofExpr x.value) := rfl
    rw [hsplit, hannot, Binding.ofExpr_eq, Binding.ofExpr_eq, ← List.map_append]
    simp [Expr.bindsOption]

theorem mem_binds_of_assignment? (h : s.assignment? = some x) : x.name ∈ s.binds := by
  obtain ⟨-, ⟨rfl, -⟩ | ⟨annot, simple, rfl, -⟩⟩ := assignment?_eq_some h
  · simp [binds, Expr.bindsList, Expr.binds, Expr.occurrences]
  · simp [binds, Expr.binds, Expr.occurrences]

/-- An assignment whose value is plain and whose annotation binds nothing. -/
def IsStraight (s : Stmt) : Prop :=
  ∃ x, s.assignment? = some x ∧ x.value.isPlain = true ∧ Expr.bindsOption x.annot = []

end Stmt

namespace ClassModel

variable {c c' : ClassModel} {index : Nat} {s : Stmt}

def fieldNames (c : ClassModel) : List String :=
  c.fields.map (·.name)

theorem map_name_updateFirst (name : String) (annot : Option Expr) (markers : List Marker)
    (fs : List Field) : (updateFirst name (mergeInto annot markers) fs).map (·.name) =
      fs.map (·.name) := by
  induction fs with
  | nil => rfl
  | cons f fs ih =>
    unfold updateFirst
    split_ifs
    · rfl
    · rw [List.map_cons, List.map_cons, ih]

/-- A declaration completes the field of its name or adds one. -/
theorem fieldNames_addField (c : ClassModel) (f : Field) :
    ((c.addField f).fieldNames = c.fieldNames ∧ f.name ∈ c.fieldNames) ∨
      (c.addField f).fieldNames = c.fieldNames ++ [f.name] := by
  unfold addField findField?
  split
  next existing hfound =>
    have hmem : f.name ∈ c.fieldNames :=
      List.mem_map.2 ⟨existing, List.mem_of_find?_eq_some hfound,
        by simpa using List.find?_some hfound⟩
    split_ifs
    · exact .inl ⟨map_name_updateFirst _ _ _ _, hmem⟩
    · exact .inr (by simp [fieldNames])
  next => exact .inr (by simp [fieldNames])

theorem mem_fieldNames_addField (c : ClassModel) (f : Field) :
    f.name ∈ (c.addField f).fieldNames ∧ ∀ n ∈ c.fieldNames, n ∈ (c.addField f).fieldNames := by
  rcases c.fieldNames_addField f with ⟨hsame, hmem⟩ | hnew
  · exact ⟨hsame ▸ hmem, fun n hn => hsame ▸ hn⟩
  · rw [hnew]
    exact ⟨by simp, fun n hn => List.mem_append_left _ hn⟩

theorem initializer_addField (c : ClassModel) (f : Field) :
    (c.addField f).initializer = c.initializer := by
  obtain ⟨fs, hfs⟩ := c.addField_eq f
  rw [hfs]

theorem mem_scopeNames_addScope (c : ClassModel) (names : List String) (n : String) :
    n ∈ (c.addScope names).scopeNames ↔ n ∈ c.scopeNames ∨ n ∈ names := by
  simp [addScope, List.mem_eraseDups]

/-- Reading goes on: what was read stays. -/
structure Grows (c c' : ClassModel) : Prop where
  initializer : c.initializer <+: c'.initializer
  scopeNames : ∀ n ∈ c.scopeNames, n ∈ c'.scopeNames
  fieldNames : ∀ n ∈ c.fieldNames, n ∈ c'.fieldNames

namespace Grows

theorem refl (c : ClassModel) : Grows c c :=
  ⟨List.prefix_refl _, fun _ hn => hn, fun _ hn => hn⟩

theorem trans {d : ClassModel} (h : Grows c c') (k : Grows c' d) : Grows c d :=
  ⟨h.initializer.trans k.initializer, fun n hn => k.scopeNames n (h.scopeNames n hn),
    fun n hn => k.fieldNames n (h.fieldNames n hn)⟩

theorem addScope (c : ClassModel) (names : List String) : Grows c (c.addScope names) :=
  ⟨List.prefix_refl _, fun n hn => (c.mem_scopeNames_addScope names n).2 (.inl hn),
    fun _ hn => hn⟩

theorem addField (c : ClassModel) (f : Field) : Grows c (c.addField f) := by
  obtain ⟨fs, hfs⟩ := c.addField_eq f
  refine ⟨?_, ?_, (c.mem_fieldNames_addField f).2⟩
  · exact hfs ▸ List.prefix_refl _
  · rw [hfs]
    exact fun n hn => hn

theorem addStatement (c : ClassModel) (index : Nat) (s : Stmt) :
    Grows c (c.addStatement index s) :=
  ⟨List.prefix_append _ _, fun _ hn => hn, fun _ hn => hn⟩

/-- What is read of methods, properties and events is not looked at. -/
theorem of_eq {d : ClassModel} (h : Grows d c') (hinit : d.initializer = c.initializer)
    (hscope : d.scopeNames = c.scopeNames) (hfields : d.fields = c.fields) : Grows c c' :=
  ⟨hinit ▸ h.initializer, hscope ▸ h.scopeNames, by
    have hnames := h.fieldNames
    simp only [ClassModel.fieldNames, hfields] at hnames
    exact hnames⟩

theorem addFunction (c : ClassModel) (h : FunctionHeader) : Grows c (c.addFunction h) :=
  of_eq (addScope _ _) rfl rfl rfl

theorem addProperty (c : ClassModel) (name : String) (annot : Option Expr)
    (markers : List Marker) : Grows c (c.addProperty name annot markers) :=
  of_eq ((addField _ _).trans (addScope _ _)) rfl rfl rfl

theorem addEvent (c : ClassModel) (name : String) (annot : Option Expr)
    (markers : List Marker) : Grows c (c.addEvent name annot markers) :=
  of_eq ((addField _ _).trans (addScope _ _)) rfl rfl rfl

theorem foldl_declareStored (target : Option SingleTarget) (markers : List Marker)
    (names : List String) (c : ClassModel) :
    Grows c (names.foldl (declareStored target markers) c) := by
  induction names generalizing c with
  | nil => exact refl c
  | cons name names ih =>
    refine trans ?_ (ih _)
    unfold declareStored
    split_ifs
    · exact addField c _
    · exact addField c _

end Grows

theorem ReadStep.grows (h : ReadStep c index s c') : Grows c c' := by
  cases h with
  | function h body => exact Grows.addFunction c h
  | imports => exact Grows.addScope _ _
  | idle | annotated | dunders => exact Grows.refl c
  | declare => exact (Grows.addField c _).trans (Grows.addScope _ _)
  | stores =>
    exact ((Grows.foldl_declareStored _ _ _ c).trans (Grows.addScope _ _)).trans
      (Grows.addStatement _ _ _)
  | property => exact (Grows.addProperty c _ _ _).trans (Grows.addStatement _ _ _)
  | event => exact (Grows.addEvent c _ _ _).trans (Grows.addStatement _ _ _)

/-- Reading a statement adds at most that statement to the initializer. -/
theorem ReadStep.mem_initializer (step : ReadStep c index s c') :
    ∀ p ∈ c'.initializer, p ∈ c.initializer ∨ p.2 = s := by
  have added {d : ClassModel} (same : d.initializer = c.initializer) :
      ∀ p ∈ (d.addStatement index s).initializer, p ∈ c.initializer ∨ p.2 = s := by
    intro p hp
    rcases List.mem_append.1 hp with hp | hp
    · exact .inl (same ▸ hp)
    · exact .inr (congrArg Prod.snd (List.mem_singleton.1 hp))
  cases step with
  | function | imports | idle | annotated | dunders => exact fun p hp => .inl hp
  | declare => exact fun p hp => .inl (initializer_addField c _ ▸ hp)
  | @stores _ markers =>
    obtain ⟨fs, hfs⟩ := c.afterStores_eq index s markers
    rw [hfs]
    exact added rfl
  | property => exact added (initializer_addField _ _)
  | event => exact added (initializer_addField _ _)

end ClassModel

theorem ClassTree.readBody_grows (b : Block) :
    ∀ {t t' : ClassTree} {enums enums' : List String} {index : Nat},
      readBody t enums index b = .ok (t', enums') → t.cls.Grows t'.cls := by
  induction b with
  | nil =>
    intro t t' enums enums' index hr
    cases hr
    exact ClassModel.Grows.refl _
  | cons s rest ih =>
    intro t t' enums enums' index hr
    rcases readBody_cons_cases hr with ⟨-, c, hstep, -, hrest⟩ | ⟨h, body, n, later, -, -, hrest⟩
    · exact hstep.grows.trans (ih hrest)
    · exact (ClassModel.Grows.addScope _ _).trans (ih hrest)

/-- The names of the functions that a block defines. -/
def Stmt.functionNames (b : Block) : List String :=
  b.filterMap fun
    | .functionDef h _ => some h.name
    | _ => none

namespace ClassModel

variable {c c' : ClassModel} {index : Nat} {s : Stmt} {defs : List String}

/-- What a class body without declarations of properties and events comes to: fields of different
names, all of them stored by statements, and properties of functions only. -/
structure Storage (defs : List String) (c : ClassModel) : Prop where
  plain : ∀ f ∈ c.fields, f.isGenerated = false ∧ f.isStatic = true
  nodup : c.fieldNames.Nodup
  events : c.events = []
  properties : ∀ p ∈ c.properties, p.name ∈ defs

namespace Storage

theorem of_eq {d : ClassModel} (h : Storage defs d) (hfields : c.fields = d.fields)
    (hevents : c.events = d.events) (hproperties : c.properties = d.properties) :
    Storage defs c where
  plain := hfields ▸ h.plain
  nodup := by
    have hnodup := h.nodup
    simp only [fieldNames] at hnodup ⊢
    rw [hfields]
    exact hnodup
  events := hevents ▸ h.events
  properties := hproperties ▸ h.properties

theorem addScope (h : Storage defs c) (names : List String) : Storage defs (c.addScope names) :=
  h.of_eq rfl rfl rfl

theorem addStatement (h : Storage defs c) (index : Nat) (s : Stmt) :
    Storage defs (c.addStatement index s) :=
  h.of_eq rfl rfl rfl

theorem addField (h : Storage defs c) {f : Field} (hf : f.isGenerated = false)
    (hstatic : f.isStatic = true) : Storage defs (c.addField f) := by
  unfold ClassModel.addField
  split
  next existing hfound =>
    have hexisting := (h.plain existing (List.mem_of_find?_eq_some hfound)).1
    rw [if_pos (by simp [hexisting, hf])]
    have hplain := forall_mem_updateFirst f.name (mergeInto f.annot f.markers) (fun _ hg => hg)
      h.plain
    refine ⟨hplain, ?_, h.events, h.properties⟩
    have hnames := map_name_updateFirst f.name f.annot f.markers c.fields
    simp only [fieldNames, hnames]
    exact h.nodup
  next hnone =>
    refine ⟨?_, ?_, h.events, h.properties⟩
    · rw [List.forall_mem_append]
      exact ⟨h.plain, by simp [hf, hstatic]⟩
    · have hnew : f.name ∉ c.fieldNames := by
        intro hmem
        obtain ⟨g, hg, hname⟩ := List.mem_map.1 hmem
        have hne := List.find?_eq_none.1 hnone g hg
        exact hne (by simp [hname])
      have happend : ({ c with fields := c.fields ++ [f] } : ClassModel).fieldNames =
          c.fieldNames ++ [f.name] := by simp [fieldNames]
      rw [happend, List.nodup_append]
      refine ⟨h.nodup, by simp, fun n hn m hm => ?_⟩
      rw [List.mem_singleton.1 hm]
      rintro rfl
      exact hnew hn

theorem foldl_declareStored (target : Option SingleTarget) (markers : List Marker)
    (names : List String) (h : Storage defs c) :
    Storage defs (names.foldl (declareStored target markers) c) := by
  induction names generalizing c with
  | nil => exact h
  | cons name names ih =>
    refine ih ?_
    unfold declareStored
    split_ifs
    · exact h.addField rfl rfl
    · exact h.addField rfl rfl

theorem name_readAccessor (h : FunctionHeader) (decorator : Expr) {ps : List Property}
    (hps : ∀ p ∈ ps, p.name ∈ defs) (hdef : h.name ∈ defs) :
    ∀ p ∈ readAccessor h ps decorator, p.name ∈ defs := by
  unfold readAccessor
  split_ifs
  · rw [List.forall_mem_append]
    exact ⟨hps, by simpa using hdef⟩
  · split
    · split_ifs
      · intro p hp
        obtain ⟨q, hq, rfl⟩ := List.mem_map.1 hp
        split_ifs <;> exact hps q hq
      · exact hps
    · exact hps

theorem addFunction (h : Storage defs c) {header : FunctionHeader} (hdef : header.name ∈ defs) :
    Storage defs (c.addFunction header) := by
  have hproperties : ∀ (ds : List Expr) (ps : List Property), (∀ p ∈ ps, p.name ∈ defs) →
      ∀ p ∈ ds.foldl (readAccessor header) ps, p.name ∈ defs := by
    intro ds
    induction ds with
    | nil => exact fun ps hps => hps
    | cons d ds ih => exact fun ps hps => ih _ (name_readAccessor header d hps hdef)
  exact ⟨h.plain, h.nodup, h.events, hproperties _ _ h.properties⟩

end Storage

theorem mem_stores_of_assignment? {x : Assignment} (h : s.assignment? = some x) :
    x.name ∈ Binding.stores s.bindings := by
  rw [Stmt.bindings_of_assignment? h, Binding.stores, List.mem_eraseDups]
  simp

/-- Assignments are neither idle nor about dunder names. -/
theorem assignment?_of_idle {s : Stmt} {index : Nat}
    (h : s.isDocstring index = true ∨ s.isNoop = true) : s.assignment? = none := by
  cases hs : s.assignment? with
  | none => rfl
  | some x =>
    obtain ⟨-, ⟨rfl, -⟩ | ⟨annot, simple, rfl, -⟩⟩ := Stmt.assignment?_eq_some hs
    · simp [Stmt.isDocstring, Stmt.isNoop] at h
    · simp [Stmt.isDocstring, Stmt.isNoop] at h

theorem assignment?_of_dunders (h : bindsDunders s = true) : s.assignment? = none := by
  cases hs : s.assignment? with
  | none => rfl
  | some x =>
    have hstored : x.name ∈ storedNames s :=
      List.mem_filter.2 ⟨mem_stores_of_assignment? hs, by
        simp [(Stmt.assignment?_eq_some hs).1]⟩
    simp only [bindsDunders, Bool.and_eq_true] at h
    rw [List.isEmpty_iff.1 h.1.1] at hstored
    cases hstored

theorem assignment?_of_annotated {name : String} {annot : Option Expr}
    (h : s.singleTarget? = some ⟨name, annot, none⟩) : s.assignment? = none := by
  cases hs : s.assignment? with
  | none => rfl
  | some x =>
    rw [Stmt.singleTarget?_of_assignment? hs] at h
    cases h

theorem not_isStraight_of_declaration {name : String} {annot : Option Expr} {value : Expr}
    {d : Declaration} (h : s.singleTarget? = some ⟨name, annot, some value⟩)
    (hv : Declaration.ofExpr? value = some d) : ¬s.IsStraight := by
  rintro ⟨x, hx, hplain, -⟩
  rw [Stmt.singleTarget?_of_assignment? hx] at h
  cases h
  rw [Expr.ofExpr?_of_isPlain hplain] at hv
  cases hv

/-- The one name that a straight statement stores. -/
theorem storedNames_of_isStraight {x : Assignment} (h : s.assignment? = some x)
    (hplain : x.value.isPlain = true) (hannot : Expr.bindsOption x.annot = []) :
    storedNames s = [x.name] := by
  unfold storedNames
  rw [Stmt.bindings_of_assignment? h, Expr.binds_of_isPlain _ hplain, hannot]
  simp [Binding.stores, (Stmt.assignment?_eq_some h).1, List.eraseDups_cons]

/-- One statement of a body whose state statements are all straight: it is added to the initializer
when it is an assignment, and its name is then storage and a name of the class. -/
theorem ReadStep.straight (h : ReadStep c index s c')
    (hinit : ∀ p ∈ c'.initializer, p.2.IsStraight) (hstorage : Storage defs c)
    (hdefs : ∀ n ∈ Stmt.functionNames [s], n ∈ defs) :
    Storage defs c' ∧
      c'.initializer.map (·.2) =
        c.initializer.map (·.2) ++ [s].filter (·.assignment?.isSome) ∧
      ∀ x, s.assignment? = some x → x.name ∈ c'.scopeNames ∧ x.name ∈ c'.fieldNames := by
  have hother : s.assignment? = none → c'.initializer = c.initializer → Storage defs c' →
      Storage defs c' ∧
        c'.initializer.map (·.2) =
          c.initializer.map (·.2) ++ [s].filter (·.assignment?.isSome) ∧
        ∀ x, s.assignment? = some x → x.name ∈ c'.scopeNames ∧ x.name ∈ c'.fieldNames := by
    intro hnone hsame hstored
    refine ⟨hstored, by simp [hsame, hnone], fun x hx => ?_⟩
    rw [hnone] at hx
    cases hx
  cases h with
  | function h body =>
    have hdef := hdefs h.name (by simp [Stmt.functionNames])
    exact hother rfl rfl (hstorage.addFunction hdef)
  | imports => exact hother rfl rfl (hstorage.addScope _)
  | idle hs => exact hother (assignment?_of_idle hs) rfl hstorage
  | annotated hs => exact hother (assignment?_of_annotated hs) rfl hstorage
  | declare hs =>
    exact hother (assignment?_of_annotated hs) (initializer_addField c _)
      ((hstorage.addField rfl rfl).addScope _)
  | dunders hs => exact hother (assignment?_of_dunders hs) rfl hstorage
  | @stores _ markers hs hd hm =>
    obtain ⟨x, hx, hplain, hannot⟩ := hinit (index, s) (by simp [afterStores, addStatement])
    have hstored := storedNames_of_isStraight hx hplain hannot
    have hdeclared : x.name ∈ (c.declareAll s markers).fieldNames := by
      rw [declareAll, hstored, List.foldl_cons, List.foldl_nil, declareStored]
      split_ifs
      · exact (c.mem_fieldNames_addField _).1
      · exact (c.mem_fieldNames_addField _).1
    have hdeclareAll : Storage defs (c.declareAll s markers) :=
      hstorage.foldl_declareStored _ markers (storedNames s)
    refine ⟨(hdeclareAll.addScope _).addStatement index s, ?_, ?_⟩
    · obtain ⟨fs, hfs⟩ := c.afterStores_eq index s markers
      rw [hfs]
      simp [addStatement, addScope, hx]
    · intro y hy
      rw [hx] at hy
      cases hy
      refine ⟨?_, hdeclared⟩
      exact (mem_scopeNames_addScope _ _ _).2
        (.inr (List.mem_append_left _ (mem_stores_of_assignment? hx)))
  | property hs hv =>
    exact absurd (hinit (index, s) (by simp [addStatement])) (not_isStraight_of_declaration hs hv)
  | event hs hv =>
    exact absurd (hinit (index, s) (by simp [addStatement])) (not_isStraight_of_declaration hs hv)

end ClassModel

/-- What a class body whose state statements are all straight comes to. -/
structure ClassModel.ReadsStraight (c : ClassModel) (body : Block) : Prop where
  storage : c.Storage (Stmt.functionNames body)
  initializer : c.initializer.map (·.2) = body.filter (·.assignment?.isSome)
  stored : ∀ s ∈ body, ∀ x, s.assignment? = some x →
    x.name ∈ c.scopeNames ∧ x.name ∈ c.fieldNames

namespace ClassTree

open ClassModel (Grows Storage)

theorem readBody_straight {defs : List String} (b : Block) :
    ∀ {t t' : ClassTree} {enums enums' : List String} {index : Nat},
      readBody t enums index b = .ok (t', enums') →
      (∀ p ∈ t'.cls.initializer, p.2.IsStraight) → Storage defs t.cls →
      (∀ n ∈ Stmt.functionNames b, n ∈ defs) →
      Storage defs t'.cls ∧
        t'.cls.initializer.map (·.2) =
          t.cls.initializer.map (·.2) ++ b.filter (·.assignment?.isSome) ∧
        ∀ s ∈ b, ∀ x, s.assignment? = some x →
          x.name ∈ t'.cls.scopeNames ∧ x.name ∈ t'.cls.fieldNames := by
  induction b with
  | nil =>
    intro t t' enums enums' index hr _ hstorage _
    cases hr
    exact ⟨hstorage, by simp, by simp⟩
  | cons s rest ih =>
    intro t t' enums enums' index hr hinit hstorage hdefs
    rw [← List.singleton_append, Stmt.functionNames, List.filterMap_append] at hdefs
    obtain ⟨hhead, htail⟩ := List.forall_mem_append.1 hdefs
    rcases readBody_cons_cases hr with ⟨-, c, hstep, -, hrest⟩ | ⟨h, body, n, later, rfl, -, hrest⟩
    · have hgrows := readBody_grows rest hrest
      obtain ⟨hc, hadded, hstored⟩ :=
        hstep.straight (fun p hp => hinit p (hgrows.initializer.subset hp)) hstorage hhead
      obtain ⟨ht', hall, hrestStored⟩ := ih hrest hinit hc htail
      refine ⟨ht', ?_, List.forall_mem_cons.2 ⟨fun x hx => ?_, hrestStored⟩⟩
      · rw [hall, hadded, List.append_assoc, ← List.filter_append, List.singleton_append]
      · exact ⟨hgrows.scopeNames _ (hstored x hx).1, hgrows.fieldNames _ (hstored x hx).2⟩
    · obtain ⟨ht', hall, hrestStored⟩ := ih hrest hinit (hstorage.addScope _) htail
      refine ⟨ht', ?_, List.forall_mem_cons.2 ⟨(fun _ hx => nomatch hx), hrestStored⟩⟩
      rw [hall]
      rfl

theorem read_straight {c : ClassModel} {nested : List ClassTree} {place : List Nat}
    {outer enums enums' : List String} {h : ClassHeader} {body : Block}
    (hr : read place outer enums h body = .ok (⟨c, nested⟩, enums')) (he : c.isEnum = false)
    (hinit : ∀ p ∈ c.initializer, p.2.IsStraight) : c.ReadsStraight body := by
  obtain ⟨params, -, ⟨-, -, hn⟩ | ⟨-, t, ht, hn⟩⟩ := read_cases hr
  · cases hn
    cases he
  · cases hn
    have hempty : Storage (Stmt.functionNames body) (ofHeader place outer h params).cls :=
      ⟨by simp [ofHeader, ClassModel.ofHeader],
        by simp [ofHeader, ClassModel.ofHeader, ClassModel.fieldNames], rfl,
        by simp [ofHeader, ClassModel.ofHeader]⟩
    obtain ⟨hstorage, hall, hstored⟩ := readBody_straight body ht hinit hempty fun _ hn => hn
    -- nothing is generated, so nothing is shadowed
    have hkept : t.cls.dropShadowed.fields = t.cls.fields :=
      List.filter_eq_self.2 fun f hf => by simp [(hstorage.plain f hf).1]
    refine ⟨hstorage.of_eq hkept rfl rfl, hall, fun s hs x hx => ?_⟩
    obtain ⟨hscope, hfield⟩ := hstored s hs x hx
    refine ⟨hscope, ?_⟩
    rw [ClassModel.fieldNames, hkept]
    exact hfield

end ClassTree

namespace ClassModel

namespace Storage

variable {c : ClassModel} {defs : List String}

theorem removeGenerated_eq {fs : List Field} (h : ∀ f ∈ fs, f.isGenerated = false)
    (name : String) : removeGenerated name fs = fs := by
  induction fs with
  | nil => rfl
  | cons f fs ih =>
    obtain ⟨hf, hfs⟩ := List.forall_mem_cons.1 h
    rw [removeGenerated, ih hfs, hf]
    simp

/-- All storage that is not opted out is reset. -/
theorem inventory_eq (h : Storage defs c) :
    c.inventory = c.fields.filter fun f => !optedOut f.markers := by
  have hfilter : c.fields.filter (fun f => f.isStatic && !optedOut f.markers) =
      c.fields.filter fun f => !optedOut f.markers :=
    List.filter_congr fun f hf => by rw [(h.plain f hf).2, Bool.true_and]
  have hplain : ∀ f ∈ c.fields.filter (fun f => !optedOut f.markers), f.isGenerated = false :=
    fun f hf => (h.plain f (List.mem_filter.1 hf).1).1
  unfold inventory
  rw [hfilter]
  induction c.retainedStorage with
  | nil => rfl
  | cons name names ih => rw [List.foldl_cons, removeGenerated_eq hplain, ih]

/-- What is retained is storage that is opted out of, or a function. -/
theorem opted_or_defined (h : Storage defs c) {n : String} (hn : c.retains n = true) :
    (∃ f ∈ c.fields, f.name = n ∧ optedOut f.markers = true) ∨ n ∈ defs := by
  rw [retains, List.contains_iff_mem, optedOutNames, List.mem_eraseDups, h.events] at hn
  rcases List.mem_append.1 hn with hn | hn
  · rcases List.mem_append.1 hn with hn | hn
    · obtain ⟨f, hf, hname⟩ := List.mem_map.1 hn
      obtain ⟨hf, hopted⟩ := List.mem_filter.1 hf
      simp only [Bool.and_eq_true] at hopted
      exact .inl ⟨f, hf, hname, hopted.2⟩
    · obtain ⟨p, hp, rfl⟩ := List.mem_map.1 hn
      exact .inr (h.properties p (List.mem_filter.1 hp).1)
  · simp at hn

/-- Storage is retained when it is opted out of, unless a function shares its name. -/
theorem retains_iff (h : Storage defs c) {f : Field} (hf : f ∈ c.fields) (hdef : f.name ∉ defs) :
    c.retains f.name = true ↔ optedOut f.markers = true := by
  constructor
  · intro hname
    rcases h.opted_or_defined hname with ⟨g, hg, hname, hopted⟩ | hname
    · rw [← List.inj_on_of_nodup_map h.nodup hg hf hname]
      exact hopted
    · exact absurd hname hdef
  · intro hopted
    rw [retains, List.contains_iff_mem, optedOutNames, List.mem_eraseDups]
    refine List.mem_append_left _ (List.mem_append_left _ (List.mem_map.2 ⟨f, ?_, rfl⟩))
    exact List.mem_filter.2 ⟨hf, by simp [(h.plain f hf).1, hopted]⟩

end Storage

end ClassModel

end StateWeave
