import StateWeave.Import.Target
import StateWeave.Proofs.Naming
import StateWeave.Proofs.OwnerPath
import StateWeave.Proofs.Refusal
import StateWeave.Proofs.Reset
import StateWeave.Proofs.Retained

/-! The attribute that a field is stored under. Reading a class works it out, compiling the units of
the class mangles it once more, the copy spells it out in text, and a static property makes up one
of its own when it is told its name. All of them come to the same attribute. -/

namespace StateWeave

/-! ### Names that are mangled already -/

theorem isPrivate_prefixed {st : List Char} {name : String} (nonempty : st ≠ [])
    (stripped : st.head? ≠ some '_') : isPrivate (prefixed st name) = false := by
  have opens : opensPrivate (prefixed st name) = false := by
    unfold opensPrivate
    rw [toList_prefixed]
    cases st with
    | nil => exact absurd rfl nonempty
    | cons a st =>
      have other : '_' ≠ a := fun same => stripped (by rw [List.head?_cons, same])
      simp [List.isPrefixOf, other]
  simp [isPrivate, opens]

theorem mangle_mangle (cls name : String) : mangle cls (mangle cls name) = mangle cls name := by
  rw [mangle_eq cls name]
  split_ifs with hidden
  · rw [mangle_eq]
    split_ifs with again
    · -- a class name of underscores alone leaves nothing to put in front
      by_cases bare : stem cls = []
      · rw [bare]
        rfl
      · have stripped : (stem cls).head? ≠ some '_' := by
          intro head
          have kept := List.head?_dropWhile_not (· == '_') cls.toList
          rw [show cls.toList.dropWhile (· == '_') = stem cls from rfl, head] at kept
          cases kept
        rw [isPrivate_prefixed bare stripped] at again
        cases again
    · rfl
  · rw [mangle_eq, if_neg hidden]

/-- The attribute behind a property ends like a reserved name, so no class mangles it. -/
theorem mangle_backingName (cls property : String) :
    mangle cls (backingName property) = backingName property := by
  have closes : closesReserved (backingName property) = true := by
    unfold closesReserved backingName
    rw [String.toList_append, List.isSuffixOf_iff_suffix]
    exact List.IsSuffix.trans (by decide) (List.suffix_append ..)
  rw [mangle_eq, isPrivate, closes]
  simp

/-! ### Fields -/

/-- Whether a statement declares a static property of this name. -/
def Stmt.DeclaresProperty (s : Stmt) (name : String) : Prop :=
  ∃ annot value, s.singleTarget? = some ⟨name, annot, some value⟩ ∧
    Declaration.ofExpr? value = some .property

namespace ClassModel

variable {c c' : ClassModel} {index : Nat} {s : Stmt}

/-- Behind every property that a state statement declares there is storage. -/
def Backed (c : ClassModel) : Prop :=
  ∀ p ∈ c.initializer, ∀ name, p.2.DeclaresProperty name →
    backingName (mangle c.name name) ∈ c.fieldNames ∧ name ∈ c.scopeNames

theorem mem_fieldNames_addProperty (c : ClassModel) (name : String) (annot : Option Expr)
    (markers : List Marker) :
    backingName (mangle c.name name) ∈ (c.addProperty name annot markers).fieldNames :=
  (mem_fieldNames_addField _ (.behindProperty c.name name annot)).1

theorem Backed.step (h : c.Backed) (hs : ReadStep c index s c') : c'.Backed := by
  intro p mem name declares
  have earlier (before : p ∈ c.initializer) :
      backingName (mangle c'.name name) ∈ c'.fieldNames ∧ name ∈ c'.scopeNames := by
    obtain ⟨field, scope⟩ := h p before name declares
    rw [name_of_bare hs.bare_eq]
    exact ⟨hs.grows.fieldNames _ field, hs.grows.scopeNames _ scope⟩
  rcases hs.mem_initializer p mem with before | last
  · exact earlier before
  obtain ⟨annot, value, target, property⟩ := last ▸ declares
  cases hs with
  | function | imports | idle | annotated | dunders => exact earlier mem
  | declare => exact earlier (initializer_addField c _ ▸ mem)
  | stores other =>
    obtain ⟨_, same, plain⟩ := other _ target
    rw [← Option.some.inj same, property] at plain
    cases plain
  | property target' =>
    cases target.symm.trans target'
    rw [name_of_bare (c := c) (by simp)]
    exact ⟨c.mem_fieldNames_addProperty .., (mem_scopeNames_addScope _ _ _).2 (.inr (.head _))⟩
  | event target' event =>
    cases target.symm.trans target'
    cases property.symm.trans event

/-- Dropping shadowed storage drops no name. -/
theorem mem_fieldNames_dropShadowed {n : String} (mem : n ∈ c.fieldNames) :
    n ∈ c.dropShadowed.fieldNames := by
  obtain ⟨f, field, rfl⟩ := List.mem_map.1 mem
  by_cases shadowed : ∃ g ∈ c.fields, g.isGenerated = false ∧ g.name = f.name
  · obtain ⟨g, mem', declared, same⟩ := shadowed
    exact List.mem_map.2 ⟨g, List.mem_filter.2 ⟨mem', by simp [declared]⟩, same⟩
  · refine List.mem_map.2 ⟨f, List.mem_filter.2 ⟨field, ?_⟩, rfl⟩
    have alone : ∀ g ∈ c.fields, g.isGenerated = false → g.name ≠ f.name :=
      fun g mem' declared same => shadowed ⟨g, mem', declared, same⟩
    simpa using .inr alone

theorem backed_kept : Kept Backed where
  header _ _ _ _ := nofun
  enum _ _ _ _ := nofun
  step := Backed.step
  nested _ h p mem n declares :=
    ⟨(h p mem n declares).1, (mem_scopeNames_addScope _ _ _).2 (.inl (h p mem n declares).2)⟩
  finish h p mem n declares :=
    ⟨mem_fieldNames_dropShadowed (h p mem n declares).1, (h p mem n declares).2⟩

end ClassModel

namespace ClassTree

variable {t : ClassTree} {place : List Nat} {outer enums enums' : List String} {h : ClassHeader}
  {body : Block} {f : Field}

/-- A field is stored under its mangled name. -/
theorem mangle_name (hr : read place outer enums h body = .ok (t, enums')) :
    ∀ f ∈ t.cls.fields, mangle t.cls.name f.name = f.runtimeName := by
  intro f hf
  obtain ⟨d, hd, es, -, rfl⟩ := exists_declaration hr hf
  rw [Field.name_merged, Field.runtimeName_merged, name_read hr]
  unfold ClassHeader.declarations at hd
  split_ifs at hd
  · cases hd
  · obtain ⟨s, -, hd⟩ := List.mem_flatMap.1 hd
    rcases cases_of_mem_storage hd with ⟨name, annot, rfl⟩ | ⟨name, annot, rfl⟩ | ⟨name, annot, rfl⟩
    · rfl
    · exact mangle_backingName _ _
    · rfl

end ClassTree

/-! ### Writes to the class -/

/-- What an assignment to one target stores to, once it is compiled in the body of a class. -/
def Stmt.compiledTarget? (cls : String) : Stmt → Option Expr
  | .assign [target] _ => some (target.compiledIn cls)
  | _ => none

/-- The attribute that a write of a copy is about, once the copy is compiled in the body of a class.
What goes through the runtime is named in text, which is not mangled. -/
def OwnerWrite.attributeIn (cls : String) : OwnerWrite → String
  | .static attr => attr
  | .attribute attr _ => mangle cls attr

section Writes

variable {c : ClassModel} {x : Stmt} {u : ReloadUnit} {name runtimeAlias : String}

theorem filterMap_orPass {α : Type} {f : Stmt → Option α} (pass : f .pass = none) (b : Block) :
    (orPass b).filterMap f = b.filterMap f := by
  cases b with
  | nil => simp [orPass, pass]
  | cons => rfl

theorem compiledTarget?_resets (owner : Expr) {zeros : ZeroTable} {fs : List Field}
    {resets : List Instruction} (h : ReloadUnit.resetsFor zeros c fs = .ok resets) :
    (resets.map (Instruction.written owner)).filterMap (Stmt.compiledTarget? c.name) =
      fs.map fun f => .attribute (owner.compiledIn c.name) (mangle c.name f.name) .store := by
  induction fs generalizing resets with
  | nil =>
    cases h
    rfl
  | cons f fs ih =>
    obtain ⟨zero, -, h⟩ := ClassModel.bind_eq_ok.1 h
    obtain ⟨rest, later, h⟩ := ClassModel.bind_eq_ok.1 h
    cases h
    have first : Stmt.compiledTarget? c.name
        ((Instruction.reset ⟨f.name, .plain c⟩ zero).written owner) =
          some (.attribute (owner.compiledIn c.name) (mangle c.name f.name) .store) := rfl
    rw [List.map_cons, List.filterMap_cons_some first, ih later]
    rfl

/-- The load unit, compiled, resets the attributes that its fields are mangled to. -/
theorem compiledTarget?_load {zeros : ZeroTable} {fs : List Field} {records later : List LogRecord}
    (loaded : ReloadUnit.load? zeros c fs (ReloadUnit.copy? c) records = (.ok (some u), later))
    (rendered : (u.qualify >>= (·.render runtimeAlias)) = .ok x) :
    ∃ header body, x = .functionDef header body ∧
      body.filterMap (Stmt.compiledTarget? c.name) = fs.map fun f =>
        .attribute (c.ownerExpr.compiledIn c.name) (mangle c.name f.name) .store := by
  have settled := ReloadUnit.load?_settles zeros c fs (ReloadUnit.copy? c) records
  rw [loaded] at settled
  obtain ⟨resets, listed, made⟩ := ClassModel.bind_eq_ok.1 settled.symm
  have unit := Except.ok.inj made
  obtain ⟨home, isLocal⟩ := Weave.loadWith_local (Weave.resetsFor_within listed) unit
  rw [ReloadUnit.render_of_local isLocal] at rendered
  split_ifs at rendered
  refine ⟨_, _, (Except.ok.inj rendered).symm, ?_⟩
  have body : u.body = .instructions
      (resets ++ ((ReloadUnit.copy? c).map fun u => Instruction.call u.ref).toList) := by
    unfold ReloadUnit.loadWith at unit
    split_ifs at unit
    cases unit
    rfl
  have calls : (((ReloadUnit.copy? c).map fun u => Instruction.call u.ref).toList.map
      (Instruction.written c.ownerExpr)).filterMap (Stmt.compiledTarget? c.name) = [] := by
    cases ReloadUnit.copy? c <;> rfl
  rw [filterMap_orPass rfl, ReloadUnit.writtenBody, body, home]
  dsimp only
  rw [List.map_append, List.filterMap_append, compiledTarget?_resets _ listed, calls,
    List.append_nil]

/-- A change of a name writes to the attribute that the name is mangled to. -/
theorem attributeIn_of_becomes {s : ClassScope} {change : Change} {w : OwnerWrite}
    (about : change.effect.name? = some name) (becomes : s.becomes change = some w) :
    w.attributeIn s.className = mangle s.className name := by
  rw [ClassScope.becomes_of_name? about] at becomes
  split_ifs at becomes
  obtain ⟨effect, place⟩ := change
  cases effect with
  | spelled e => cases about
  | captured name => cases becomes
  | _ =>
    obtain rfl := Option.some.inj about
    simp only [ClassScope.writeFor, Option.ite_none_right_eq_some, Option.some.injEq] at becomes
    obtain ⟨-, rfl⟩ := becomes
    rfl

/-- The declaration of a property is one store to its name, -/
theorem Stmt.DeclaresProperty.mem_changes (declares : x.DeclaresProperty name) :
    ⟨.sole name, .assigned name⟩ ∈ x.changes := by
  obtain ⟨annot, value, target, -⟩ := declares
  unfold Stmt.singleTarget? at target
  split at target <;> cases target
  · exact List.mem_append_left _ (.head _)
  · exact List.mem_append_left _ (.head _)

/-- which goes through the runtime when the declaration is copied. -/
theorem Stmt.DeclaresProperty.mem_writes (declares : x.DeclaresProperty name)
    (grounded : (c.copyScope runtimeAlias).Grounded) (scope : name ∈ c.scopeNames)
    (stays : c.retains name = false) :
    .static (mangle c.name name) ∈ (c.copyScope runtimeAlias).writes (c.copyOf runtimeAlias x) := by
  have stores : (c.copyScope runtimeAlias).stores name = true :=
    Bool.and_eq_true_iff.2 ⟨List.contains_iff_mem.2 scope, congrArg not stays⟩
  rw [ClassModel.copyOf, ClassScope.writes_filled_rewriteStmt grounded]
  refine List.mem_filterMap.2 ⟨_, declares.mem_changes, ?_⟩
  have kept : (c.copyScope runtimeAlias).drops (.assigned name) = false := stays
  rw [ClassScope.becomes_of_stores rfl stores, kept]
  rfl

end Writes

/-! ### One attribute for each field -/

namespace Imports

/-- Code that runs in the body of the class `cls` binds the name `id` as `attr`, unless that is handed
to the module. -/
def StoresAs (cls id attr : String) : Prop :=
  ∀ {r : Interpreter} {p : Place} {x : Thing} {ctx : Ctx} {s : Site RegisteredUnit Imports},
    p.cls = some cls → p.isTop = false →
    (s.rest.frames.headD default).globals.contains attr = false →
    store r p x (.name id ctx) s = (.ok (), { s with rest := { s.rest with
      frames := s.rest.frames.modify 0 fun f => { f with names := f.names.insert attr x } } })

theorem storesAs_mangle (cls id : String) : StoresAs cls id (mangle cls id) := by
  intro r p x ctx s inside body own
  have key : p.key id = mangle cls id := by
    rw [Place.key, inside]
    rfl
  have isGlobal : p.isGlobal (mangle cls id) s = (.ok false, s) := by
    have joined : p.isGlobal (mangle cls id) s =
        (.ok (p.isTop || (s.rest.frames.headD default).globals.contains (mangle cls id)), s) := rfl
    rw [joined, body, own]
    rfl
  rw [store, Place.bind, key, Act.bind_apply, isGlobal]
  rfl

end Imports

namespace World

/-- When a class is made whose body has bound `attr` to a property, the first value of the property
is stored under `backing`, before any ancestor hears of the class. -/
def CreationBacks (attr backing : String) : Prop :=
  ∀ {run : Runner} {running : Option Value} {fail : ClassFault → Failure} {x : ClassObject} {c : Nat}
    {w w' : World}, makeClass run running fail x w = (.ok c, w') → x.own.keys.Nodup →
    (∀ e ∈ x.own.entries, ∀ p, e.2 = .ref (.property p) →
      p < w.rest.hierarchy.properties.length) →
    (∀ e ∈ x.own.entries, ∀ i, e.2 = .ref (.initializer i) → i < w.rest.initializers.length) →
    ∃ w₁ w₂ : World, (∃ bases layout, (w₁.rest.hierarchy.classAt c).own =
        settledNamespace c { x with bases := bases } layout) ∧
      tellAncestors run running c w₂ = (.ok (), w') ∧
      ∀ p, w₁.rest.hierarchy.own? c attr = some (.ref (.property p)) →
        w₂.rest.hierarchy.own? c backing = some (w.rest.hierarchy.propertyAt p).value

/-- When a class takes a property under `attr` again, it stores the first value of the property under
`backing`, which is the attribute that the property goes by from then on. -/
def StoringBacks (attr backing : String) : Prop :=
  ∀ {c p : Nat} {w w₁ : World}, w.Ready c (.ref (.property p)) →
    writeTo (Value.ofClass c) attr (.ref (.property p)) w = (.ok (), w₁) →
    ∃ w', storeStatic (Value.ofClass c) attr (.ref (.property p)) w = (.ok (), w') ∧
      (w'.rest.hierarchy.propertyAt p).backing? = some backing ∧
      w'.rest.hierarchy.own? c backing = some (w.rest.hierarchy.propertyAt p).value

end World

/-- Everything that deals with the storage of a class means the same attribute by a field. -/
structure ClassModel.OneAttribute (c : ClassModel) (runtimeAlias : String) : Prop where
  /-- That attribute is the mangled name of the field, -/
  mangled : ∀ f ∈ c.fields, mangle c.name f.name = f.runtimeName
  /-- under which the body of the class binds the name. -/
  bound : ∀ f ∈ c.fields, Imports.StoresAs c.name f.name f.runtimeName
  /-- The load unit, compiled in the class, resets it for every field of the inventory. -/
  reset : ∀ {zeros : ZeroTable} {records later : List LogRecord} {u : ReloadUnit} {x : Stmt},
    ReloadUnit.load? zeros c c.inventory (ReloadUnit.copy? c) records = (.ok (some u), later) →
    (u.qualify >>= (·.render runtimeAlias)) = .ok x → ∃ header body, x = .functionDef header body ∧
      body.filterMap (Stmt.compiledTarget? c.name) = c.inventory.map fun f =>
        .attribute (c.ownerExpr.compiledIn c.name) f.runtimeName .store
  /-- The copy of the initializer writes what changes of the state statements become, -/
  copied : ∀ {u v : ReloadUnit} {x : Stmt}, u ∈ ReloadUnit.copy? c → u.qualify = .ok v →
    v.render runtimeAlias = .ok x → ∃ header body, x = .functionDef header body ∧
      (c.copyScope runtimeAlias).writes body =
        c.stateChanges.filterMap (c.copyScope runtimeAlias).becomes
  /-- and a change of a field becomes a write to it. -/
  restored : ∀ change ∈ c.stateChanges, ∀ f ∈ c.fields, change.effect.name? = some f.name →
    ∀ w, (c.copyScope runtimeAlias).becomes change = some w → w.attributeIn c.name = f.runtimeName
  /-- A property has a field whose attribute is the one behind the property when the class is made
  from what its body has bound, and when the copy stores the property again, which it does unless
  that is opted out. -/
  properties : ∀ p ∈ c.initializer, ∀ name, p.2.DeclaresProperty name →
    ∃ f ∈ c.fields, f.name = backingName (mangle c.name name) ∧
      Imports.StoresAs c.name name (mangle c.name name) ∧
      World.CreationBacks (mangle c.name name) f.runtimeName ∧
      (c.retains name = false → .static (mangle c.name name) ∈
        (c.copyScope runtimeAlias).writes (c.copyOf runtimeAlias p.2)) ∧
      World.StoringBacks (mangle c.name name) f.runtimeName

section Module

variable {name : String} {tree : Block} {m : ModuleModel} {c : ClassModel}

/-- A class that has been read, compiled and loaded stores each field under one attribute. Names that
are mangled already are left alone, and so are the attributes behind properties. -/
theorem one_attribute (hread : ModuleModel.read name tree = .ok m) (hc : c ∈ m.allClasses)
    (runtimeAlias : String) :
    c.OneAttribute runtimeAlias ∧
      (∀ cls id, mangle cls (mangle cls id) = mangle cls id) ∧
      ∀ cls property, mangle cls (backingName property) = backingName property := by
  have mangled : ∀ f ∈ c.fields, mangle c.name f.name = f.runtimeName :=
    ModuleModel.read_each (P := fun c => ∀ f ∈ c.fields, mangle c.name f.name = f.runtimeName)
      ClassTree.mangle_name hread c hc
  have backed : c.Backed := ModuleModel.read_kept ClassModel.backed_kept hread c hc
  have grounded := (ModuleModel.read_kept ClassModel.named_kept hread c hc).grounded runtimeAlias
  refine ⟨⟨mangled, ?_, ?_, ?_, ?_, ?_⟩, mangle_mangle, mangle_backingName⟩
  · intro f field
    rw [← mangled f field]
    exact Imports.storesAs_mangle c.name f.name
  · intro zeros records later u x loaded rendered
    obtain ⟨header, body, function, targets⟩ := compiledTarget?_load loaded rendered
    refine ⟨header, body, function, targets.trans (List.map_congr_left fun f mem => ?_)⟩
    rw [mangled f (c.inventory_subset f mem)]
  · intro u v x copied qualified rendered
    exact ⟨_, _, ReloadUnit.render_copy copied qualified rendered,
      ClassScope.writes_filled_rewriteBlock grounded _⟩
  · intro change _ f field about w becomes
    rw [← mangled f field]
    exact attributeIn_of_becomes about becomes
  · intro p mem name declares
    obtain ⟨field, scope⟩ := backed p mem name declares
    obtain ⟨f, field, same⟩ := List.mem_map.1 field
    have behind : f.runtimeName = backingName (mangle c.name name) := by
      rw [← mangled f field, same, mangle_backingName]
    refine ⟨f, field, same, Imports.storesAs_mangle c.name name, ?_,
      declares.mem_writes grounded scope, ?_⟩
    · rw [behind]
      intro run running fail x c w w' made distinct properties initializers
      obtain ⟨w₁, w₂, settled, told, backs⟩ :=
        World.makeClass_backs made distinct properties initializers
      exact ⟨w₁, w₂, settled, told, fun p => backs _ p⟩
    · rw [behind]
      exact World.storeStatic_property

/-- A class with a private name, of private storage and a private property. -/
def privateMeter : Block :=
  [.classDef ⟨"_Meter", [], [], [], []⟩
    [.assign [.name "__level" .store] (.constant (.int 1)),
      .assign [.name "__rate" .store]
        (.call (.name "static_property" .load) [.constant (.int 0)] [])]]

/-- The name of the class goes into its private names without the underscore. -/
theorem one_attribute_privateMeter :
    ∃ m c, ModuleModel.read "app" privateMeter = .ok m ∧ c ∈ m.allClasses ∧
      c.OneAttribute "__typereload__" ∧
      c.fields.map (·.runtimeName) = ["_Meter__level", "_Meter__rate__backing__"] := by
  have hmem : ∀ m, ModuleModel.read "app" privateMeter = .ok m → ∃ c ∈ m.allClasses,
      c.fields.map (·.runtimeName) = ["_Meter__level", "_Meter__rate__backing__"] := by
    rintro _ ⟨⟩
    simp only [ModuleModel.allClasses_eq]
    exact ⟨_, .head _, by decide +kernel⟩
  obtain ⟨m, hread⟩ : ∃ m, ModuleModel.read "app" privateMeter = .ok m := ⟨_, rfl⟩
  obtain ⟨c, hc, names⟩ := hmem m hread
  exact ⟨m, c, hread, hc, (one_attribute hread hc "__typereload__").1, names⟩

end Module

end StateWeave
