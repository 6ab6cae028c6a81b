import StateWeave.Proofs.Settings

/-! The place of a class tells it from the others of its module and nothing more. A class that stands
elsewhere is read alike, and it is refused, hooked and given units alike. -/

namespace StateWeave

open ClassModel (bind_eq_ok)

namespace ClassModel

variable (c : ClassModel) (p : List Nat)

/-- The class, had it been read somewhere else. -/
def moved : ClassModel :=
  { c with place := p }

theorem addField_moved (f : Field) : (c.moved p).addField f = (c.addField f).moved p := by
  have found : (c.moved p).findField? f.name = c.findField? f.name := rfl
  unfold addField
  rw [found]
  split
  · split_ifs <;> rfl
  · rfl

section Members

variable (name : String) (annot : Option Expr) (markers : List Marker)

theorem declareField_moved :
    (c.moved p).declareField name annot markers = (c.declareField name annot markers).moved p :=
  c.addField_moved p _

theorem addProperty_moved :
    (c.moved p).addProperty name annot markers = (c.addProperty name annot markers).moved p :=
  congrArg (addScope · [name]) (addField_moved { c with properties := _ } p _)

theorem addEvent_moved :
    (c.moved p).addEvent name annot markers = (c.addEvent name annot markers).moved p :=
  congrArg (addScope · [name]) (addField_moved { c with events := _ } p _)

end Members

theorem declareStored_moved (target : Option SingleTarget) (markers : List Marker)
    (name : String) :
    declareStored target markers (c.moved p) name = (declareStored target markers c name).moved p := by
  unfold declareStored
  split_ifs
  · exact c.declareField_moved p ..
  · exact c.declareField_moved p ..

theorem declareAll_moved (s : Stmt) (markers : List Marker) :
    (c.moved p).declareAll s markers = (c.declareAll s markers).moved p :=
  List.foldl_hom (moved · p) fun c name => c.declareStored_moved p _ markers name

theorem afterStores_moved (index : Nat) (s : Stmt) (markers : List Marker) :
    (c.moved p).afterStores index s markers = (c.afterStores index s markers).moved p := by
  rw [afterStores, declareAll_moved]
  rfl

theorem readStores_moved (index : Nat) (s : Stmt) :
    (c.moved p).readStores index s = (c.readStores index s).map (moved · p) := by
  rw [readStores_eq, readStores_eq]
  split_ifs
  · rfl
  · cases Annot.markersOf (s.singleTarget?.bind (·.annot)) with
    | error fault => rfl
    | ok markers => exact congrArg Except.ok (c.afterStores_moved p index s markers)

theorem readDeclared_moved (name : String) (annot : Option Expr) :
    (c.moved p).readDeclared name annot = (c.readDeclared name annot).map (moved · p) := by
  unfold readDeclared
  cases Annot.isClassVarOf annot with
  | error fault => rfl
  | ok isVar =>
    simp only [bind, Except.bind]
    split_ifs
    · cases Annot.markersOf annot with
      | error fault => rfl
      | ok markers =>
        exact congrArg (fun c => Except.ok (addScope c [name]))
          (c.declareField_moved p name annot markers)
    · rfl

theorem readState_moved (index : Nat) (s : Stmt) :
    (c.moved p).readState index s = (c.readState index s).map (moved · p) := by
  unfold readState
  split
  · exact c.readStores_moved p index s
  · exact c.readDeclared_moved p _ _
  · next name annot value _ =>
    split
    · exact c.readStores_moved p index s
    · cases Annot.markersOf annot with
      | error fault => rfl
      | ok markers =>
        exact congrArg (fun c => Except.ok (addStatement c index s))
          (c.addProperty_moved p name annot markers)
    · cases Annot.markersOf annot with
      | error fault => rfl
      | ok markers =>
        exact congrArg (fun c => Except.ok (addStatement c index s))
          (c.addEvent_moved p name annot markers)

/-- Reading a statement does not look at the place of the class. -/
theorem readOther_moved (index : Nat) (s : Stmt) :
    (c.moved p).readOther index s = (c.readOther index s).map (moved · p) := by
  unfold readOther
  split
  · rfl
  · rfl
  · split_ifs
    · rfl
    · exact c.readState_moved p index _

end ClassModel

/-- The same classes, nested in the same way, but some of them read elsewhere. -/
inductive Moved : List ClassTree → List ClassTree → Prop
  | nil : Moved [] []
  | cons {c : ClassModel} {nested nested' ts ts' : List ClassTree} (p : List Nat)
    (inside : Moved nested nested') (later : Moved ts ts') :
    Moved (⟨c, nested⟩ :: ts) (⟨c.moved p, nested'⟩ :: ts')

namespace Moved

variable {ts ts' us us' : List ClassTree}

theorem append (first : Moved ts ts') (second : Moved us us') : Moved (ts ++ us) (ts' ++ us') := by
  induction first with
  | nil => exact second
  | cons p inside _ _ ih => exact .cons p inside ih

/-- What does not depend on places holds of moved classes. -/
theorem forall_mem (moved : Moved ts ts') {P : ClassModel → Prop}
    (stays : ∀ c p, P c → P (c.moved p)) (holds : ∀ c ∈ ClassTree.preorderForest ts, P c) :
    ∀ c ∈ ClassTree.preorderForest ts', P c := by
  induction moved with
  | nil => exact holds
  | cons p _ _ ihInside ih =>
    simp only [ClassTree.preorderForest, ClassTree.preorder, List.cons_append,
      List.forall_mem_cons, List.forall_mem_append] at holds ⊢
    exact ⟨stays _ p holds.1, ihInside holds.2.1, ih holds.2.2⟩

theorem paths_eq (moved : Moved ts ts') {q : ClassModel → Bool} (stays : ∀ c p, q (c.moved p) = q c) :
    ((ClassTree.preorderForest ts').filter q).map (·.lexicalPath) =
      ((ClassTree.preorderForest ts).filter q).map (·.lexicalPath) := by
  induction moved with
  | nil => rfl
  | @cons c nested nested' ts ts' p _ _ ihInside ih =>
    have same : (c.moved p).lexicalPath = c.lexicalPath := rfl
    simp only [ClassTree.preorderForest, ClassTree.preorder, List.cons_append, List.filter_cons,
      List.filter_append, stays]
    split_ifs <;> simp [ihInside, ih, same]

theorem ofForest_eq (moved : Moved ts ts') {added : ClassModel → Block}
    (stays : ∀ c p, added (c.moved p) = added c) :
    Hook.ofForest added ts' = Hook.ofForest added ts := by
  induction moved with
  | nil => rfl
  | @cons c nested nested' ts ts' p _ _ ihInside ih =>
    rw [Hook.ofForest, Hook.ofForest, Hook.ofTree, Hook.ofTree, ihInside, ih, stays]
    rfl

end Moved

namespace ClassTree

/-- A body is read alike wherever the class stands. -/
def Portable (b : Block) : Prop :=
  ∀ ⦃c d : ClassModel⦄ ⦃nested nested' later : List ClassTree⦄ ⦃enums enums' : List String⦄
    ⦃index : Nat⦄ (p : List Nat), Moved nested nested' →
    readBody ⟨c, nested⟩ enums index b = .ok (⟨d, later⟩, enums') →
    ∃ later', readBody ⟨c.moved p, nested'⟩ enums index b = .ok (⟨d.moved p, later'⟩, enums') ∧
      Moved later later'

theorem Portable.read {b : Block} (body : Portable b) {place outer : _} {enums enums' : List String}
    {h : ClassHeader} {n : ClassTree} (place' : List Nat)
    (hr : ClassTree.read place outer enums h b = .ok (n, enums')) :
    ∃ nested', ClassTree.read place' outer enums h b = .ok (⟨n.cls.moved place', nested'⟩, enums') ∧
      Moved n.nested nested' := by
  obtain ⟨params, declared, ⟨isEnum, rfl, rfl⟩ | ⟨isEnum, ⟨d, later⟩, inside, rfl⟩⟩ := read_cases hr
  · refine ⟨[], ?_, .nil⟩
    rw [ClassTree.read, readWith, declared]
    simp only [bind, Except.bind, if_pos isEnum]
    rfl
  · obtain ⟨later', inside', moved⟩ := body place' .nil inside
    refine ⟨later', ?_, moved⟩
    rw [ClassTree.read, readWith, declared]
    have inside' : readBody (ofHeader place' outer h params) enums 0 b = _ := inside'
    simp only [bind, Except.bind, if_neg (show ¬h.isEnum enums = true by simp [isEnum]), inside']
    rfl

theorem portable (b : Block) : Portable b := by
  induction b using block_induction with
  | nil =>
    intro c d nested nested' later enums enums' index p moved hr
    cases hr
    exact ⟨nested', rfl, moved⟩
  | other s rest hs ih =>
    intro c d nested nested' later enums enums' index p moved hr
    rw [readBody_cons, readStmt_other _ _ _ hs] at hr ⊢
    rw [c.readOther_moved p]
    cases read : c.readOther index s with
    | error fault =>
      rw [read] at hr
      cases hr
    | ok c' =>
      rw [read] at hr
      exact ih p moved hr
  | cls h body rest ihBody ih =>
    intro c d nested nested' later enums enums' index p moved hr
    rw [readBody_cons, readStmt_class] at hr ⊢
    obtain ⟨⟨t, enums''⟩, hs, hrest⟩ := bind_eq_ok.1 hr
    obtain ⟨⟨⟨n, inner⟩, _⟩, hn, he⟩ := bind_eq_ok.1 hs
    cases he
    obtain ⟨inner', hn', inside⟩ := ihBody.read (p ++ [nested'.length]) hn
    obtain ⟨later', hrest', moved'⟩ :=
      ih (c := c.addScope [n.name]) p (moved.append (.cons _ inside .nil)) hrest
    refine ⟨later', ?_, moved'⟩
    have hn' : ClassTree.read ((c.moved p).place ++ [nested'.length]) (c.moved p).path enums h body =
      _ := hn'
    rw [hn']
    exact hrest'

end ClassTree

/-- The classes of a block are the same from whichever number on they are counted. -/
theorem ModuleModel.readClasses_moved (b : Block) :
    ∀ {enums : List String} {place : Nat} {ts : List ClassTree} (place' : Nat),
      readClasses enums place b = .ok ts →
      ∃ ts', readClasses enums place' b = .ok ts' ∧ Moved ts ts' := by
  induction b with
  | nil =>
    intro enums place ts place' hr
    cases hr
    exact ⟨[], rfl, .nil⟩
  | cons s rest ih =>
    intro enums place ts place' hr
    cases hs : s.isClass with
    | false =>
      rw [readClasses_other _ _ _ hs] at hr ⊢
      exact ih place' hr
    | true =>
      obtain ⟨h, body, rfl⟩ := s.eq_classDef hs
      rw [readClasses_class] at hr ⊢
      obtain ⟨⟨⟨n, nested⟩, enums'⟩, hn, hr⟩ := bind_eq_ok.1 hr
      obtain ⟨us, hus, he⟩ := bind_eq_ok.1 hr
      cases he
      obtain ⟨nested', hn', inside⟩ := (ClassTree.portable body).read [place'] hn
      obtain ⟨us', hus', later⟩ := ih (place' + 1) hus
      rw [hn']
      refine ⟨⟨n.moved [place'], nested'⟩ :: us', ?_, .cons _ inside later⟩
      simp only [bind, Except.bind, hus']

/-! ### What moved classes are given -/

namespace ReloadUnit

variable {zeros : ZeroTable}

/-- The zero values of fields, by name. -/
def zeroed (zeros : ZeroTable) : List Field → Except Fault (List (String × Constant))
  | [] => .ok []
  | f :: fs => do
    let zero ← zeros.valueFor f.annot
    return (f.name, zero) :: (← zeroed zeros fs)

def resetTo (c : ClassModel) (field : String × Constant) : Instruction :=
  .reset ⟨field.1, .plain c⟩ field.2

theorem resetsFor_eq (c : ClassModel) (fs : List Field) :
    resetsFor zeros c fs = (zeroed zeros fs).map (·.map (resetTo c)) := by
  induction fs with
  | nil => rfl
  | cons f fs ih =>
    rw [resetsFor, zeroed, ih]
    cases zeros.valueFor f.annot with
    | error fault => rfl
    | ok zero => cases zeroed zeros fs <;> rfl

/-- Resets know the class they are for, but this does not show once they are written. -/
theorem written_resetTo (owner : Expr) (c d : ClassModel) (fields : List (String × Constant)) :
    (fields.map (resetTo c)).map (Instruction.written owner) =
      (fields.map (resetTo d)).map (Instruction.written owner) := by
  rw [List.map_map, List.map_map]
  rfl

end ReloadUnit

namespace Weave

open ReloadUnit

variable (c : ClassModel) (p : List Nat)

theorem unloadBody_moved : unloadBody (c.moved p) = unloadBody c := by
  unfold unloadBody
  rw [List.map_map, List.map_map]
  rfl

theorem loadBody_moved (fields : List (String × Constant)) :
    loadBody (c.moved p) (fields.map (resetTo (c.moved p))) =
      loadBody c (fields.map (resetTo c)) := by
  have sameInit : (c.moved p).initializer = c.initializer := rfl
  have copied : (((copy? (c.moved p)).map fun u => Instruction.call u.ref).toList).map
      (Instruction.written c.ownerExpr) =
        (((copy? c).map fun u => Instruction.call u.ref).toList).map
          (Instruction.written c.ownerExpr) := by
    unfold copy?
    rw [sameInit]
    split_ifs <;> rfl
  unfold loadBody
  rw [List.map_append, List.map_append, ← copied, written_resetTo c.ownerExpr c (c.moved p)]
  rfl

theorem hookWith_moved (runtimeAlias : String) (fields : List (String × Constant)) :
    hookWith runtimeAlias (c.moved p) (fields.map (resetTo (c.moved p))) =
      hookWith runtimeAlias c (fields.map (resetTo c)) := by
  rw [hookWith_eq, hookWith_eq, unloadBody_moved, loadBody_moved]
  rfl

/-- A class is refused or given its units whatever its place. -/
theorem appended_moved (zeros : ZeroTable) (runtimeAlias : String) :
    appended zeros runtimeAlias (c.moved p) = appended zeros runtimeAlias c := by
  have analysed : (c.moved p).analysisFault? = c.analysisFault? := rfl
  have eligible : (c.moved p).analysis.eligible = c.analysis.eligible := rfl
  have inventory : (c.moved p).inventory = c.inventory := rfl
  have unresolved : (c.moved p).unresolvedParameters = c.unresolvedParameters := rfl
  have path : (c.moved p).lexicalPath = c.lexicalPath := rfl
  rw [appended_eq, appended_eq, analysed, eligible, inventory, resetsFor_eq, resetsFor_eq,
    ClassModel.qualified_eq, ClassModel.qualified_eq, unresolved, path]
  cases zeroed zeros c.inventory with
  | error fault => rfl
  | ok fields =>
    have hooks := hookWith_moved c p runtimeAlias fields
    by_cases settled : c.unresolvedParameters.isEmpty = true
    · simp only [Except.map, bind, Except.bind, settled, if_true, hooks]
    · simp only [Except.map, bind, Except.bind, settled, Bool.false_eq_true, if_false]

end Weave

end StateWeave
