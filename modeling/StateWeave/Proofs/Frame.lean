import StateWeave.Proofs.Grafting
import StateWeave.Proofs.StaticStore

/-! What weaving changes. A module without classes that take part is left as it is. Any other gains
the import of the runtime and, at the end of the body of each class that takes part, the units of
that class and their registration. -/

namespace StateWeave

namespace ClassModel

/-- Whether the class is given a copy of its initializer. -/
def hasCopy (c : ClassModel) : Bool :=
  !c.initializer.isEmpty

def hasUnload (c : ClassModel) : Bool :=
  !c.callbacks.isEmpty

def hasLoad (c : ClassModel) : Bool :=
  !c.inventory.isEmpty || c.hasCopy

end ClassModel

namespace Weave

open ReloadUnit ClassScope

/-- One item when it is wanted, none otherwise. -/
def oneIf {α : Type} (wanted : Bool) (a : α) : List α :=
  if wanted then [a] else []

def unitFunction (runtimeAlias : String) (c : ClassModel) (name : String) (body : Block) : Stmt :=
  .functionDef (c.unitHeader runtimeAlias name) body

/-- The registration names exactly the units that there are. -/
def registrationOf (runtimeAlias : String) (c : ClassModel) : Stmt :=
  .assign [.name registrationName .store]
    (.call (.attribute (.name runtimeAlias .load) "TypeInitializer" .load)
      [.name "__module__" .load]
      (oneIf c.hasUnload ⟨some "unload", .name "__typereload_unload" .load⟩
        ++ oneIf c.hasLoad ⟨some "load", .name "__typereload_load" .load⟩
        ++ [⟨some "generic", .constant (.bool c.isGeneric)⟩]))

/-- The statements of a class that takes part: a copy of its initializer if it has one, the unit for
unloading if it has callbacks, the unit for loading if it has storage to reset or a copy, and the
registration. All of them reach the runtime by its alias. -/
def IsHook (runtimeAlias : String) (c : ClassModel) (b : Block) : Prop :=
  ∃ copied unload load : Block,
    b = oneIf c.hasCopy (unitFunction runtimeAlias c "__typereload_init_copy" copied)
        ++ oneIf c.hasUnload (unitFunction runtimeAlias c "__typereload_unload" unload)
        ++ oneIf c.hasLoad (unitFunction runtimeAlias c "__typereload_load" load)
        ++ [registrationOf runtimeAlias c] ∧
      Stores runtimeAlias (Stmt.calleesBlock copied)
        (Stmt.calleesBlock (c.initializer.map (·.2))) ∧
      ∀ f ∈ Stmt.calleesBlock (unload ++ load), ∃ name, f = .attribute c.ownerExpr name .load

/-- Statements that call members of the class that `owner` names. -/
theorem callees_written (owner : Expr) (howner : owner.callees = []) (list : List Instruction) :
    ∀ f ∈ Stmt.calleesBlock (list.map (Instruction.written owner)),
      ∃ name, f = .attribute owner name .load := by
  induction list with
  | nil => simp [Stmt.calleesBlock]
  | cons i list ih =>
    rw [List.map_cons, Stmt.calleesBlock, List.forall_mem_append]
    refine ⟨?_, ih⟩
    cases i with
    | reset target zero =>
      simp [Instruction.written, Stmt.callees, Expr.calleesList, Expr.callees, howner]
    | call method =>
      simp [Instruction.written, Stmt.callees, Expr.calleesList, Expr.calleesKeywords,
        Expr.callees, howner]
    | invalid text => simp [Instruction.written, Stmt.callees]

/-- The state statements of a class, rewritten to run in a function. -/
def copiedBody (runtimeAlias : String) (c : ClassModel) : Block :=
  orPass (filledBlock ((c.copyScope runtimeAlias).rewriteBlock (c.initializer.map (·.2))))

/-- The calls of the callbacks. -/
def unloadBody (c : ClassModel) : Block :=
  orPass ((c.callbacks.map fun cb => Instruction.call ⟨cb.method.name, .plain c⟩).map
    (Instruction.written c.ownerExpr))

/-- The resets, followed by the call of the copy. -/
def loadBody (c : ClassModel) (resets : List Instruction) : Block :=
  orPass ((resets ++ ((copy? c).map fun u => Instruction.call u.ref).toList).map
    (Instruction.written c.ownerExpr))

theorem copy?_written (runtimeAlias : String) (c : ClassModel) :
    (copy? c).toList.map (·.written runtimeAlias) =
      oneIf c.hasCopy (unitFunction runtimeAlias c initCopyName (copiedBody runtimeAlias c)) := by
  unfold copy? ClassModel.hasCopy oneIf
  cases c.initializer.isEmpty <;> rfl

theorem unload?_written (runtimeAlias : String) (c : ClassModel) :
    (unload? c c.callbacks).toList.map (·.written runtimeAlias) =
      oneIf c.hasUnload (unitFunction runtimeAlias c unloadName (unloadBody c)) := by
  unfold unload? ClassModel.hasUnload oneIf
  cases c.callbacks.isEmpty <;> rfl

theorem loadWith_isNone (c : ClassModel) :
    (c.inventory.isEmpty && (copy? c).isNone) = !c.hasLoad := by
  unfold ClassModel.hasLoad ClassModel.hasCopy copy?
  cases c.inventory.isEmpty <;> cases c.initializer.isEmpty <;> rfl

theorem loadWith_written (runtimeAlias : String) (c : ClassModel) (resets : List Instruction) :
    (loadWith c c.inventory (copy? c) resets).toList.map (·.written runtimeAlias) =
      oneIf c.hasLoad (unitFunction runtimeAlias c loadName (loadBody c resets)) := by
  unfold loadWith oneIf
  rw [loadWith_isNone c]
  cases c.hasLoad <;> rfl

theorem registration_eq (runtimeAlias : String) (c : ClassModel) (resets : List Instruction) :
    registration runtimeAlias c (unload? c c.callbacks) (loadWith c c.inventory (copy? c) resets) =
      registrationOf runtimeAlias c := by
  have hunload : unitKeyword "unload" (unload? c c.callbacks) =
      oneIf c.hasUnload ⟨some "unload", .name unloadName .load⟩ := by
    unfold unload? ClassModel.hasUnload oneIf
    cases c.callbacks.isEmpty <;> rfl
  have hload : unitKeyword "load" (loadWith c c.inventory (copy? c) resets) =
      oneIf c.hasLoad ⟨some "load", .name loadName .load⟩ := by
    unfold loadWith oneIf
    rw [loadWith_isNone c]
    cases c.hasLoad <;> rfl
  rw [registration, hunload, hload]
  rfl

theorem hookWith_eq (runtimeAlias : String) (c : ClassModel) (resets : List Instruction) :
    hookWith runtimeAlias c resets =
      oneIf c.hasCopy (unitFunction runtimeAlias c initCopyName (copiedBody runtimeAlias c))
        ++ oneIf c.hasUnload (unitFunction runtimeAlias c unloadName (unloadBody c))
        ++ oneIf c.hasLoad (unitFunction runtimeAlias c loadName (loadBody c resets))
        ++ [registrationOf runtimeAlias c] := by
  rw [hookWith, unitsWith, List.map_append, List.map_append, copy?_written, unload?_written,
    loadWith_written, registration_eq]

theorem hookWith_isHook (runtimeAlias : String) (c : ClassModel) (resets : List Instruction) :
    IsHook runtimeAlias c (hookWith runtimeAlias c resets) := by
  refine ⟨copiedBody runtimeAlias c, unloadBody c, loadBody c resets,
    hookWith_eq runtimeAlias c resets, ?_, ?_⟩
  · rw [copiedBody, Stmt.calleesBlock_orPass, Stmt.calleesBlock_filled]
    exact (c.copyScope runtimeAlias).stores_rewriteBlock c.callees_ownerExpr _
  · rw [unloadBody, loadBody, Stmt.calleesBlock_append, Stmt.calleesBlock_orPass,
      Stmt.calleesBlock_orPass, List.forall_mem_append]
    exact ⟨callees_written _ c.callees_ownerExpr _, callees_written _ c.callees_ownerExpr _⟩

/-- No statement of a hook is a class. -/
theorem IsHook.isClass_eq_false {runtimeAlias : String} {c : ClassModel} {b : Block}
    (h : IsHook runtimeAlias c b) : ∀ s ∈ b, s.isClass = false := by
  obtain ⟨copied, unload, load, rfl, -, -⟩ := h
  have hone : ∀ (wanted : Bool) (name : String) (body : Block),
      ∀ s ∈ oneIf wanted (unitFunction runtimeAlias c name body), s.isClass = false := by
    intro wanted name body
    cases wanted <;> simp [oneIf, unitFunction, Stmt.isClass]
  simp only [List.forall_mem_append, List.forall_mem_singleton]
  exact ⟨⟨⟨hone _ _ _, hone _ _ _⟩, hone _ _ _⟩, rfl⟩

theorem IsHook.ne_nil {runtimeAlias : String} {c : ClassModel} {b : Block}
    (h : IsHook runtimeAlias c b) : b ≠ [] := by
  obtain ⟨copied, unload, load, rfl, -, -⟩ := h
  simp

variable {zeros : ZeroTable} {config : Config} {name : String} {tree : Block} {r : WeaveResult}
  {m : ModuleModel}

/-- Weaving a module that has been read and is not woven yet succeeds when no class is refused. -/
theorem outcome_eq_ok (hread : ModuleModel.read name tree = .ok m)
    (hfresh : checkNotWoven config tree m = .ok ()) :
    outcome zeros config name tree = .ok r ↔
      (∀ c ∈ m.allClasses, refusal? zeros config.runtimeAlias c = none) ∧
        woven config (given zeros config.runtimeAlias) m tree = r := by
  rw [outcome_eq, hread]
  simp only [bind, Except.bind, hfresh, ← List.findSome?_eq_none_iff]
  cases m.allClasses.findSome? (refusal? zeros config.runtimeAlias) <;> simp [unlessFault]

/-- A module is woven after it was read, found to be new, and none of its classes was refused. -/
theorem outcome_ok (h : outcome zeros config name tree = .ok r) :
    ∃ m, ModuleModel.read name tree = .ok m ∧ checkNotWoven config tree m = .ok () ∧
      (∀ c ∈ m.allClasses, refusal? zeros config.runtimeAlias c = none) ∧
      woven config (given zeros config.runtimeAlias) m tree = r := by
  have hm := h
  rw [outcome_eq] at hm
  obtain ⟨m, hread, hm⟩ := ClassModel.bind_eq_ok.1 hm
  obtain ⟨⟨⟩, hfresh, -⟩ := ClassModel.bind_eq_ok.1 hm
  obtain ⟨hnone, hr⟩ := (outcome_eq_ok hread hfresh).1 h
  exact ⟨m, hread, hfresh, hnone, hr⟩

/-- A class that is not refused is given its hook when it takes part, and else nothing. -/
theorem appended_eq_ok {runtimeAlias : String} {c : ClassModel} {b : Block}
    (h : appended zeros runtimeAlias c = .ok b) :
    (c.analysis.eligible = true ∧ ∃ resets, resetsFor zeros c c.inventory = .ok resets ∧
      b = hookWith runtimeAlias c resets) ∨ (c.analysis.eligible = false ∧ b = []) := by
  rw [appended_eq] at h
  cases ha : c.analysisFault? with
  | some fault => simp [ha] at h
  | none =>
    simp only [ha] at h
    split_ifs at h with he
    · obtain ⟨resets, hresets, h⟩ := ClassModel.bind_eq_ok.1 h
      obtain ⟨r, -, h⟩ := ClassModel.bind_eq_ok.1 h
      exact .inl ⟨he, resets, hresets, (Except.ok.inj h).symm⟩
    · exact .inr ⟨by simpa using he, (Except.ok.inj h).symm⟩

theorem appended_of_accepted {runtimeAlias : String} {c : ClassModel}
    (h : refusal? zeros runtimeAlias c = none) :
    appended zeros runtimeAlias c = .ok (given zeros runtimeAlias c) := by
  cases ha : appended zeros runtimeAlias c with
  | error fault =>
    rw [refusal?_of_error ha] at h
    cases h
  | ok b => rw [given_of_ok ha]

/-- A class that takes part and is not refused is given the hook with its resets. -/
theorem given_of_eligible {runtimeAlias : String} {c : ClassModel}
    (h : refusal? zeros runtimeAlias c = none) (he : c.analysis.eligible = true) :
    ∃ resets, resetsFor zeros c c.inventory = .ok resets ∧
      given zeros runtimeAlias c = hookWith runtimeAlias c resets := by
  rcases appended_eq_ok (appended_of_accepted h) with ⟨-, hhook⟩ | ⟨hnot, -⟩
  · exact hhook
  · rw [he] at hnot
    cases hnot

theorem given_of_accepted {runtimeAlias : String} {c : ClassModel}
    (h : refusal? zeros runtimeAlias c = none) :
    (c.analysis.eligible = true ∧ IsHook runtimeAlias c (given zeros runtimeAlias c)) ∨
      (c.analysis.eligible = false ∧ given zeros runtimeAlias c = []) := by
  refine (appended_eq_ok (appended_of_accepted h)).imp_left ?_
  rintro ⟨he, resets, -, hgiven⟩
  exact ⟨he, hgiven ▸ hookWith_isHook runtimeAlias c resets⟩

theorem given_isEmpty {runtimeAlias : String} {c : ClassModel}
    (h : refusal? zeros runtimeAlias c = none) :
    (given zeros runtimeAlias c).isEmpty = !c.analysis.eligible := by
  rcases given_of_accepted h with ⟨he, hhook⟩ | ⟨he, hnil⟩
  · simp [he, hhook.ne_nil]
  · simp [he, hnil]

/-- Enums take no part. -/
theorem isEnum_eq_false_of_eligible {c : ClassModel} (h : c.analysis.eligible = true) :
    c.isEnum = false := by
  have hi := (c.eligible_iff.1 h).1
  simp only [ClassModel.isInspected, Bool.and_eq_true, Bool.not_eq_true'] at hi
  exact hi.1

theorem woven_cases (config : Config) (added : ClassModel → Block) (m : ModuleModel)
    (tree : Block) :
    (woven config added m tree).hooked =
        (m.allClasses.filter fun c => !(added c).isEmpty).map (·.lexicalPath) ∧
      ((woven config added m tree).hooked = [] → (woven config added m tree).tree = tree) ∧
      ((woven config added m tree).hooked ≠ [] → (woven config added m tree).tree =
        addRuntimeImport config (graftBlock (Hook.ofForest added m.classes) tree)) := by
  unfold woven
  generalize (m.allClasses.filter fun c => !(added c).isEmpty).map (·.lexicalPath) = hooked
  cases hooked <;> simp

section Woven

variable (hnone : ∀ c ∈ m.allClasses, refusal? zeros config.runtimeAlias c = none)

include hnone

theorem given_hooks : ∀ c ∈ m.allClasses,
    if c.analysis.eligible then IsHook config.runtimeAlias c (given zeros config.runtimeAlias c)
    else given zeros config.runtimeAlias c = [] := by
  intro c hc
  rcases given_of_accepted (hnone c hc) with ⟨he, hhook⟩ | ⟨he, hnil⟩
  · rw [if_pos he]
    exact hhook
  · rw [he]
    exact hnil

theorem woven_hooked : (woven config (given zeros config.runtimeAlias) m tree).hooked =
    (m.allClasses.filter (·.analysis.eligible)).map (·.lexicalPath) := by
  rw [(woven_cases config _ m tree).1]
  congr 1
  exact List.filter_congr fun c hc => by rw [given_isEmpty (hnone c hc), Bool.not_not]

/-- What is given to the classes of the module holds no class, and enums are given nothing. -/
theorem given_harmless : ∀ c ∈ ClassTree.preorderForest m.classes,
    (c.isEnum = true → given zeros config.runtimeAlias c = []) ∧
      ∀ s ∈ given zeros config.runtimeAlias c, s.isClass = false := by
  intro c hc
  rcases given_of_accepted (hnone c (m.allClasses_eq ▸ hc)) with ⟨he, hhook⟩ | ⟨-, hnil⟩
  · refine ⟨fun henum => ?_, hhook.isClass_eq_false⟩
    rw [isEnum_eq_false_of_eligible he] at henum
    cases henum
  · simp [hnil]

/-- A module with a hook is the module with the import between what has to come first and the rest,
and grown at the ends of its class bodies. -/
theorem woven_tree (hread : ModuleModel.read name tree = .ok m)
    (hne : (woven config (given zeros config.runtimeAlias) m tree).hooked ≠ []) :
    ∃ rest, (woven config (given zeros config.runtimeAlias) m tree).tree =
        opening tree ++ runtimeImport config :: rest ∧
      Extends (given zeros config.runtimeAlias) m.classes tree (opening tree ++ rest) := by
  have hext := graftBlock_extends (ModuleModel.read_lists hread).2
    fun c hc => (given_harmless hnone c hc).1
  refine ⟨remainder (graftBlock (Hook.ofForest (given zeros config.runtimeAlias) m.classes) tree),
    ?_, ?_⟩
  · rw [(woven_cases config _ m tree).2.2 hne, addRuntimeImport_eq, hext.opening_eq]
  · rw [← hext.opening_eq, opening_append_remainder]
    exact hext

end Woven

/-- The hooked classes are those that take part. Without any the module stays; else it is the module
with the import of the runtime under its alias between what has to come first and the rest, and with
a hook at the end of the body of each class that takes part, and cutting these off gives back the
module. -/
theorem weave_frame (h : outcome zeros config name tree = .ok r) :
    ∃ m, ModuleModel.read name tree = .ok m ∧
      r.hooked = (m.allClasses.filter (·.analysis.eligible)).map (·.lexicalPath) ∧
      (r.hooked = [] → r.tree = tree) ∧
      (r.hooked ≠ [] → ∃ (first rest : Block) (added : ClassModel → Block),
        r.tree = first ++ .imports .plain [⟨config.runtimeModule, some config.runtimeAlias⟩] :: rest ∧
        Opens first tree ∧ (∀ s ∈ first, s.isClass = false) ∧
        Extends added m.classes tree (first ++ rest) ∧
        cutBlock (Hook.ofForest added m.classes) (first ++ rest) = tree ∧
        ∀ c ∈ m.allClasses,
          if c.analysis.eligible then IsHook config.runtimeAlias c (added c) else added c = []) := by
  obtain ⟨m, hread, -, hnone, rfl⟩ := outcome_ok h
  refine ⟨m, hread, woven_hooked hnone, (woven_cases config _ m tree).2.1, fun hne => ?_⟩
  obtain ⟨rest, htree, hext⟩ := woven_tree hnone hread hne
  exact ⟨opening tree, rest, _, htree, opening_opens tree, isClass_of_mem_opening, hext,
    hext.cutBlock_eq (given_harmless hnone), given_hooks hnone⟩

/-- A documented module whose outer class has state and whose inner class has none. -/
def counter : Block :=
  [.expr (.constant (.str "Counts.")),
    .classDef ⟨"Counter", [], [], [], []⟩
      [.assign [.name "total" .store] (.constant (.int 0)),
        .classDef ⟨"Idle", [], [], [], []⟩ [.pass]]]

theorem outcome_counter :
    ∃ r, outcome .standard {} "app" counter = .ok r ∧ r.hooked = ["Counter"] := by
  have hread : ∀ m, ModuleModel.read "app" counter = .ok m →
      checkNotWoven {} counter m = .ok () ∧
        (∀ c ∈ m.allClasses, refusal? .standard (Config.runtimeAlias {}) c = none) ∧
        (m.allClasses.filter (·.analysis.eligible)).map (·.lexicalPath) = ["Counter"] := by
    rintro _ ⟨⟩
    simp only [checkNotWoven_eq_ok, ModuleModel.allClasses_eq]
    exact ⟨⟨rfl, by decide +kernel⟩, by decide +kernel, by decide +kernel⟩
  obtain ⟨hfresh, hnone, hpaths⟩ := hread _ rfl
  exact ⟨_, (outcome_eq_ok rfl hfresh).2 ⟨hnone, rfl⟩, by rw [woven_hooked hnone, hpaths]⟩

/-- The import follows the documentation; the outer class alone is hooked. -/
theorem weave_frame_counter :
    ∃ r, outcome .standard {} "app" counter = .ok r ∧ r.hooked = ["Counter"] ∧
      ∃ rest, r.tree = .expr (.constant (.str "Counts.")) ::
        .imports .plain [⟨"typereload.runtime", some "__typereload__"⟩] :: rest := by
  obtain ⟨r, hok, hhooked⟩ := outcome_counter
  obtain ⟨m, -, -, -, hgrown⟩ := weave_frame hok
  obtain ⟨first, rest, _, htree, ⟨doc, futures, after, rfl, hsplit, hdoc, hfutures, -⟩, -⟩ :=
    hgrown (by simp [hhooked])
  have hopen : doc = [.expr (.constant (.str "Counts."))] ∧ futures = [] := by
    rcases hdoc with ⟨text, rfl⟩ | ⟨-, hplain⟩
    · cases futures with
      | nil =>
        simp only [counter, List.append_nil, List.cons_append, List.nil_append, List.cons.injEq]
          at hsplit
        exact ⟨by rw [← hsplit.1], rfl⟩
      | cons s futures =>
        obtain ⟨level, names, rfl⟩ := hfutures s (by simp)
        simp [counter] at hsplit
    · exact absurd rfl (hplain _ _)
  rw [hopen.1, hopen.2] at htree
  exact ⟨r, hok, hhooked, rest, htree⟩

end Weave

end StateWeave
