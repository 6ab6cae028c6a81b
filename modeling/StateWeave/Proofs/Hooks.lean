import StateWeave.Proofs.Addition

/-! Weaving as one function of what each class is given. The hooks of a module have the shape of
its classes; the first class in declaration order that is refused stops the whole module. -/

namespace StateWeave

open Logged

namespace ClassTree

theorem preorderForest_append (ts us : List ClassTree) :
    preorderForest (ts ++ us) = preorderForest ts ++ preorderForest us := by
  induction ts with
  | nil => rfl
  | cons t ts ih => simp [preorderForest, ih]

/-- A walk takes what is on the stack from the top, each tree in its own order. -/
theorem walk_eq_preorderForest (stack : List ClassTree) :
    walk stack = preorderForest stack.reverse := by
  fun_induction walk stack with
  | case1 stack taken =>
    rcases List.eq_nil_or_concat stack with rfl | ⟨below, t, rfl⟩
    · rfl
    · rw [List.concat_eq_append, turn?_append] at taken
      cases taken
  | case2 stack c rest taken ih =>
    rcases List.eq_nil_or_concat stack with rfl | ⟨below, ⟨cls, nested⟩, rfl⟩
    · cases taken
    · rw [List.concat_eq_append, turn?_append] at taken
      cases taken
      rw [ih]
      simp [preorderForest, preorder, preorderForest_append]

end ClassTree

theorem ModuleModel.allClasses_eq (m : ModuleModel) :
    m.allClasses = ClassTree.preorderForest m.classes := by
  rw [allClasses, ClassTree.walk_eq_preorderForest, List.reverse_reverse]

mutual

/-- The hook of a class and of those nested in it, when `added` tells what each is given. -/
def Hook.ofTree (added : ClassModel → Block) : ClassTree → Hook
  | ⟨c, nested⟩ => ⟨c.lexicalPath, added c, Hook.ofForest added nested⟩

def Hook.ofForest (added : ClassModel → Block) : List ClassTree → List Hook
  | [] => []
  | t :: ts => Hook.ofTree added t :: Hook.ofForest added ts

end

namespace Weave

/-- The fault that a class is refused with, if it is. -/
def refusal? (zeros : ZeroTable) (runtimeAlias : String) (c : ClassModel) : Option Fault :=
  match appended zeros runtimeAlias c with
  | .error fault => some fault
  | .ok _ => none

/-- What a class is given; nothing when it is refused. -/
def given (zeros : ZeroTable) (runtimeAlias : String) (c : ClassModel) : Block :=
  (appended zeros runtimeAlias c).toOption.getD []

theorem refusal?_of_ok {zeros : ZeroTable} {runtimeAlias : String} {c : ClassModel} {b : Block}
    (h : appended zeros runtimeAlias c = .ok b) : refusal? zeros runtimeAlias c = none := by
  simp [refusal?, h]

theorem refusal?_of_error {zeros : ZeroTable} {runtimeAlias : String} {c : ClassModel}
    {fault : Fault} (h : appended zeros runtimeAlias c = .error fault) :
    refusal? zeros runtimeAlias c = some fault := by
  simp [refusal?, h]

theorem given_of_ok {zeros : ZeroTable} {runtimeAlias : String} {c : ClassModel} {b : Block}
    (h : appended zeros runtimeAlias c = .ok b) : given zeros runtimeAlias c = b := by
  simp [given, h, Except.toOption]

/-- A result that stands unless there is a fault. -/
def unlessFault {α : Type} (fault? : Option Fault) (a : α) : Except Fault α :=
  match fault? with
  | some fault => .error fault
  | none => .ok a

mutual

theorem hookTree_settles (zeros : ZeroTable) (runtimeAlias : String) :
    ∀ t : ClassTree, Settles (hookTree zeros runtimeAlias t)
      (unlessFault (t.preorder.findSome? (refusal? zeros runtimeAlias))
        (Hook.ofTree (given zeros runtimeAlias) t))
  | ⟨c, nested⟩ => by
    have h := (addition_settles zeros runtimeAlias c).bind fun appended =>
      (hookForest_settles zeros runtimeAlias nested).bind fun hooks =>
        settles_pure (Hook.mk c.lexicalPath appended hooks)
    intro records
    rw [hookTree, h records, ClassTree.preorder, List.findSome?_cons]
    cases ha : appended zeros runtimeAlias c with
    | error fault =>
      rw [refusal?_of_error ha]
      rfl
    | ok block =>
      rw [refusal?_of_ok ha, Hook.ofTree, given_of_ok ha]
      cases (ClassTree.preorderForest nested).findSome? (refusal? zeros runtimeAlias) <;> rfl

theorem hookForest_settles (zeros : ZeroTable) (runtimeAlias : String) :
    ∀ ts : List ClassTree, Settles (hookForest zeros runtimeAlias ts)
      (unlessFault ((ClassTree.preorderForest ts).findSome? (refusal? zeros runtimeAlias))
        (Hook.ofForest (given zeros runtimeAlias) ts))
  | [] => settles_pure []
  | t :: ts => by
    have h := (hookTree_settles zeros runtimeAlias t).bind fun hook =>
      (hookForest_settles zeros runtimeAlias ts).bind fun hooks => settles_pure (hook :: hooks)
    intro records
    rw [hookForest, h records, ClassTree.preorderForest, List.findSome?_append]
    cases t.preorder.findSome? (refusal? zeros runtimeAlias) with
    | some fault => rfl
    | none =>
      cases (ClassTree.preorderForest ts).findSome? (refusal? zeros runtimeAlias) <;> rfl

end

mutual

theorem hookedPaths_ofTree (added : ClassModel → Block) :
    ∀ t : ClassTree, hookedPaths (Hook.ofTree added t) =
      (t.preorder.filter fun c => !(added c).isEmpty).map (·.lexicalPath)
  | ⟨c, nested⟩ => by
    rw [Hook.ofTree, hookedPaths, hookedPathsList_ofForest added nested, ClassTree.preorder,
      List.filter_cons]
    cases (added c).isEmpty <;> simp

theorem hookedPathsList_ofForest (added : ClassModel → Block) :
    ∀ ts : List ClassTree, hookedPathsList (Hook.ofForest added ts) =
      ((ClassTree.preorderForest ts).filter fun c => !(added c).isEmpty).map (·.lexicalPath)
  | [] => rfl
  | t :: ts => by
    rw [Hook.ofForest, hookedPathsList, hookedPaths_ofTree added t,
      hookedPathsList_ofForest added ts, ClassTree.preorderForest, List.filter_append,
      List.map_append]

end

/-- A module is taken for new when it neither imports the runtime nor has units. -/
theorem checkNotWoven_eq_ok {config : Config} {tree : Block} {m : ModuleModel} :
    checkNotWoven config tree m = .ok () ↔
      tree.any (importsAlias config.runtimeAlias) = false ∧
        ∀ c ∈ m.allClasses, hasUnits c = false := by
  unfold checkNotWoven
  by_cases h : tree.any (importsAlias config.runtimeAlias) = true
  · simp [h]
  · cases hf : m.allClasses.find? hasUnits with
    | none => simpa [h] using hf
    | some c =>
      simp only [h, if_false, Bool.false_eq_true, reduceCtorEq, false_iff, not_and]
      intro _ hall
      have hc := hall c (List.mem_of_find?_eq_some hf)
      rw [List.find?_some hf] at hc
      cases hc

/-- What weaving a module comes to, log apart. -/
def outcome (zeros : ZeroTable) (config : Config) (name : String) (tree : Block) :
    Except Fault WeaveResult :=
  (Weave.module zeros config name tree).run.1

/-- The woven module, when `added` tells what each class is given. -/
def woven (config : Config) (added : ClassModel → Block) (m : ModuleModel) (tree : Block) :
    WeaveResult :=
  let hooked := (m.allClasses.filter fun c => !(added c).isEmpty).map (·.lexicalPath)
  if hooked.isEmpty then { tree, hooked := [] }
  else
    { tree := addRuntimeImport config (graftBlock (Hook.ofForest added m.classes) tree), hooked }

theorem outcome_eq (zeros : ZeroTable) (config : Config) (name : String) (tree : Block) :
    outcome zeros config name tree = (do
      let m ← ModuleModel.read name tree
      let _ ← checkNotWoven config tree m
      unlessFault (m.allClasses.findSome? (refusal? zeros config.runtimeAlias))
        (woven config (given zeros config.runtimeAlias) m tree)) := by
  refine Settles.run_fst ((settles_lift _).bind fun m => (settles_lift _).bind fun _ => ?_)
  intro records
  have hhooks := hookForest_settles zeros config.runtimeAlias m.classes records
  rw [bind_apply]
  generalize hookForest zeros config.runtimeAlias m.classes records = result at hhooks ⊢
  obtain ⟨hooks, later⟩ := result
  subst hhooks
  rw [← m.allClasses_eq]
  cases m.allClasses.findSome? (refusal? zeros config.runtimeAlias) with
  | some fault => rfl
  | none =>
    simp only [unlessFault, woven, hookedPathsList_ofForest, ← m.allClasses_eq]
    split_ifs <;> rfl

end Weave

end StateWeave
