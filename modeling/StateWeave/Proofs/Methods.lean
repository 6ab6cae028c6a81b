import Mathlib.Data.List.Perm.Basic
import StateWeave.Proofs.Unloading

/-! The methods of a class are the functions that its body defines, one for each `def`. Several
functions of one name are as many methods, and as many callbacks if all of them qualify. -/

namespace StateWeave

open ClassModel (ReadStep)

namespace Stmt

/-- The functions that the statements of a block define, those of nested blocks left out. -/
def functions (b : Block) : List FunctionHeader :=
  b.filterMap fun
    | .functionDef h _ => some h
    | _ => none

theorem functions_append (b d : Block) : functions (b ++ d) = functions b ++ functions d :=
  List.filterMap_append

theorem functions_def (h : FunctionHeader) (body b : Block) :
    functions (.functionDef h body :: b) = h :: functions b := rfl

theorem mem_functions {b : Block} {h : FunctionHeader} :
    h ∈ functions b ↔ ∃ body, .functionDef h body ∈ b := by
  constructor
  · intro hmem
    obtain ⟨s, hs, he⟩ := List.mem_filterMap.1 hmem
    split at he
    · cases he
      exact ⟨_, hs⟩
    · cases he
  · rintro ⟨body, hmem⟩
    exact List.mem_filterMap.2 ⟨_, hmem, rfl⟩

end Stmt

/-- The functions that the body of a class defines, given the enums known so far; the body of an
enum is not read. -/
def ClassHeader.functions (enums : List String) (h : ClassHeader) (body : Block) :
    List FunctionHeader :=
  if h.isEnum enums then [] else Stmt.functions body

namespace ClassModel

variable {c c' : ClassModel} {index : Nat} {s : Stmt}

theorem methods_addField (c : ClassModel) (f : Field) : (c.addField f).methods = c.methods := by
  obtain ⟨fs, hfs⟩ := c.addField_eq f
  rw [hfs]

/-- Only a `def` adds a method. -/
theorem ReadStep.methods_eq (h : ReadStep c index s c')
    (hs : ∀ header body, s ≠ .functionDef header body) : c'.methods = c.methods := by
  cases h with
  | function header body => exact absurd rfl (hs header body)
  | imports | idle | annotated | dunders => rfl
  | declare => exact c.methods_addField _
  | stores =>
    obtain ⟨fs, hfs⟩ := c.afterStores_eq index s _
    rw [hfs]
    rfl
  | property => exact methods_addField _ _
  | event => exact methods_addField _ _

theorem methods_readOther (hs : s.isClass = false) (h : c.readOther index s = .ok c') :
    c'.methods = c.methods ++ (Stmt.functions [s]).map (·.method) := by
  cases s with
  | functionDef header body =>
    cases h
    rfl
  | classDef header body => cases hs
  | _ =>
    rw [(readOther_step h).methods_eq (by simp)]
    exact (List.append_nil _).symm

end ClassModel

namespace ClassTree

variable {n : ClassTree} {place : List Nat} {outer enums enums' : List String} {h : ClassHeader}
  {body : Block}

theorem methods_readBody (b : Block) :
    ∀ {t t' : ClassTree} {enums enums' : List String} {index : Nat},
      readBody t enums index b = .ok (t', enums') →
      t'.cls.methods = t.cls.methods ++ (Stmt.functions b).map (·.method) := by
  induction b with
  | nil =>
    intro t t' enums enums' index hr
    cases hr
    exact (List.append_nil _).symm
  | cons s rest ih =>
    intro t t' enums enums' index hr
    have happ : Stmt.functions (s :: rest) = Stmt.functions [s] ++ Stmt.functions rest :=
      Stmt.functions_append [s] rest
    rcases readBody_cons_cases hr with ⟨hs, c, -, hc, hrest⟩ | ⟨h, body, n, later, rfl, -, hrest⟩
    · rw [ih hrest, ClassModel.methods_readOther hs hc, happ, List.map_append, List.append_assoc]
    · rw [ih hrest]
      rfl

/-- The methods of a class are those that its body defines. -/
theorem methods_read (hr : read place outer enums h body = .ok (n, enums')) :
    n.cls.methods = (h.functions enums body).map (·.method) := by
  obtain ⟨params, -, ⟨henum, -, rfl⟩ | ⟨henum, u, hu, rfl⟩⟩ := read_cases hr
  · rw [ClassHeader.functions, if_pos henum]
    rfl
  · rw [ClassHeader.functions, if_neg (by simp [henum])]
    exact methods_readBody body hu

/-- Each collected callback is the method of a function of its own that the body defines. -/
theorem collected_functions (hr : read place outer enums h body = .ok (n, enums'))
    {callbacks : List UnloadCallback} {records later : List LogRecord}
    (hc : n.cls.collectCallbacks records = (.ok callbacks, later)) :
    ∃ fs : List FunctionHeader, callbacks.map (·.method) = fs.map (·.method) ∧
      fs.Perm ((h.functions enums body).filter (·.method.Qualifies)) := by
  have hcollected : callbacks = n.cls.callbacks := by
    rw [ClassModel.collectCallbacks_apply] at hc
    cases hfault : n.cls.orderFault? with
    | some fault =>
      rw [hfault] at hc
      cases (Prod.mk.inj hc).1
    | none =>
      rw [hfault] at hc
      exact (Except.ok.inj (Prod.mk.inj hc).1).symm
  have hperm := n.cls.collected_callbacks.exact
  rw [← hcollected, methods_read hr, List.filter_map] at hperm
  obtain ⟨fs, hfs, hsame⟩ := (congrFun₂ (List.eq_map_comp_perm FunctionHeader.method) _ _).mpr hperm
  exact ⟨fs, hfs, hsame⟩

end ClassTree

end StateWeave
