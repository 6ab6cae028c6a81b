import Mathlib.Tactic.SplitIfs
import StateWeave.Proofs.Logged

/-! Units as they are written out. A unit that names members of its own class only can be written
whenever the type parameters of the class are plain names, and all that decides its text is how code
in the class body names the class. -/

namespace StateWeave

namespace ClassModel

/-- The class as code in its own units names it. -/
def ownerExpr (c : ClassModel) : Expr :=
  if c.isGeneric then .name ReloadUnit.classParameter .load
  else match c.path with
    | [] => .name c.name .load
    | head :: attrs => .path head attrs

/-- The class scope that copied statements are taken out of. -/
def copyScope (c : ClassModel) (runtimeAlias : String) : ClassScope where
  className := c.name
  scopeNames := c.scopeNames
  retained := c.optedOutNames
  owner := c.ownerExpr
  runtimeAlias := runtimeAlias

def unitHeader (c : ClassModel) (runtimeAlias name : String) : FunctionHeader where
  isAsync := false
  name := name
  params := .ofNames (if c.isGeneric then [ReloadUnit.classParameter] else [])
  decorators :=
    [.name (if c.isGeneric then "classmethod" else "staticmethod") .load,
      .attribute (.name runtimeAlias .load) "generated" .load]
  returns := some (.constant .null)
  typeParams := []

theorem isIdentity_ownArguments (c : ClassModel) : c.isIdentity c.ownArguments = true := by
  simp [isIdentity]

/-- The names of the parameters that keep a class from being qualified. -/
def unresolvedParameters (c : ClassModel) : List String :=
  (c.typeParams.filter (!·.resolved)).map (·.name)

/-- The way units of a class refer to it once they are qualified. -/
def selfRef (c : ClassModel) : TypeRef :=
  if c.isGeneric then .applied c c.ownArguments else .plain c

theorem qualified_eq (c : ClassModel) :
    c.qualified =
      if c.unresolvedParameters.isEmpty then .ok c.selfRef
      else .error (.unresolvedParameters c.unresolvedParameters c.lexicalPath) := by
  unfold qualified selfRef unresolvedParameters
  by_cases hg : c.isGeneric
  · simp [hg]
  · have hnil : c.typeParams = [] := by simpa [isGeneric] using hg
    simp [isGeneric, hnil]

end ClassModel

namespace Instruction

/-- The statement for an instruction about the class that `owner` names. -/
def written (owner : Expr) : Instruction → Stmt
  | .reset target zero => .assign [.attribute owner target.name .store] (.constant zero)
  | .call method => .expr (.call (.attribute owner method.name .load) [] [])
  | .invalid _ => .pass

/-- Whether the instruction is about a member of the class itself. -/
def Within (c : ClassModel) : Instruction → Prop
  | .reset target _ => target.through = .plain c
  | .call method => method.through = .plain c
  | .invalid _ => False

/-- The instruction with another way to the class. -/
def via (r : TypeRef) : Instruction → Instruction
  | .reset target zero => .reset { target with through := r } zero
  | .call method => .call { method with through := r }
  | .invalid text => .invalid text

theorem qualify_of_within {c : ClassModel} {r : TypeRef} (hc : c.qualified = .ok r)
    {i : Instruction} (h : i.Within c) : i.qualify = .ok (i.via r) := by
  cases i with
  | reset target zero =>
    have h : target.through = .plain c := h
    simp [qualify, MemberRef.qualify, h, TypeRef.qualify, hc, via, bind, Except.bind, pure,
      Except.pure]
  | call method =>
    have h : method.through = .plain c := h
    simp [qualify, MemberRef.qualify, h, TypeRef.qualify, hc, via, bind, Except.bind, pure,
      Except.pure]
  | invalid text => exact h.elim

theorem qualifyAll_of_within {c : ClassModel} {r : TypeRef} (hc : c.qualified = .ok r)
    {is : List Instruction} (h : ∀ i ∈ is, i.Within c) : qualifyAll is = .ok (is.map (via r)) := by
  induction is with
  | nil => rfl
  | cons i is ih =>
    simp only [List.forall_mem_cons] at h
    simp [qualifyAll, qualify_of_within hc h.1, ih h.2, bind, Except.bind, pure, Except.pure]

end Instruction

/-- The body of a unit with another way to the class. -/
def UnitBody.via (r : TypeRef) : UnitBody → UnitBody
  | .instructions list => .instructions (list.map (Instruction.via r))
  | .source statements => .source statements

namespace ReloadUnit

/-- The unit once it is qualified. -/
def settled (u : ReloadUnit) : ReloadUnit :=
  { u with
    owner := some u.home.selfRef
    kind := if u.home.isGeneric then .cls else .static
    parameters := if u.home.isGeneric then [classParameter] else []
    body := u.body.via u.home.selfRef }

/-- Whether the unit names members of its own class only. -/
def Local (u : ReloadUnit) : Prop :=
  match u.body with
  | .instructions list => ∀ i ∈ list, i.Within u.home
  | .source _ => True

theorem qualify_of_error {u : ReloadUnit} {fault : Fault} (h : u.home.qualified = .error fault) :
    u.qualify = .error fault := by
  simp [qualify, h, bind, Except.bind]

theorem qualify_of_local {u : ReloadUnit} (hu : u.Local)
    (h : u.home.qualified = .ok u.home.selfRef) : u.qualify = .ok u.settled := by
  obtain ⟨name, home, kind, parameters, owner, isGenerated, body⟩ := u
  have hbody : qualifyBody body = .ok (body.via home.selfRef) := by
    cases body with
    | instructions list =>
      have hq := Instruction.qualifyAll_of_within h hu
      simp [qualifyBody, UnitBody.via, hq, bind, Except.bind, pure, Except.pure]
    | source statements => rfl
  simp only [qualify, h, hbody, settled, bind, Except.bind, pure, Except.pure]
  by_cases hg : home.isGeneric <;> simp [ClassModel.selfRef, hg]

theorem renderType_selfRef {u : ReloadUnit} (hkind : u.home.isGeneric → u.kind = .cls) :
    u.renderType u.home.selfRef = .ok u.home.ownerExpr := by
  by_cases hg : u.home.isGeneric
  · simp [ClassModel.selfRef, ClassModel.ownerExpr, hg, renderType,
      ClassModel.isIdentity_ownArguments, hkind hg]
  · simp only [ClassModel.selfRef, ClassModel.ownerExpr, hg, renderType, if_false,
      Bool.false_eq_true]
    cases u.home.path <;> rfl

theorem renderInstructions_via {u : ReloadUnit}
    (hr : u.renderType u.home.selfRef = .ok u.home.ownerExpr)
    {is : List Instruction} (h : ∀ i ∈ is, i.Within u.home) :
    u.renderInstructions (is.map (Instruction.via u.home.selfRef)) =
      .ok (is.map (Instruction.written u.home.ownerExpr)) := by
  induction is with
  | nil => rfl
  | cons i is ih =>
    simp only [List.forall_mem_cons] at h
    have hi : u.renderInstruction (i.via u.home.selfRef) = .ok (i.written u.home.ownerExpr) := by
      cases i with
      | reset target zero =>
        simp [Instruction.via, renderInstruction, renderMember, hr, Instruction.written, bind,
          Except.bind, pure, Except.pure]
      | call method =>
        simp [Instruction.via, renderInstruction, renderMember, hr, Instruction.written, bind,
          Except.bind, pure, Except.pure]
      | invalid text => exact h.1.elim
    simp [renderInstructions, hi, ih h.2, bind, Except.bind, pure, Except.pure]

/-- The statements of the unit, written for the class it belongs to. -/
def writtenBody (u : ReloadUnit) (runtimeAlias : String) : Block :=
  match u.body with
  | .instructions list => list.map (Instruction.written u.home.ownerExpr)
  | .source statements => filledBlock ((u.home.copyScope runtimeAlias).rewriteBlock statements)

/-- The function that the unit is written out as. -/
def written (u : ReloadUnit) (runtimeAlias : String) : Stmt :=
  .functionDef (u.home.unitHeader runtimeAlias u.name) (orPass (u.writtenBody runtimeAlias))

theorem renderBody_settled {u : ReloadUnit} (hu : u.Local) (runtimeAlias : String) :
    u.settled.renderBody runtimeAlias = .ok (u.writtenBody runtimeAlias) := by
  obtain ⟨name, home, kind, parameters, owner, isGenerated, body⟩ := u
  have hr : (settled ⟨name, home, kind, parameters, owner, isGenerated, body⟩).renderType
      home.selfRef = .ok home.ownerExpr :=
    renderType_selfRef (u := settled _) (fun hg => by simp [settled] at hg ⊢; exact hg)
  cases body with
  | instructions list => exact renderInstructions_via hr hu
  | source statements =>
    simp only [renderBody, settled, UnitBody.via, sourceScope, renderOwner] at hr ⊢
    simp [hr, writtenBody, classScope, ClassModel.copyScope, bind, Except.bind, pure, Except.pure]

theorem render_settled {u : ReloadUnit} (hu : u.Local) (runtimeAlias : String) :
    u.settled.render runtimeAlias = .ok (u.written runtimeAlias) := by
  have hb := renderBody_settled hu runtimeAlias
  simp only [render, hb, bind, Except.bind, pure, Except.pure, written, ClassModel.unitHeader]
  by_cases hg : u.home.isGeneric <;> simp [settled, decorators, hg]

/-- A unit that names members of its own class only fails at nothing but the type parameters. -/
theorem render_of_local {u : ReloadUnit} (hu : u.Local) (runtimeAlias : String) :
    (u.qualify >>= (·.render runtimeAlias)) =
      if u.home.unresolvedParameters.isEmpty then .ok (u.written runtimeAlias)
      else .error (.unresolvedParameters u.home.unresolvedParameters u.home.lexicalPath) := by
  have hq := u.home.qualified_eq
  split_ifs at hq ⊢
  · rw [qualify_of_local hu hq]
    exact render_settled hu runtimeAlias
  · rw [qualify_of_error hq]
    rfl

end ReloadUnit

end StateWeave
