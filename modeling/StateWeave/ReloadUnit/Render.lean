import StateWeave.Copy.Block
import StateWeave.Copy.OwnerUse
import StateWeave.Copy.Residue
import StateWeave.ReloadUnit.Qualify

/-! Units written out as functions of their class body. A member is reached through the dotted path
of its class, or, when its class is generic, through the class parameter of the unit; a reference
that neither can express is refused. -/

namespace StateWeave

namespace ReloadUnit

def renderType (u : ReloadUnit) : TypeRef → Except Fault Expr
  | .applied c arguments =>
    if !c.isIdentity arguments then .error (.otherInstantiation u.name c.lexicalPath)
    else if c.place ≠ u.home.place || u.kind ≠ .cls then
      .error (.outOfReach u.name u.home.lexicalPath c.lexicalPath)
    else .ok (.name classParameter .load)
  | .plain c =>
    if c.isGeneric then .error (.openGeneric u.name c.lexicalPath)
    else match c.path with
      | [] => .ok (.name c.name .load)
      | head :: attrs => .ok (Expr.path head attrs)

def renderMember (u : ReloadUnit) (r : MemberRef) (ctx : Ctx) : Except Fault Expr := do
  return .attribute (← u.renderType r.through) r.name ctx

def renderInstruction (u : ReloadUnit) : Instruction → Except Fault Stmt
  | .reset target zero => do
    return .assign [← u.renderMember target .store] (.constant zero)
  | .call method => do
    return .expr (.call (← u.renderMember method .load) [] [])
  | .invalid text => .error (.unknownInstruction text)

def renderInstructions (u : ReloadUnit) : List Instruction → Except Fault Block
  | [] => .ok []
  | i :: is => do
    let x ← u.renderInstruction i
    return x :: (← u.renderInstructions is)

def classScope (u : ReloadUnit) (runtimeAlias : String) (owner : Expr) : ClassScope where
  className := u.home.name
  scopeNames := u.home.scopeNames
  retained := u.home.optedOutNames
  owner := owner
  runtimeAlias := runtimeAlias

def renderOwner (u : ReloadUnit) : Except Fault Expr :=
  match u.owner with
  | some owner => u.renderType owner
  | none => .error .noOwner

/-- The class scope for copied statements. That the owner cannot be reached is a fault only if some
statement needs it. -/
def sourceScope (u : ReloadUnit) (runtimeAlias : String) (statements : Block) :
    Except Fault ClassScope :=
  match u.renderOwner with
  | .ok owner => .ok (u.classScope runtimeAlias owner)
  | .error fault =>
    let s := u.classScope runtimeAlias (.constant .null)
    if s.usesBlock statements then .error fault else .ok s

def renderBody (u : ReloadUnit) (runtimeAlias : String) : Except Fault Block :=
  match u.body with
  | .instructions list => u.renderInstructions list
  | .source statements => do
    let s ← u.sourceScope runtimeAlias statements
    return filledBlock (s.rewriteBlock statements)

/-- The unit once it has been written out. -/
def spent (u : ReloadUnit) (runtimeAlias : String) : ReloadUnit :=
  match u.body with
  | .instructions _ => u
  | .source statements => match u.sourceScope runtimeAlias statements with
    | .ok s => { u with body := .source (statements.map s.leftStmt) }
    | .error _ => u

def decorators (u : ReloadUnit) (runtimeAlias : String) : List Expr :=
  [.name (if u.kind = .cls then "classmethod" else "staticmethod") .load,
    .attribute (.name runtimeAlias .load) "generated" .load]

def render (u : ReloadUnit) (runtimeAlias : String) : Except Fault Stmt := do
  let body ← u.renderBody runtimeAlias
  return .functionDef
    { isAsync := false
      name := u.name
      params := .ofNames u.parameters
      decorators := u.decorators runtimeAlias
      returns := some (.constant .null)
      typeParams := [] }
    (orPass body)

end ReloadUnit

end StateWeave
