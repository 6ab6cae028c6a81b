import StateWeave.ReloadUnit.Basic

/-! Qualified references. A unit of a generic class reaches its members through the class applied to
its own parameters, since every instantiation has state of its own; the unit is then a class method.
Classes that are not generic are named as they are. -/

namespace StateWeave

namespace ClassModel

def qualified (c : ClassModel) : Except Fault TypeRef :=
  if !c.isGeneric then .ok (.plain c)
  else
    let unresolved := (c.typeParams.filter (!·.resolved)).map (·.name)
    if unresolved.isEmpty then .ok (.applied c c.ownArguments)
    else .error (.unresolvedParameters unresolved c.lexicalPath)

end ClassModel

def TypeRef.qualify : TypeRef → Except Fault TypeRef
  | .plain c => c.qualified
  | .applied c arguments => .ok (.applied c arguments)

def MemberRef.qualify (r : MemberRef) : Except Fault MemberRef := do
  return { r with through := ← r.through.qualify }

namespace Instruction

def qualify : Instruction → Except Fault Instruction
  | .reset target zero => do return .reset (← target.qualify) zero
  | .call method => do return .call (← method.qualify)
  | .invalid text => .error (.unknownInstruction text)

def qualifyAll : List Instruction → Except Fault (List Instruction)
  | [] => .ok []
  | i :: is => do
    let i ← i.qualify
    return i :: (← qualifyAll is)

end Instruction

namespace ReloadUnit

def classParameter : String := "cls"

def qualifyBody : UnitBody → Except Fault UnitBody
  | .instructions list => do return .instructions (← Instruction.qualifyAll list)
  | .source statements => .ok (.source statements)

def qualify (u : ReloadUnit) : Except Fault ReloadUnit := do
  let owner ← u.home.qualified
  let body ← qualifyBody u.body
  match owner with
  | .plain _ => return { u with owner := some owner, body, kind := .static, parameters := [] }
  | .applied _ _ =>
    return { u with owner := some owner, body, kind := .cls, parameters := [classParameter] }

end ReloadUnit

end StateWeave
