import StateWeave.Class.Annot
import StateWeave.Config

/-! Zero values: what storage holds before any initializer ran. They follow the declared type. -/

namespace StateWeave

namespace ZeroTable

/-- The literal for a type name, or what stands in its place and is none. A name that is missing
from the table stands for nothing. -/
def lookup (zeros : ZeroTable) (typeName : Option String) : Except Datum Constant :=
  match typeName.bind zeros.get? with
  | none => .ok .null
  | some datum => match datum.literal? with
    | some value => .ok value
    | none => .error datum

end ZeroTable

def storedTypeName : Option Expr → Except Fault (Option String)
  | none => .ok none
  | some annot => do return Annot.typeName (← Annot.stored annot)

def notLiteralMessage (text : String) (typeName : Option String) : String :=
  "Zero value " ++ text ++ " for " ++ ((typeName.map Quoted.text).getD "None")
    ++ " is not a literal; using None"

def Datum.warningText (datum : Datum) : Except Fault String :=
  datum.shown.mapError .unshown

/-- The zero value of storage with this annotation; a value that is no literal is replaced by
nothing, with a warning that has to show it. -/
def zeroValue (zeros : ZeroTable) (annot : Option Expr) : Logged Constant := do
  let typeName ← Logged.lift (storedTypeName annot)
  match zeros.lookup typeName with
  | .ok value => return value
  | .error datum =>
    let text ← Logged.lift datum.warningText
    Logged.log .warning .synthesizer (notLiteralMessage text typeName)
    return .null

end StateWeave
