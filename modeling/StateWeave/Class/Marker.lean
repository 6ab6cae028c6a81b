import StateWeave.Table
import StateWeave.Tree.Expr

/-! Markers: decorators and annotation metadata that are recognized by name alone. -/

namespace StateWeave

inductive MarkerKind
  | neverReload | onTypeUnload | generated
deriving DecidableEq, Repr, Inhabited

namespace MarkerKind

def name : MarkerKind → String
  | .neverReload => "never_reload"
  | .onTypeUnload => "on_type_unload"
  | .generated => "generated"

def ofName? (name : String) : Option MarkerKind :=
  [neverReload, onTypeUnload, generated].find? (·.name == name)

end MarkerKind

/-- A marker with its keyword arguments, which are never evaluated. -/
structure Marker where
  kind : MarkerKind
  keywords : Table String Expr
deriving Inhabited

namespace Marker

/-- Named keywords; of several with one name the last counts, and unnamed ones are skipped. -/
def keywordsOf (keywords : List Keyword) : Table String Expr :=
  Table.ofList (keywords.filterMap fun k =>
    match k.arg with
    | some arg => if arg = "" then none else some (arg, k.value)
    | none => none)

def ofExpr? (e : Expr) : Option Marker := do
  let kind ← MarkerKind.ofName? (← e.callee.terminalName)
  match e with
  | .call _ _ keywords => some ⟨kind, keywordsOf keywords⟩
  | _ => some ⟨kind, ∅⟩

def ofExprs (es : List Expr) : List Marker :=
  es.filterMap ofExpr?

def first? (kind : MarkerKind) (markers : List Marker) : Option Marker :=
  markers.find? (·.kind == kind)

def carries (kind : MarkerKind) (markers : List Marker) : Bool :=
  markers.any (·.kind == kind)

end Marker

end StateWeave
