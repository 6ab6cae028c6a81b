import StateWeave.Class.Marker
import StateWeave.Fault

/-! Annotations of class-level storage. `Annotated`, `ClassVar` and `Final` wrap the type that is
stored; the first item in their brackets is what they wrap. -/

namespace StateWeave

inductive Wrapper
  | annotated | classVar | final
deriving DecidableEq, Repr, Inhabited

def Wrapper.ofExpr? (e : Expr) : Option Wrapper :=
  match e.terminalName with
  | some "Annotated" => some .annotated
  | some "ClassVar" => some .classVar
  | some "Final" => some .final
  | _ => none

namespace Annot

/-- Markers in the metadata of `Annotated`, those of inner wrappers first. -/
def markers : Expr → Except Fault (List Marker)
  | .subscript wrapper (.sequence .tuple [] _) _ =>
    if (Wrapper.ofExpr? wrapper).isSome then .error .emptyWrapper else .ok []
  | .subscript wrapper (.sequence .tuple (first :: metadata) _) _ =>
    match Wrapper.ofExpr? wrapper with
    | some .annotated => do return (← markers first) ++ Marker.ofExprs metadata
    | some _ => markers first
    | none => .ok []
  | .subscript wrapper index _ =>
    if (Wrapper.ofExpr? wrapper).isSome then markers index else .ok []
  | _ => .ok []
termination_by structural e => e

/-- Whether a `ClassVar` is reached through nothing but `Annotated`. -/
def isClassVar : Expr → Except Fault Bool
  | .subscript wrapper (.sequence .tuple [] _) _ =>
    match Wrapper.ofExpr? wrapper with
    | some .classVar => .ok true
    | some .annotated => .error .emptyWrapper
    | _ => .ok false
  | .subscript wrapper (.sequence .tuple (first :: _) _) _ =>
    match Wrapper.ofExpr? wrapper with
    | some .classVar => .ok true
    | some .annotated => isClassVar first
    | _ => .ok false
  | .subscript wrapper index _ =>
    match Wrapper.ofExpr? wrapper with
    | some .classVar => .ok true
    | some .annotated => isClassVar index
    | _ => .ok false
  | e => .ok (Wrapper.ofExpr? e == some .classVar)
termination_by structural e => e

def stored : Expr → Except Fault Expr
  | .subscript wrapper (.sequence .tuple [] ctx) subscriptCtx =>
    if (Wrapper.ofExpr? wrapper).isSome then .error .emptyWrapper
    else .ok (.subscript wrapper (.sequence .tuple [] ctx) subscriptCtx)
  | .subscript wrapper (.sequence .tuple (first :: metadata) ctx) subscriptCtx =>
    if (Wrapper.ofExpr? wrapper).isSome then stored first
    else .ok (.subscript wrapper (.sequence .tuple (first :: metadata) ctx) subscriptCtx)
  | .subscript wrapper index ctx =>
    if (Wrapper.ofExpr? wrapper).isSome then stored index
    else .ok (.subscript wrapper index ctx)
  | e => .ok e
termination_by structural e => e

/-- The name of a stored type; a quoted one is read up to its last dot. -/
def typeName : Expr → Option String
  | .constant (.str text) => some (Dotted.last text)
  | e => e.terminalName

def markersOf : Option Expr → Except Fault (List Marker)
  | none => .ok []
  | some annot => markers annot

def isClassVarOf : Option Expr → Except Fault Bool
  | none => .ok false
  | some annot => isClassVar annot

end Annot

end StateWeave
