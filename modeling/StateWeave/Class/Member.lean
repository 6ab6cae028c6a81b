import StateWeave.Class.Marker
import StateWeave.Text.Private

/-! Members of a class: the storage it declares and the functions it defines. -/

namespace StateWeave

/-- A type parameter; one that was listed as anything but a plain name is not resolved. -/
structure TypeParam where
  name : String
  resolved : Bool := true
deriving DecidableEq, Repr, Inhabited

structure Field where
  name : String
  runtimeName : String
  annot : Option Expr := none
  markers : List Marker := []
  isStatic : Bool := true
  /-- Storage behind a static property or event, which no statement of the class names. -/
  isGenerated : Bool := false
deriving Inhabited

/-- A property; whether an accessor is static is unknown until one is declared. -/
structure Property where
  name : String
  markers : List Marker := []
  getterStatic : Option Bool := none
  setterStatic : Option Bool := none
deriving Inhabited

structure Event where
  name : String
  markers : List Marker := []
  addStatic : Bool := true
  removeStatic : Bool := true
deriving Inhabited

inductive MethodKind
  | plain | static | cls | perObject
deriving DecidableEq, Repr, Inhabited

structure Method where
  name : String
  kind : MethodKind := .plain
  parameters : List String := []
  returns : Option Expr := none
  typeParams : List TypeParam := []
  isAsync : Bool := false
  markers : List Marker := []
  isGenerated : Bool := false
deriving Inhabited

namespace Method

/-- Whether a call needs arguments beyond the implicit class. -/
def hasParameters (m : Method) : Bool :=
  match m.kind with
  | .cls => 1 < m.parameters.length
  | _ => 0 < m.parameters.length

def returnsNothing (m : Method) : Bool :=
  match m.returns with
  | none => true
  | some (.constant .null) => true
  | some _ => false

end Method

end StateWeave
