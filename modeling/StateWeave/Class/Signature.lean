import StateWeave.Class.Member
import StateWeave.Fault
import StateWeave.Tree.Stmt

/-! What the headers of classes and functions say: type parameters, kinds of methods, enums. -/

namespace StateWeave

namespace TypeParam

/-- An unpacked item stands for what it unpacks. -/
def unpacked : Expr → Expr
  | .starred value _ => value
  | .subscript value index ctx =>
    if value.terminalName = some "Unpack" then index else .subscript value index ctx
  | e => e

/-- Only a plain name can be resolved; anything else is known by its source text. -/
def ofExpr (e : Expr) : Except Fault TypeParam :=
  match unpacked e with
  | .name id _ => .ok ⟨id, true⟩
  | e => match e.source with
    | .ok text => .ok ⟨text, false⟩
    | .error why => .error (.unwritable why)

def ofExprs : List Expr → Except Fault (List TypeParam)
  | [] => .ok []
  | e :: es => do return (← ofExpr e) :: (← ofExprs es)

def itemsOfBase? : Expr → Option (List Expr)
  | .subscript value index _ =>
    if value.terminalName = some "Generic" || value.terminalName = some "Protocol" then
      some index.items
    else none
  | _ => none

def declared (names : List String) : List TypeParam :=
  names.map (⟨·, true⟩)

end TypeParam

namespace FunctionHeader

def decoratorNames (h : FunctionHeader) : List String :=
  h.decorators.filterMap (·.callee.terminalName)

def kind (h : FunctionHeader) : MethodKind :=
  if h.decoratorNames.contains "staticmethod" then .static
  else if h.decoratorNames.contains "classmethod" then .cls
  else if h.params.names.isEmpty then .plain
  else .perObject

def method (h : FunctionHeader) : Method where
  name := h.name
  kind := h.kind
  parameters := h.params.names
  returns := h.returns
  typeParams := TypeParam.declared h.typeParams
  isAsync := h.isAsync
  markers := Marker.ofExprs h.decorators
  isGenerated := Marker.carries .generated (Marker.ofExprs h.decorators)

end FunctionHeader

namespace ClassHeader

/-- Parameters declared in the header come before those listed by a base class. -/
def typeParameters (h : ClassHeader) : Except Fault (List TypeParam) :=
  if h.typeParams.isEmpty then
    TypeParam.ofExprs ((h.bases.findSome? TypeParam.itemsOfBase?).getD [])
  else .ok (TypeParam.declared h.typeParams)

def namesEnum (name : String) : Bool :=
  "Enum".toList.isSuffixOf name.toList || "Flag".toList.isSuffixOf name.toList

def namesEnumMeta (name : String) : Bool :=
  "EnumMeta".toList.isSuffixOf name.toList || "EnumType".toList.isSuffixOf name.toList

/-- Whether a base is an enum by its name, or one of the classes in `enums`. -/
def hasEnumBase (enums : List String) (h : ClassHeader) : Bool :=
  h.bases.any fun base => base.terminalName.any fun name => namesEnum name || enums.contains name

def hasEnumMeta (h : ClassHeader) : Bool :=
  h.keywords.any fun k => k.arg == some "metaclass" && k.value.terminalName.any namesEnumMeta

def isEnum (enums : List String) (h : ClassHeader) : Bool :=
  h.hasEnumBase enums || h.hasEnumMeta

end ClassHeader

end StateWeave
