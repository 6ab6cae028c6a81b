import StateWeave.Class.Member
import StateWeave.Text.Dotted
import StateWeave.Tree.Stmt

/-! Class models: what is known of a class statement apart from the classes nested in it. -/

namespace StateWeave

structure ClassModel where
  /-- Place of the statement: its number among the classes read beside it, below the places of the
  classes around it. No two classes of a module share one. -/
  place : List Nat := []
  outer : List String := []
  name : String
  isEnum : Bool := false
  typeParams : List TypeParam := []
  markers : List Marker := []
  fields : List Field := []
  properties : List Property := []
  events : List Event := []
  methods : List Method := []
  initializer : List (Nat × Stmt) := []
  /-- Every name that the body binds as a class attribute. -/
  scopeNames : List String := []
deriving Inhabited

namespace ClassModel

def path (c : ClassModel) : List String :=
  c.outer ++ [c.name]

def lexicalPath (c : ClassModel) : String :=
  Dotted.join c.path

def isGeneric (c : ClassModel) : Bool :=
  !c.typeParams.isEmpty

def describe (c : ClassModel) : String :=
  "<TypeDefinition " ++ c.lexicalPath ++ ">"

def inScope (c : ClassModel) (name : String) : Bool :=
  c.scopeNames.contains name

def addScope (c : ClassModel) (names : List String) : ClassModel :=
  { c with scopeNames := (c.scopeNames ++ names).eraseDups }

end ClassModel

end StateWeave
