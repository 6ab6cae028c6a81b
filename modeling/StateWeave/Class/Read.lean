import StateWeave.Class.Annot
import StateWeave.Class.Binding
import StateWeave.Class.Signature
import StateWeave.Class.Tree

/-! Class models read from class statements. Only classes of the module and of class bodies are
read. An enum is recorded but its body is not read, since its members cannot be bound anew; its name
makes later classes that derive from it enums too. -/

namespace StateWeave

namespace ClassModel

def implicitNames : List String :=
  ["__module__", "__qualname__"]

def ofHeader (place : List Nat) (outer : List String) (h : ClassHeader)
    (typeParams : List TypeParam) : ClassModel where
  place := place
  outer := outer
  name := h.name
  typeParams := typeParams
  markers := Marker.ofExprs h.decorators
  scopeNames := implicitNames

/-- A further declaration of storage completes the first one. -/
def mergeInto (annot : Option Expr) (markers : List Marker) (f : Field) : Field :=
  { f with annot := f.annot.or annot, markers := f.markers ++ markers }

def updateFirst (name : String) (g : Field → Field) : List Field → List Field
  | [] => []
  | f :: fs => if f.name == name then g f :: fs else f :: updateFirst name g fs

def findField? (c : ClassModel) (name : String) : Option Field :=
  c.fields.find? (·.name == name)

/-- Declares storage. Declared storage and generated storage of one name stay apart. -/
def addField (c : ClassModel) (f : Field) : ClassModel :=
  match c.findField? f.name with
  | some existing =>
    if existing.isGenerated == f.isGenerated then
      { c with fields := updateFirst f.name (mergeInto f.annot f.markers) c.fields }
    else { c with fields := c.fields ++ [f] }
  | none => { c with fields := c.fields ++ [f] }

def declareField (c : ClassModel) (name : String) (annot : Option Expr) (markers : List Marker) :
    ClassModel :=
  c.addField { name, runtimeName := mangle c.name name, annot, markers }

def addProperty (c : ClassModel) (name : String) (annot : Option Expr) (markers : List Marker) :
    ClassModel :=
  let backing := backingName (mangle c.name name)
  let p : Property := { name, markers, getterStatic := some true, setterStatic := some true }
  let f : Field := { name := backing, runtimeName := backing, annot, isGenerated := true }
  (({ c with properties := c.properties ++ [p] } : ClassModel).addField f).addScope [name]

def addEvent (c : ClassModel) (name : String) (annot : Option Expr) (markers : List Marker) :
    ClassModel :=
  let f : Field := { name, runtimeName := mangle c.name name, annot, isGenerated := true }
  (({ c with events := c.events ++ [{ name, markers }] } : ClassModel).addField f).addScope [name]

/-- Accessors of `property` objects take an instance, so they are never static. -/
def readAccessor (h : FunctionHeader) (ps : List Property) (decorator : Expr) : List Property :=
  if decorator.terminalName = some "property" then
    ps ++ [{ name := h.name, markers := Marker.ofExprs h.decorators, getterStatic := some false }]
  else match decorator with
    | .attribute value attr _ =>
      if attr = "setter" || attr = "deleter" then
        ps.map fun p =>
          if value.terminalName = some p.name then { p with setterStatic := some false } else p
      else ps
    | _ => ps

def addFunction (c : ClassModel) (h : FunctionHeader) : ClassModel :=
  ({ c with
    methods := c.methods ++ [h.method]
    properties := h.decorators.foldl (readAccessor h) c.properties } : ClassModel).addScope [h.name]

def addStatement (c : ClassModel) (index : Nat) (s : Stmt) : ClassModel :=
  { c with initializer := c.initializer ++ [(index, s)] }

/-- A declaration `x: T` without a value is storage only under `ClassVar`. -/
def readDeclared (c : ClassModel) (name : String) (annot : Option Expr) :
    Except Fault ClassModel := do
  if (← Annot.isClassVarOf annot) && !isDunder name then
    return (c.declareField name annot (← Annot.markersOf annot)).addScope [name]
  else return c

/-- A statement that stores is class state, unless all it binds are dunder names. The annotation
belongs to the one name it stands beside. -/
def readStores (c : ClassModel) (index : Nat) (s : Stmt) : Except Fault ClassModel := do
  let names := s.bindings
  let stored := (Binding.stores names).filter (!isDunder ·)
  if stored.isEmpty && !(Binding.stores names).isEmpty && (Binding.declarations names).isEmpty then
    return c
  let target := s.singleTarget?
  let annot := target.bind (·.annot)
  let markers ← Annot.markersOf annot
  let declare (c : ClassModel) (name : String) : ClassModel :=
    if target.any (·.name == name) then c.declareField name annot markers
    else c.declareField name none []
  return ((stored.foldl declare c).addScope
    (Binding.stores names ++ Binding.declarations names)).addStatement index s

def readState (c : ClassModel) (index : Nat) (s : Stmt) : Except Fault ClassModel :=
  match s.singleTarget? with
  | none => c.readStores index s
  | some ⟨name, annot, none⟩ => c.readDeclared name annot
  | some ⟨name, annot, some value⟩ => match Declaration.ofExpr? value with
    | none => c.readStores index s
    | some .property => do
      return (c.addProperty name annot (← Annot.markersOf annot)).addStatement index s
    | some .event => do
      return (c.addEvent name annot (← Annot.markersOf annot)).addStatement index s

/-- Storage that statements name under the name of generated storage is that storage. -/
def dropShadowed (c : ClassModel) : ClassModel :=
  let declared := (c.fields.filter (!·.isGenerated)).map (·.name)
  { c with fields := c.fields.filter fun f => !(f.isGenerated && declared.contains f.name) }

end ClassModel

namespace ClassTree

def ofHeader (place : List Nat) (outer : List String) (h : ClassHeader)
    (typeParams : List TypeParam) : ClassTree :=
  ⟨.ofHeader place outer h typeParams, []⟩

def addNested (t n : ClassTree) : ClassTree :=
  ⟨t.cls.addScope [n.cls.name], t.nested ++ [n]⟩

/-- Reads a class statement, given the enums known so far and how to read its body; returns the
enums known after it. -/
def readWith (place : List Nat) (outer enums : List String) (h : ClassHeader)
    (body : ClassTree → Except Fault (ClassTree × List String)) :
    Except Fault (ClassTree × List String) := do
  let typeParams ← h.typeParameters
  if h.isEnum enums then
    return (⟨{ ClassModel.ofHeader place outer h typeParams with isEnum := true }, []⟩,
      h.name :: enums)
  else
    let (t, enums) ← body (ofHeader place outer h typeParams)
    return (⟨t.cls.dropShadowed, t.nested⟩, enums)

mutual

def readStmt (t : ClassTree) (enums : List String) (index : Nat) :
    Stmt → Except Fault (ClassTree × List String)
  | .classDef h body => do
    let (n, enums) ← readWith (t.cls.place ++ [t.nested.length]) t.cls.path enums h
      fun n => readBody n enums 0 body
    return (t.addNested n, enums)
  | .functionDef h _ => .ok (⟨t.cls.addFunction h, t.nested⟩, enums)
  | .imports source names =>
    let declared := Binding.declarations (Stmt.imports source names).bindings
    .ok (⟨t.cls.addScope declared, t.nested⟩, enums)
  | s =>
    if s.isDocstring index || s.isNoop then .ok (t, enums)
    else do return (⟨← t.cls.readState index s, t.nested⟩, enums)

def readBody (t : ClassTree) (enums : List String) (index : Nat) :
    List Stmt → Except Fault (ClassTree × List String)
  | [] => .ok (t, enums)
  | s :: rest => do
    let (t, enums) ← readStmt t enums index s
    readBody t enums (index + 1) rest

end

def read (place : List Nat) (outer enums : List String) (h : ClassHeader) (body : Block) :
    Except Fault (ClassTree × List String) :=
  readWith place outer enums h fun t => readBody t enums 0 body

end ClassTree

namespace ModuleModel

def readClasses (enums : List String) (place : Nat) : Block → Except Fault (List ClassTree)
  | [] => .ok []
  | .classDef h body :: rest => do
    let (t, enums) ← ClassTree.read [place] [] enums h body
    return t :: (← readClasses enums (place + 1) rest)
  | _ :: rest => readClasses enums place rest

def read (name : String) (tree : Block) : Except Fault ModuleModel := do
  return ⟨name, ← readClasses [] 0 tree⟩

end ModuleModel

end StateWeave
