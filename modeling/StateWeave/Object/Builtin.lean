import StateWeave.Object.Hierarchy

/-! The classes that come with the language, numbered from 0, and the members that every class has
from them. -/

namespace StateWeave

/-- The attribute that says what subscripting a class does. -/
def subscriptionName : String := "__class_getitem__"

def variablesName : String := "__parameters__"

namespace Builtin

def int : Nat := 0
def str : Nat := 1
def float : Nat := 2
def bool : Nat := 3
def list : Nat := 4
def dict : Nat := 5
def bytes : Nat := 6

def generic : Nat := 7

def object : Nat := 8

def type : Nat := 9

def tracingType : Nat := 10

def data : List Nat := [int, str, float, list, dict, bytes]

def rootMembers : List String :=
  ["__new__", "__repr__", "__hash__", "__str__", "__getattribute__", "__setattr__",
    "__delattr__", "__lt__", "__le__", "__eq__", "__ne__", "__gt__", "__ge__", "__init__",
    "__reduce_ex__", "__reduce__", "__getstate__", "__format__", "__sizeof__", "__dir__"]

/-- The members of the root class that are bound anew to every class they are read from. -/
def boundMembers : List String :=
  ["__subclasshook__", "__init_subclass__"]

def typeMembers : List String :=
  ["__call__", "mro", "__subclasses__", "__prepare__", "__instancecheck__", "__subclasscheck__",
    "__or__", "__ror__"]

def plain (id : Nat) (name : String) (own : List (String × Value)) : ClassObject where
  name := name
  qualname := name
  bases := [object]
  order := [id, object]
  own := ⟨("__module__", .text "builtins") :: own⟩
  layout := { base := object, solid := id, shape := id }
  isBuiltin := true

def sized (c : ClassObject) : ClassObject :=
  { c with layout := { c.layout with isSized := true } }

def classes : List ClassObject :=
  [sized (plain int "int" []), plain str "str" [], plain float "float" [],
    { plain bool "bool" [] with
      bases := [int], order := [bool, int, object], isFinal := true
      layout := { base := int, solid := int, shape := int, isSized := true } },
    plain list "list" [(subscriptionName, .subscription .alias)],
    plain dict "dict" [(subscriptionName, .subscription .alias)], sized (plain bytes "bytes" []),
    { plain generic "Generic" [] with
      own := ⟨[("__module__", .text "typing"), ("__slots__", .tuple []),
        ("_is_protocol", .bool false), (subscriptionName, .subscription .generic)]⟩
      layout := { base := object, solid := object, shape := object } },
    { plain object "object" [] with
      bases := [], order := [object]
      own := ⟨("__module__", .text "builtins") ::
        (rootMembers ++ boundMembers).map fun m => (m, .ref (.member m))⟩ },
    plain type "type" [],
    { plain tracingType "TracingType" [] with
      bases := [type], order := [tracingType, type, object], isBuiltin := false }]

end Builtin

end StateWeave
