/-! Private and reserved member names. A member whose name opens with two underscores and does not
end in two is private to its class: it is stored under a name that carries the class. -/

namespace StateWeave

def opensPrivate (name : String) : Bool :=
  ['_', '_'].isPrefixOf name.toList

def closesReserved (name : String) : Bool :=
  ['_', '_'].isSuffixOf name.toList

def isDunder (name : String) : Bool :=
  4 < name.length && opensPrivate name && closesReserved name

/-- The attribute that a member `name` of the class `cls` is stored under. -/
def mangle (cls name : String) : String :=
  if !opensPrivate name || closesReserved name || name.toList.contains '.' then name
  else match cls.toList.dropWhile (· == '_') with
    | [] => name
    | stripped => "_" ++ String.ofList stripped ++ name

/-- The attribute that holds the value of a static property; it ends in two underscores, so it is
never private. -/
def backingName (property : String) : String :=
  property ++ "__backing__"

end StateWeave
