import StateWeave.Class.Basic

/-! The inventory of a class: which of its storage a reload resets. -/

namespace StateWeave

def optedOut (markers : List Marker) : Bool :=
  Marker.carries .neverReload markers

/-- Removes the first field with this name, but only if it is generated. -/
def removeGenerated (name : String) : List Field → List Field
  | [] => []
  | f :: fs =>
    if f.name == name then (if f.isGenerated then fs else f :: fs)
    else f :: removeGenerated name fs

namespace Property

/-- An accessor that is known not to be static rules a property out. -/
def isStatic (p : Property) : Bool :=
  p.getterStatic != some false && p.setterStatic != some false

end Property

def Event.isStatic (e : Event) : Bool :=
  e.addStatic && e.removeStatic

namespace ClassModel

/-- Names of the generated storage of opted-out static properties and events. -/
def retainedStorage (c : ClassModel) : List String :=
  (c.properties.filter fun p => p.isStatic && optedOut p.markers).map
      (fun p => backingName (mangle c.name p.name))
    ++ (c.events.filter fun e => e.isStatic && optedOut e.markers).map (·.name)

/-- The storage a reload resets: every static field that is not opted out, less the generated
storage of each opted-out property and event. -/
def inventory (c : ClassModel) : List Field :=
  c.retainedStorage.foldl (fun fs name => removeGenerated name fs)
    (c.fields.filter fun f => f.isStatic && !optedOut f.markers)

/-- Names whose declarations a reload does not replay, since their storage keeps its value. -/
def optedOutNames (c : ClassModel) : List String :=
  ((c.fields.filter fun f => !f.isGenerated && optedOut f.markers).map (·.name)
    ++ (c.properties.filter fun p => optedOut p.markers).map (·.name)
    ++ (c.events.filter fun e => optedOut e.markers).map (·.name)).eraseDups

/-- Whether stores to `name` are dropped from a reload. -/
def retains (c : ClassModel) (name : String) : Bool :=
  c.optedOutNames.contains name

end ClassModel

end StateWeave
