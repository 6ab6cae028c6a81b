import StateWeave.Object.Builtin
import StateWeave.Object.ClassFault
import StateWeave.Text.Identifier

/-! How the instances of a class are laid out. A class may name the slots its instances have beside
those of its bases; without such a list they get a table for attributes of any name. -/

namespace StateWeave.Hierarchy

variable (h : Hierarchy)

def bestBase (bases : List Nat) : Except ClassFault Nat :=
  bases.foldlM (fun best b =>
    let x := h.classAt b
    let solid := (h.classAt best).layout.solid
    if x.isFinal then .error (.finalBase x.name)
    else if h.isSubclass solid x.layout.solid then .ok best
    else if h.isSubclass x.layout.solid solid then .ok b
    else .error .layoutConflict) (bases.headD Builtin.object)

/-- What a class is laid out like that lists no slots. A table does not fit into what has a size of
its own, so that it makes another layout there. -/
def openLayout (id base : Nat) : Layout :=
  let b := (h.classAt base).layout
  let hasWeakLink := b.hasWeakLink || !b.isSized
  { base, isSized := b.isSized, hasTable := true, hasWeakLink
    solid := if b.isSized && !b.hasTable then id else b.solid
    shape := if b.hasTable && hasWeakLink == b.hasWeakLink then b.shape else id }

structure SlotList where
  names : List String := []
  hasTable : Bool := false
  hasWeakLink : Bool := false

namespace SlotList

/-- Adds a slot; the two that stand for a table and for weak references are no names. -/
def add (found : SlotList) (b : Layout) (name : String) : Except ClassFault SlotList :=
  if !Identifier.isValid name then .error .slotNotIdentifier
  else if name = "__dict__" then
    if b.hasTable || found.hasTable then .error .secondTable
    else .ok { found with hasTable := true }
  else if name = "__weakref__" then
    if b.hasWeakLink || b.isSized || found.hasWeakLink then .error .secondWeakLink
    else .ok { found with hasWeakLink := true }
  else .ok { found with names := found.names ++ [name] }

end SlotList

def slotLayout (id base : Nat) (bases : List Nat) (cls : String) (own : Table String Value)
    (slots : List (Except ClassFault String)) : Except ClassFault Layout := do
  let b := (h.classAt base).layout
  if !slots.isEmpty && b.isSized then throw (.slotsUnder (h.classAt base).name)
  let found ← slots.foldlM (fun (found : SlotList) slot => slot.bind (found.add b)) {}
  let names := found.names.map (mangle cls ·)
  match names.find? own.contains with
  | some name => throw (.slotTaken name)
  | none => pure ()
  let others := bases.map fun c => (h.classAt c).layout
  let hasTable := found.hasTable || others.any (·.hasTable)
  let hasWeakLink := found.hasWeakLink || others.any (·.hasWeakLink)
  let isSame := names.isEmpty && hasTable == b.hasTable && hasWeakLink == b.hasWeakLink
  return {
    base, slots := names.mergeSort fun x y => x ≤ y, isSized := b.isSized, hasTable, hasWeakLink
    solid := if names.isEmpty && !(b.isSized && hasTable && !b.hasTable) then b.solid else id
    shape := if isSame then b.shape else id }

def haveSameLayout (c d : Nat) : Bool :=
  let a := (h.classAt c).layout.shape
  let b := (h.classAt d).layout.shape
  let x := h.classAt a
  let y := h.classAt b
  a == b || (!x.isBuiltin && !y.isBuiltin && x.layout.base == y.layout.base &&
    x.layout.slots == y.layout.slots && x.layout.hasTable == y.layout.hasTable &&
    x.layout.hasWeakLink == y.layout.hasWeakLink)

def switchClass (i new : Nat) : Except AttributeFault Hierarchy :=
  let old := (h.instanceAt i).cls
  if (h.classAt old).isBuiltin || (h.classAt new).isBuiltin then .error .classFixed
  else if h.haveSameLayout new old then .ok (h.modifyInstance i ({ · with cls := new }))
  else .error (.otherLayout "__class__" (h.classAt new).name (h.classAt old).name)

end StateWeave.Hierarchy
