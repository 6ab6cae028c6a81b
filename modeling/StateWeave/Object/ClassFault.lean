import StateWeave.Text.Cut
import StateWeave.Text.Quoted

/-! Why a class cannot be created. -/

namespace StateWeave

inductive ClassFault
  | finalBase (cls : String)
  | layoutConflict
  | otherMetaclass
  | notIterable (kind : String)
  | slotNotText (kind : String)
  | slotNotIdentifier
  | slotsUnder (cls : String)
  | secondTable
  | secondWeakLink
  | slotTaken (name : String)
  | qualnameNotText (kind : String)
  | duplicateBase (cls : String)
  | noOrder (classes : List String)
deriving DecidableEq, Repr

namespace ClassFault

def kind : ClassFault → String
  | .slotTaken _ => "ValueError"
  | _ => "TypeError"

def orderMessageLimit : Nat := 999

def message : ClassFault → String
  | .finalBase cls => "type '" ++ Cut.octets 100 cls ++ "' is not an acceptable base type"
  | .layoutConflict => "multiple bases have instance lay-out conflict"
  | .otherMetaclass =>
    "metaclass conflict: the metaclass of a derived class must be a (non-strict) subclass of " ++
      "the metaclasses of all its bases"
  | .notIterable kind => "'" ++ Cut.octets 200 kind ++ "' object is not iterable"
  | .slotNotText kind => "__slots__ items must be strings, not '" ++ Cut.octets 200 kind ++ "'"
  | .slotNotIdentifier => "__slots__ must be identifiers"
  | .slotsUnder cls => "nonempty __slots__ not supported for subtype of '" ++ cls ++ "'"
  | .secondTable => "__dict__ slot disallowed: we already got one"
  | .secondWeakLink =>
    "__weakref__ slot disallowed: either we already got one, or __itemsize__ != 0"
  | .slotTaken name => Quoted.text name ++ " in __slots__ conflicts with class variable"
  | .qualnameNotText kind => "type __qualname__ must be a str, not " ++ kind
  | .duplicateBase cls => "duplicate base class " ++ cls
  | .noOrder classes =>
    Cut.octets orderMessageLimit
      ("Cannot create a consistent method resolution\norder (MRO) for bases " ++
        String.intercalate ", " classes)

end ClassFault

end StateWeave
