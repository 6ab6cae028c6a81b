import StateWeave.Text.Cut
import StateWeave.Text.Quoted

/-! Why an attribute cannot be read, written or deleted, and how messages say it. Names stand in
messages as they are; names of classes are cut to a number of bytes that depends on the rule. -/

namespace StateWeave

inductive AttributeFault
  | missingOnClass (cls attr : String)
  | missing (kind attr : String)
  | noRoom (kind attr : String)
  | readOnly (kind attr : String)
  /-- A slot that holds nothing. -/
  | emptySlot (kind attr : String)
  | deletesEmptySlot (attr : String)
  | unboundRead
  | unboundWrite
  | noDelete
  | immutable (cls attr : String)
  | endless
  -- Attributes with rules of their own
  | notText (cls attr kind : String)
  | notDeletable (cls attr : String)
  | fixed
  | notWritable (attr kind : String)
  | unset (attr : String)
  | deletesClass
  | classNotClass (kind : String)
  | classFixed
  | otherLayout (attr new old : String)
  | otherStorage (attr new old : String)
  | tableNotTable (kind : String)
  | basesNotTuple (cls kind : String)
  | noBases (cls : String)
  | baseNotClass (cls kind : String)
  | baseCycle
deriving DecidableEq, Repr

namespace AttributeFault

def kind : AttributeFault → String
  | .missingOnClass _ _ | .missing _ _ | .noRoom _ _ | .readOnly _ _ | .emptySlot _ _
  | .deletesEmptySlot _ | .unboundRead | .noDelete | .fixed | .notWritable _ _
  | .unset _ => "AttributeError"
  | .endless => "RecursionError"
  | .unboundWrite | .immutable _ _ | .notText _ _ _ | .notDeletable _ _ | .deletesClass
  | .classNotClass _ | .classFixed | .otherLayout _ _ _ | .otherStorage _ _ _ | .tableNotTable _
  | .basesNotTuple _ _ | .noBases _ | .baseNotClass _ _ | .baseCycle => "TypeError"

def message : AttributeFault → String
  | .missingOnClass cls attr =>
    "type object '" ++ Cut.octets 50 cls ++ "' has no attribute '" ++ attr ++ "'"
  | .missing kind attr => "'" ++ Cut.octets 50 kind ++ "' object has no attribute '" ++ attr ++ "'"
  | .noRoom kind attr => "'" ++ Cut.octets 100 kind ++ "' object has no attribute '" ++ attr ++ "'"
  | .readOnly kind attr =>
    "'" ++ Cut.octets 50 kind ++ "' object attribute '" ++ attr ++ "' is read-only"
  | .emptySlot kind attr =>
    "'" ++ Cut.octets 200 kind ++ "' object has no attribute '" ++ attr ++ "'"
  | .deletesEmptySlot attr => attr
  | .unboundRead => "static_property used outside a class body"
  | .unboundWrite => "attribute name must be string, not 'NoneType'"
  | .noDelete => "__delete__"
  | .immutable cls attr =>
    "cannot set " ++ Quoted.text attr ++ " attribute of immutable type '" ++ cls ++ "'"
  | .endless => "maximum recursion depth exceeded"
  | .notText cls attr kind =>
    "can only assign string to " ++ cls ++ "." ++ attr ++ ", not '" ++ kind ++ "'"
  | .notDeletable cls attr =>
    "cannot delete '" ++ attr ++ "' attribute of immutable type '" ++ cls ++ "'"
  | .fixed => "readonly attribute"
  | .notWritable attr kind =>
    "attribute '" ++ attr ++ "' of '" ++ Cut.octets 100 kind ++ "' objects is not writable"
  | .unset attr => attr
  | .deletesClass => "can't delete __class__ attribute"
  | .classNotClass kind => "__class__ must be set to a class, not '" ++ kind ++ "' object"
  | .classFixed => "__class__ assignment only supported for mutable types or ModuleType subclasses"
  | .otherLayout attr new old =>
    attr ++ " assignment: '" ++ new ++ "' object layout differs from '" ++ old ++ "'"
  | .otherStorage attr new old =>
    attr ++ " assignment: '" ++ new ++ "' deallocator differs from '" ++ old ++ "'"
  | .tableNotTable kind =>
    "__dict__ must be set to a dictionary, not a '" ++ Cut.octets 200 kind ++ "'"
  | .basesNotTuple cls kind =>
    "can only assign tuple to " ++ cls ++ ".__bases__, not " ++ kind
  | .noBases cls => "can only assign non-empty tuple to " ++ cls ++ ".__bases__, not ()"
  | .baseNotClass cls kind =>
    cls ++ ".__bases__ must be tuple of classes, not '" ++ kind ++ "'"
  | .baseCycle => "a __bases__ item causes an inheritance cycle"

end AttributeFault

end StateWeave
