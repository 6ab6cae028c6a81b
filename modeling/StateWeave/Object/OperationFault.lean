import StateWeave.Text.Cut

/-! Why an operation does not apply to the values it is given. Kinds of values stand in messages cut
to a number of bytes that depends on the operation. -/

namespace StateWeave

inductive OperationFault
  | notCallable (kind : String)
  | takesNoArguments (cls : String)
  | noClassGiven
  | tooManyGiven (count : Nat)
  | unexpectedKeyword (name : String)
  | givenTwice (function name : String)
  | notList (method kind : String)
  | nothingToAdd
  | noLength (kind : String)
  | noOperator (operator left right : String)
  | notConcatenable (kind other : String)
  | notIterable (kind : String)
  | notSubscriptable (kind : String)
  | classNotSubscriptable (cls : String)
  | notClass
  | notClassToTest
  | itemNotText (index : Nat) (kind : String)
  | noTable
  | notBelow
  | unboundUnit
  | unhashable (kind : String)
  /-- The code that says whether an object is true answers with something else. -/
  | noTruth (kind : String)
  | notInteger (kind : String)
deriving DecidableEq, Repr

namespace OperationFault

def marker : String := "_NeverReloadMarker.__call__()"

def message : OperationFault → String
  | .notCallable kind => "'" ++ Cut.octets 200 kind ++ "' object is not callable"
  | .takesNoArguments cls => Cut.octets 200 cls ++ "() takes no arguments"
  | .noClassGiven => marker ++ " missing 1 required positional argument: 'cls'"
  | .tooManyGiven count =>
    marker ++ " takes 2 positional arguments but " ++ toString count ++ " were given"
  | .unexpectedKeyword name => marker ++ " got an unexpected keyword argument '" ++ name ++ "'"
  | .givenTwice function name => function ++ " got multiple values for argument '" ++ name ++ "'"
  | .notList method kind =>
    "descriptor '" ++ method ++ "' for 'list' objects doesn't apply to a '" ++
      Cut.octets 100 kind ++ "' object"
  | .nothingToAdd => "list.append() takes exactly one argument (0 given)"
  | .noLength kind => "object of type '" ++ Cut.octets 200 kind ++ "' has no len()"
  | .noOperator operator left right =>
    "unsupported operand type(s) for " ++ operator ++ ": '" ++ Cut.octets 100 left ++ "' and '" ++
      Cut.octets 100 right ++ "'"
  | .notConcatenable kind other =>
    "can only concatenate " ++ kind ++ " (not \"" ++ Cut.octets 200 other ++ "\") to " ++ kind
  | .notIterable kind => "'" ++ Cut.octets 200 kind ++ "' object is not iterable"
  | .notSubscriptable kind => "'" ++ Cut.octets 200 kind ++ "' object is not subscriptable"
  | .classNotSubscriptable cls => "type '" ++ Cut.octets 200 cls ++ "' is not subscriptable"
  | .notClass => "issubclass() arg 1 must be a class"
  | .notClassToTest => "issubclass() arg 2 must be a class, a tuple of classes, or a union"
  | .itemNotText index kind =>
    "sequence item " ++ toString index ++ ": expected str instance, " ++ Cut.octets 80 kind ++
      " found"
  | .noTable => "vars() argument must have __dict__ attribute"
  | .notBelow => "super(type, obj): obj must be an instance or subtype of type"
  | .unboundUnit => "__get__(None, None) is invalid"
  | .unhashable kind => "unhashable type: '" ++ Cut.octets 200 kind ++ "'"
  | .noTruth kind => "__bool__ should return bool, returned " ++ kind
  | .notInteger kind =>
    "'" ++ Cut.octets 200 kind ++ "' object cannot be interpreted as an integer"

end OperationFault

end StateWeave
