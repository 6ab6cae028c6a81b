import StateWeave.Text.Cut
import StateWeave.Text.Quoted

/-! Why type variables or type arguments cannot be used the way they are given. -/

namespace StateWeave

inductive TypingFault
  | noVariables
  | notVariables
  | repeatedVariables
  /-- A class statement lists its type variables more than once. -/
  | listedTwice
  | notGeneric (cls : String)
  | wrongNumber (target : String) (actual expected : Nat)
  | noArgumentLeft (cls : String)
  | notType (shown : String)
  | notExpression (text : String)
  | variablesNotIterable (kind : String)
deriving DecidableEq, Repr

namespace TypingFault

def kind : TypingFault → String
  | .notExpression _ => "SyntaxError"
  | _ => "TypeError"

def message : TypingFault → String
  | .noVariables => "Parameter list to Generic[...] cannot be empty"
  | .notVariables =>
    "Parameters to Generic[...] must all be type variables or parameter specification variables."
  | .repeatedVariables => "Parameters to Generic[...] must all be unique"
  | .listedTwice => "Cannot inherit from Generic[...] multiple types."
  | .notGeneric cls => cls ++ " is not a generic class"
  | .wrongNumber target actual expected =>
    "Too " ++ (if expected < actual then "many" else "few") ++ " arguments for " ++ target ++
      "; actual " ++ toString actual ++ ", expected " ++ toString expected
  | .noArgumentLeft cls => "Too few arguments for " ++ cls
  | .notType shown =>
    let start := String.ofList (shown.toList.take 100)
    "Parameters to generic types must be types. Got " ++ start ++ "."
  | .notExpression text =>
    "Forward reference must be an expression -- got " ++ Quoted.text text
  | .variablesNotIterable kind => "'" ++ Cut.octets 200 kind ++ "' object is not iterable"

end TypingFault

end StateWeave
