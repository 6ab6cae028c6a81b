import StateWeave.Config
import StateWeave.Log

/-! What stops an analysis or a weave. -/

namespace StateWeave

inductive Fault
  | emptyWrapper
  | unresolvedParameters (parameters : List String) (path : String)
  /-- The order of a callback adds a whole number that no float comes near to. -/
  | orderOutOfRange
  | unwritable (why : Unwritable)
  /-- A warning about a zero value cannot show it. -/
  | unshown (why : ShowFault)
  /-- A unit refers to a generic class applied to something else than its own parameters. -/
  | otherInstantiation (unit path : String)
  /-- A unit refers to an instantiation that has no name where the unit stands. -/
  | outOfReach (unit home path : String)
  /-- A unit refers to a generic class without its parameters. -/
  | openGeneric (unit path : String)
  | noOwner
  | unknownInstruction (text : String)
  | importsRuntime (module runtime : String)
  | hasUnits (module path : String)
deriving DecidableEq, Repr, Inhabited

namespace Fault

def kind : Fault → String
  | .importsRuntime _ _ | .hasUnits _ _ => "AlreadyTransformedError"
  | .unresolvedParameters _ _ | .otherInstantiation _ _ | .outOfReach _ _ _ | .openGeneric _ _ =>
    "GenericContextError"
  | .emptyWrapper => "IndexError"
  | .orderOutOfRange => "OverflowError"
  | .unwritable why => why.kind
  | .unshown why => why.kind
  | .noOwner => "AttributeError"
  | .unknownInstruction _ => "TypeError"

def message? : Fault → Option String
  | .orderOutOfRange | .unwritable _ => none
  | .unshown why => some why.message
  | .emptyWrapper => some "list index out of range"
  | .unresolvedParameters parameters path =>
    some ("Cannot resolve type parameter(s) " ++ Source.commaSeparated parameters ++ " of " ++ path)
  | .otherInstantiation unit path =>
    some (unit ++ " references a non-identity instantiation of " ++ path)
  | .outOfReach unit home path =>
    some (unit ++ " of " ++ home ++ " cannot reach the instantiation of " ++ path)
  | .openGeneric unit path =>
    some (unit ++ " references a member of open generic " ++ path ++ " without its type parameters")
  | .noOwner => some "'NoneType' object has no attribute 'has_generic_parameters'"
  | .unknownInstruction text => some ("Unknown instruction: " ++ Quoted.text text)
  | .importsRuntime module runtime =>
    some ("Module " ++ module ++ " already imports " ++ runtime)
  | .hasUnits module path => some (module ++ "." ++ path ++ " already has generated units")

end Fault

/-- A computation that writes log records and may stop at a fault; the records stay. -/
abbrev Logged := ExceptT Fault (StateM (List LogRecord))

namespace Logged

variable {α : Type}

def fail (fault : Fault) : Logged α :=
  throw fault

def log (level : LogLevel) (source : LogSource) (message : String) : Logged Unit :=
  fun records => (.ok (), records ++ [⟨level, source, message⟩])

def lift : Except Fault α → Logged α
  | .ok a => pure a
  | .error fault => throw fault

def run (x : Logged α) : Except Fault α × List LogRecord :=
  ExceptT.run x []

end Logged

end StateWeave
