import StateWeave.Table
import StateWeave.Tree.Source

/-! Settings of weaving and reloading. -/

namespace StateWeave

inductive ShowFault
  | tooManyDigits
  | raised (kind message : String)
deriving DecidableEq, Repr, Inhabited

namespace ShowFault

def kind : ShowFault → String
  | .tooManyDigits => "ValueError"
  | .raised kind _ => kind

def message : ShowFault → String
  | .tooManyDigits => Written.digitsMessage
  | .raised _ message => message

end ShowFault

/-- What a table of zero values may hold; only the literals among it can be stored by generated
code. Lists and tuples show their items; every other object is known by how it shows itself, which
may fail. Left out are literals that are instances of a class of their own, such as the members of an
enum of whole numbers. -/
inductive Datum
  | constant (value : Constant)
  | list (items : List Datum)
  | tuple (items : List Datum)
  | object (shown : Except ShowFault String)

instance : Inhabited Datum := ⟨.constant .null⟩

namespace Datum

def literal? : Datum → Option Constant
  | .constant .ellipsis => none
  | .constant value => some value
  | _ => none

mutual

def shown : Datum → Except ShowFault String
  | .constant value => match value.shown? with
    | some text => .ok text
    | none => .error .tooManyDigits
  | .list items => do return "[" ++ Source.commaSeparated (← shownList items) ++ "]"
  | .tuple items => do return "(" ++ Source.tupleItems (← shownList items) ++ ")"
  | .object shown => shown

def shownList : List Datum → Except ShowFault (List String)
  | [] => .ok []
  | d :: ds => do return (← d.shown) :: (← shownList ds)

end

end Datum

/-- Zero values by annotation name. -/
abbrev ZeroTable := Table String Datum

/-- Numbers reset to zero; everything that is not listed resets to nothing. -/
def ZeroTable.standard : ZeroTable :=
  ⟨[("int", .constant (.int 0)), ("float", .constant (.float "0.0")),
    ("complex", .constant (.complex "0.0" "0.0")), ("bool", .constant (.bool false))]⟩

structure Config where
  runtimeModule : String := "typereload.runtime"
  runtimeAlias : String := "__typereload__"
  zeroValues : ZeroTable := ZeroTable.standard
  /-- Whether a reload collects garbage between unloading and loading. -/
  collectGarbage : Bool := true
deriving Inhabited

structure Settings where
  runtimeModule : Option String := none
  runtimeAlias : Option String := none
  zeroValues : Option ZeroTable := none
  collectGarbage : Option Bool := none
deriving Inhabited

def Config.update (c : Config) (s : Settings) : Config where
  runtimeModule := s.runtimeModule.getD c.runtimeModule
  runtimeAlias := s.runtimeAlias.getD c.runtimeAlias
  zeroValues := s.zeroValues.getD c.zeroValues
  collectGarbage := s.collectGarbage.getD c.collectGarbage

end StateWeave
