/-! Literal values and the operators of the syntax tree. Floats keep their canonical text, since
nothing here computes with them. -/

namespace StateWeave

inductive Constant
  | null
  | ellipsis
  | bool (value : Bool)
  | int (value : Int)
  | float (text : String)
  | complex (re im : String)
  | str (text : String)
  | bytes (octets : List UInt8)
deriving DecidableEq, Repr, Inhabited

inductive Ctx
  | load | store | del
deriving DecidableEq, Repr, Inhabited

inductive BoolOp
  | and | or
deriving DecidableEq, Repr, Inhabited

inductive BinOp
  | add | sub | mult | matMult | div | mod | pow | lShift | rShift | bitOr | bitXor | bitAnd
  | floorDiv
deriving DecidableEq, Repr, Inhabited

inductive UnaryOp
  | invert | not | plus | minus
deriving DecidableEq, Repr, Inhabited

inductive CmpOp
  | eq | notEq | lt | ltE | gt | gtE | is | isNot | isIn | notIn
deriving DecidableEq, Repr, Inhabited

end StateWeave
