/-! What cannot be written out. -/

namespace StateWeave

inductive Unwritable
  | tooManyDigits
  /-- What stands between the braces of a formatted text needs a backslash. -/
  | backslash
  /-- A part of a formatted text is neither a text nor stands between braces. -/
  | strayPart
  | conversion (mark : Option Int)
deriving DecidableEq, Repr, Inhabited

namespace Unwritable

/-- The name of the kind of failure. Only numbers of a machine can mean characters. -/
def kind : Unwritable → String
  | .tooManyDigits | .backslash | .strayPart => "ValueError"
  | .conversion none => "TypeError"
  | .conversion (some n) =>
    if -(Nat.pow 2 31 : Int) ≤ n ∧ n < Nat.pow 2 31 then "ValueError" else "OverflowError"

end Unwritable

/-- The text of something, if it has one. -/
abbrev Written := Except Unwritable String

namespace Written

def fits : Nat → Nat → Bool
  | 0, n => n == 0
  | count + 1, n => n == 0 || fits count (n / 10)

/-- How many digits are written at most. -/
def digitLimit : Nat := 4300

def ofInt? (n : Int) : Option String :=
  if fits digitLimit n.natAbs then some (toString n) else none

def digitsMessage : String :=
  "Exceeds the limit (4300 digits) for integer string conversion; " ++
    "use sys.set_int_max_str_digits() to increase the limit"

def all : List Written → Except Unwritable (List String)
  | [] => .ok []
  | w :: ws => do return (← w) :: (← all ws)

/-- The texts one after the other, or nothing written of them. -/
def join (ws : List Written) : Written := do
  return String.join (← all ws)

end Written

end StateWeave
