/-! Whole numbers among the texts of floats. A float is written with the fewest digits that read
back, so above 2^53 the digits only stand for the number: the number itself has 53 significant
bits. -/

namespace StateWeave.Decimal

def ofDigits (cs : List Char) : Nat :=
  cs.foldl (fun n c => n * 10 + (c.toNat - '0'.toNat)) 0

/-- Rounds to 53 significant bits; a tie goes to the even neighbour. -/
def round53 (n : Nat) : Nat :=
  if n < Nat.pow 2 53 then n
  else
    let step := Nat.pow 2 (n.log2 - 52)
    let down := n / step
    let rest := n % step
    if 2 * rest < step || (2 * rest = step && down % 2 = 0) then down * step
    else (down + 1) * step

def scaled? (digits : Nat) : Int → Option Nat
  | .ofNat e => some (digits * Nat.pow 10 e)
  | .negSucc e =>
    let step := Nat.pow 10 (e + 1)
    if digits % step = 0 then some (digits / step) else none

def exponent : List Char → Int
  | '-' :: cs => -(ofDigits cs : Int)
  | '+' :: cs => ofDigits cs
  | cs => ofDigits cs

def natural? (cs : List Char) : Option Nat :=
  let mantissa := cs.takeWhile (· != 'e')
  let whole := mantissa.takeWhile (· != '.')
  let fraction := (mantissa.dropWhile (· != '.')).drop 1
  let shift := exponent ((cs.dropWhile (· != 'e')).drop 1) - fraction.length
  if (whole ++ fraction).all (·.isDigit) then
    (scaled? (ofDigits (whole ++ fraction)) shift).map round53
  else none

/-- The whole number that a float text stands for, if it stands for one. -/
def integer? (text : String) : Option Int :=
  match text.toList with
  | '-' :: cs => (natural? cs).map fun n => -(n : Int)
  | cs => (natural? cs).map Int.ofNat

end StateWeave.Decimal
