/-! Identifiers: letters, digits and underscores, with no digit in front. Every character beyond
ASCII counts as a letter. -/

namespace StateWeave.Identifier

def isLetter (c : Char) : Bool :=
  c.isAlpha || c = '_' || 0x80 ≤ c.toNat

def isValid (s : String) : Bool :=
  match s.toList with
  | [] => false
  | c :: cs => isLetter c && cs.all fun d => isLetter d || d.isDigit

end StateWeave.Identifier
