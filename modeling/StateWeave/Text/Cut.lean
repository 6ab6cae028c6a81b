/-! Texts cut to a number of bytes, counted in UTF-8. A character that fits only in part leaves a
replacement character. -/

namespace StateWeave.Cut

def fitting : Nat → List Char → List Char
  | _, [] => []
  | n, c :: cs =>
    if n = 0 then []
    else if c.utf8Size ≤ n then c :: fitting (n - c.utf8Size) cs
    else ['\ufffd']

def octets (n : Nat) (s : String) : String :=
  String.ofList (fitting n s.toList)

end StateWeave.Cut
