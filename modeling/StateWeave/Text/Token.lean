import StateWeave.Text.Identifier

/-! The tokens of an expression that is written as text. -/

namespace StateWeave

inductive Token
  | name (text : String)
  | number
  | string
  | mark (text : String)
  /-- The end of a line outside of brackets. -/
  | lineEnd
deriving DecidableEq, Repr

namespace Token

def keywords : List String :=
  ["and", "as", "assert", "async", "await", "break", "class", "continue", "def", "del", "elif",
    "else", "except", "finally", "for", "from", "global", "if", "import", "in", "is", "lambda",
    "nonlocal", "not", "or", "pass", "raise", "return", "try", "while", "with", "yield"]

/-- Marks of more than one character, longer ones first. -/
def longMarks : List String :=
  ["...", "**", "//", "<<", ">>", "<=", ">=", "==", "!=", ":="]

def isNameChar (c : Char) : Bool :=
  Identifier.isLetter c || c.isDigit

def areDigits (isDigit : Char → Bool) (cs : List Char) : Bool :=
  !cs.isEmpty && cs.all (fun c => isDigit c || c = '_') && cs.head? != some '_' &&
    cs.getLast? != some '_' && !(cs.zip cs.tail).contains ('_', '_')

def isBased (letter : Char) (digits : List Char) : Bool :=
  let isDigit (c : Char) : Bool :=
    if letter = 'x' then c.isDigit || "abcdef".toList.contains c.toLower
    else if letter = 'o' then c.isDigit && c < '8'
    else c = '0' || c = '1'
  "xob".toList.contains letter &&
    areDigits isDigit (if digits.head? = some '_' then digits.tail else digits)

/-- A whole number that opens with a zero is zero. -/
def isWhole (cs : List Char) : Bool :=
  areDigits Char.isDigit cs && (cs.head? != some '0' || cs.all fun c => c = '0' || c = '_')

def isMantissa (cs : List Char) : Bool :=
  match cs.span (· != '.') with
  | (whole, []) => areDigits Char.isDigit whole
  | (whole, _ :: part) =>
    (whole.isEmpty || areDigits Char.isDigit whole) &&
      (part.isEmpty || areDigits Char.isDigit part) && !(whole.isEmpty && part.isEmpty)

def isExponent : List Char → Bool
  | '+' :: cs | '-' :: cs | cs => areDigits Char.isDigit cs

def isNumber (cs : List Char) : Bool :=
  let isScaled (cs : List Char) : Bool :=
    match cs.span fun c => c != 'e' && c != 'E' with
    | (mantissa, []) => isMantissa mantissa
    | (mantissa, _ :: exponent) => isMantissa mantissa && isExponent exponent
  match cs with
  | '0' :: letter :: digits =>
    isBased letter.toLower digits || isWhole cs ||
      (cs.any (".eEjJ".toList.contains ·) &&
        isScaled (if isImaginary cs then cs.dropLast else cs))
  | _ =>
    isWhole cs || (cs.contains '.' || cs.any ("eEjJ".toList.contains ·)) &&
      isScaled (if isImaginary cs then cs.dropLast else cs)
where
  isImaginary (cs : List Char) : Bool := cs.getLast? = some 'j' || cs.getLast? = some 'J'

def takeNumber : List Char → List Char × List Char
  | c :: sign :: cs =>
    if (c = 'e' || c = 'E') && (sign = '+' || sign = '-') then
      let (taken, rest) := takeNumber cs
      (c :: sign :: taken, rest)
    else if isNameChar c || c = '.' then
      let (taken, rest) := takeNumber (sign :: cs)
      (c :: taken, rest)
    else ([], c :: sign :: cs)
  | [c] => if isNameChar c || c = '.' then ([c], []) else ([], [c])
  | [] => ([], [])

/-- What stands behind a string, given the quotes that close it. A line ends only a string with
single quotes, which is then not closed. -/
def closeString (quote : List Char) : List Char → Option (List Char)
  | [] => none
  | '\\' :: _ :: cs => closeString quote cs
  | c :: cs =>
    if quote.isPrefixOf (c :: cs) then some ((c :: cs).drop quote.length)
    else if c = '\n' && quote.length = 1 then none
    else closeString quote cs

def takeString? : List Char → Option (List Char)
  | q :: cs =>
    if q != '\'' && q != '"' then none
    else if [q, q].isPrefixOf cs then closeString [q, q, q] (cs.drop 2)
    else closeString [q] cs
  | [] => none

def stringPrefixes : List String :=
  ["r", "u", "b", "f", "br", "rb", "fr", "rf"]

def next? (cs : List Char) : Option (Token × List Char) :=
  match cs with
  | [] => none
  | c :: rest =>
    if c.isDigit || (c = '.' && (rest.head?.map (·.isDigit)).getD false) then
      let (taken, rest) := takeNumber cs
      if isNumber taken then some (.number, rest) else none
    else if Identifier.isLetter c then
      let (taken, rest) := cs.span isNameChar
      let word := String.ofList taken
      match stringPrefixes.contains word.toLower, takeString? rest with
      | true, some rest => some (.string, rest)
      | _, _ => some (.name word, rest)
    else if c = '\'' || c = '"' then (takeString? cs).map fun rest => (.string, rest)
    else match longMarks.find? fun m => m.toList.isPrefixOf cs with
      | some m => some (.mark m, cs.drop m.length)
      | none =>
        if "+-*/%@&|^~<>()[]\x7b\x7d,:.=".toList.contains c then
          some (.mark (String.singleton c), rest)
        else none

/-- The tokens of a text that is no longer than a bound, inside this many brackets. -/
def readWithin : Nat → Nat → List Char → Option (List Token)
  | 0, _, _ => none
  | _ + 1, _, [] => some []
  | n + 1, depth, '\n' :: cs =>
    if depth = 0 then (readWithin n depth cs).map (.lineEnd :: ·) else readWithin n depth cs
  | n + 1, depth, '\\' :: '\n' :: cs => readWithin n depth cs
  | n + 1, depth, c :: cs =>
    if c = ' ' || c = '\t' || c = '\x0c' then readWithin n depth cs
    else if c = '#' then readWithin n depth (cs.dropWhile (· != '\n'))
    else do
      let (token, rest) ← next? (c :: cs)
      let depth := match token with
        | .mark "(" | .mark "[" | .mark "\x7b" => depth + 1
        | .mark ")" | .mark "]" | .mark "\x7d" => depth - 1
        | _ => depth
      return token :: (← readWithin n depth rest)

/-- The tokens of a text. Its first line must not be indented. -/
def read? (text : String) : Option (List Token) :=
  let cs := text.toList.dropWhile (· = '\n')
  if cs.head? = some ' ' || cs.head? = some '\t' then none
  else readWithin (cs.length + 1) 0 cs

end Token

end StateWeave
