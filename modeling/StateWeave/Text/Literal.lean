import StateWeave.Text.Quoted

/-! Literals of texts with as few escapes as possible, as formatted texts need them: what stands
between the braces of one must not hold a backslash. -/

namespace StateWeave

inductive Quote
  | single | double | tripleDouble | tripleSingle
deriving DecidableEq, Repr

namespace Quote

def all : List Quote :=
  [.single, .double, .tripleDouble, .tripleSingle]

def mark : Quote → Char
  | .single | .tripleSingle => '\''
  | .double | .tripleDouble => '"'

def isTriple : Quote → Bool
  | .single | .double => false
  | .tripleDouble | .tripleSingle => true

def chars (q : Quote) : List Char :=
  List.replicate (if q.isTriple then 3 else 1) q.mark

def ofMark (c : Char) : Quote :=
  if c = '"' then .double else .single

def isIn (q : Quote) : List Char → Bool
  | [] => false
  | c :: cs => q.chars.isPrefixOf (c :: cs) || q.isIn cs

def around (q : Quote) (cs : List Char) : List Char :=
  q.chars ++ cs ++ q.chars

end Quote

namespace Quoted

/-- Escapes a character that cannot stand in any literal; line ends and tabs can stand in some. -/
def escapeUnless (keepsSpace : Bool) (c : Char) : List Char :=
  if keepsSpace && (c = '\n' || c = '\t') then [c] else escape '\\' c

def fitting (quotes : List Quote) (escaped : List Char) : List Quote :=
  quotes.filter fun q => (q.isTriple || !escaped.contains '\n') && !q.isIn escaped

/-- What stands between the quotes of a literal, and the quotes that fit around it, best first. When
none fits, the text is escaped as in a message. -/
def literal (quotes : List Quote) (keepsSpace : Bool) (cs : List Char) : List Char × List Quote :=
  let escaped := cs.flatMap (escapeUnless keepsSpace)
  match fitting quotes escaped, escaped.getLast? with
  | [], _ =>
    (inner cs, [(quotes.find? (·.mark == quoteFor cs)).getD (.ofMark (quoteFor cs))])
  | fits, none => (escaped, fits)
  | fits, some last =>
    -- A text that ends in the mark of a triple quote needs an escape there.
    let sorted := fits.filter (·.mark != last) ++ fits.filter (·.mark == last)
    (if fits.all (·.mark == last) then escaped.dropLast ++ ['\\', last] else escaped, sorted)

def plainLiteral (cs : List Char) : List Char :=
  match literal Quote.all true cs with
  | (escaped, q :: _) => q.around escaped
  | (escaped, []) => escaped

/-- Escapes the parts of a formatted text for quotes that fit all of them, if there are such. Line
ends and tabs are escaped in the parts that are text. -/
def literalParts (quotes : List Quote) :
    List (List Char × Bool) → Option (List Char × List Quote)
  | [] => some ([], quotes)
  | (cs, isText) :: rest => do
    let (escaped, fits) := literal quotes (!isText) cs
    if fits.all (!quotes.contains ·) then none
    let (more, left) ← literalParts fits rest
    return (escaped ++ more, left)

def formatted (parts : List (List Char × Bool)) : List Char :=
  match literalParts Quote.all parts with
  | some (escaped, q :: _) => q.around escaped
  | _ => Quote.tripleSingle.around (parts.flatMap fun (cs, _) => cs.flatMap (escape '\''))

end Quoted

end StateWeave
