import StateWeave.Text.Token

/-! Texts that are expressions. A reader takes an expression off the front of some tokens and gives
the rest; it is bounded by a number that the length of the text is enough for. -/

namespace StateWeave.Expression

abbrev Reader := List Token → Option (List Token)

def operators : List String :=
  ["+", "-", "*", "/", "//", "%", "@", "**", "<<", ">>", "&", "|", "^"]

def comparisons : List String :=
  ["<", ">", "==", ">=", "<=", "!="]

def mark (text : String) : Reader
  | .mark m :: ts => if m = text then some ts else none
  | _ => none

def word (text : String) : Reader
  | .name m :: ts => if m = text then some ts else none
  | _ => none

def plainName : Reader
  | .name m :: ts => if Token.keywords.contains m then none else some ts
  | _ => none

def comparison : Reader
  | .mark m :: ts => if comparisons.contains m then some ts else none
  | .name "not" :: .name "in" :: ts | .name "is" :: .name "not" :: ts => some ts
  | .name "in" :: ts | .name "is" :: ts => some ts
  | _ => none

def isMark (text : String) (ts : List Token) : Bool :=
  (mark text ts).isSome

def isWord (text : String) (ts : List Token) : Bool :=
  (word text ts).isSome

mutual

def test : Nat → Reader
  | 0, _ => none
  | n + 1, ts =>
    match word "lambda" ts with
    | some ts => do test n (← mark ":" (← parameters n ts))
    | none => do
      let ts ← disjunction n ts
      match word "if" ts with
      | some ts => do test n (← word "else" (← disjunction n ts))
      | none => return ts

def parameters : Nat → Reader
  | 0, _ => none
  | n + 1, ts =>
    if isMark ":" ts then some ts
    else do
      let ts ← match ts with
        | .mark "/" :: ts => some ts
        | .mark "**" :: ts => plainName ts
        | .mark "*" :: ts => some ((plainName ts).getD ts)
        | ts => plainName ts
      let ts ← match mark "=" ts with
        | some ts => test n ts
        | none => some ts
      match mark "," ts with
      | some ts => parameters n ts
      | none => return ts

def disjunction : Nat → Reader
  | 0, _ => none
  | n + 1, ts => do
    let ts ← inversion n ts
    if isWord "and" ts || isWord "or" ts then disjunction n ts.tail else return ts

def inversion : Nat → Reader
  | 0, _ => none
  | n + 1, ts =>
    match word "not" ts with
    | some ts => inversion n ts
    | none => comparands n ts

def comparands : Nat → Reader
  | 0, _ => none
  | n + 1, ts => do
    let ts ← operands n ts
    match comparison ts with
    | some ts => comparands n ts
    | none => return ts

def operands : Nat → Reader
  | 0, _ => none
  | n + 1, ts => do
    let ts ← signed n ts
    match ts with
    | .mark m :: rest => if operators.contains m then operands n rest else return ts
    | _ => return ts

def signed : Nat → Reader
  | 0, _ => none
  | n + 1, ts =>
    if isMark "+" ts || isMark "-" ts || isMark "~" ts then signed n ts.tail
    else do trailers n (← atom n ts)

def trailers : Nat → Reader
  | 0, _ => none
  | n + 1, ts =>
    match ts with
    | .mark "." :: ts => do trailers n (← plainName ts)
    | .mark "[" :: ts => do trailers n (← mark "]" (← subscripts n ts))
    | .mark "(" :: ts => do trailers n (← mark ")" (← arguments n false ts))
    | ts => some ts

def atom : Nat → Reader
  | 0, _ => none
  | n + 1, ts =>
    match ts with
    | .number :: ts => some ts
    | .string :: ts => some (ts.dropWhile (· == .string))
    | .mark "..." :: ts => some ts
    | .mark "(" :: .mark "*" :: ts => do
      let ts ← operands n ts
      if isMark "," ts then mark ")" (← moreItems n ")" ts) else none
    | .mark "(" :: ts => do mark ")" (← display n ")" ts)
    | .mark "[" :: ts => do mark "]" (← display n "]" ts)
    | .mark "\x7b" :: ts => do mark "\x7d" (← entries n ts)
    | ts => plainName ts

def named : Nat → Reader
  | 0, _ => none
  | n + 1, ts =>
    match plainName ts with
    | some (.mark ":=" :: rest) => test n rest
    | _ => test n ts

def item : Nat → Reader
  | 0, _ => none
  | n + 1, ts =>
    match mark "*" ts with
    | some ts => operands n ts
    | none => named n ts

/-- What follows the first item of a display: the loops that make its items, or more of them. -/
def moreItems : Nat → String → Reader
  | 0, _, _ => none
  | n + 1, close, ts =>
    match mark "," ts with
    | some ts => if isMark close ts then some ts else do moreItems n close (← item n ts)
    | none => some ts

def loopsOrItems : Nat → String → Reader
  | 0, _, _ => none
  | n + 1, close, ts => if isWord "for" ts then loops n ts else moreItems n close ts

/-- The inside of brackets: nothing, items, or one item with the loops that make it. -/
def display : Nat → String → Reader
  | 0, _, _ => none
  | n + 1, close, ts =>
    if isMark close ts then some ts else do loopsOrItems n close (← item n ts)

/-- The inside of braces: keys with values, or items. -/
def entries : Nat → Reader
  | 0, _ => none
  | n + 1, ts =>
    if isMark "\x7d" ts then some ts
    else if isMark "**" ts then do morePairs n (← pair n ts)
    else do
      let ts ← item n ts
      match mark ":" ts with
      | none => loopsOrItems n "\x7d" ts
      | some ts => do
        let ts ← test n ts
        if isWord "for" ts then loops n ts else morePairs n ts

def pair : Nat → Reader
  | 0, _ => none
  | n + 1, ts =>
    match mark "**" ts with
    | some ts => operands n ts
    | none => do test n (← mark ":" (← test n ts))

def morePairs : Nat → Reader
  | 0, _ => none
  | n + 1, ts =>
    match mark "," ts with
    | none => some ts
    | some ts => if isMark "\x7d" ts then some ts else do morePairs n (← pair n ts)

def loops : Nat → Reader
  | 0, _ => none
  | n + 1, ts => do
    let ts ← conditions n (← disjunction n (← word "in" (← targets n (← word "for" ts))))
    if isWord "for" ts then loops n ts else return ts

def conditions : Nat → Reader
  | 0, _ => none
  | n + 1, ts =>
    match word "if" ts with
    | some ts => do conditions n (← disjunction n ts)
    | none => some ts

def targets : Nat → Reader
  | 0, _ => none
  | n + 1, ts => do
    let ts ← trailers n (← atom n (if isMark "*" ts then ts.tail else ts))
    match mark "," ts with
    | some ts => if isWord "in" ts then return ts else targets n ts
    | none => return ts

def subscripts : Nat → Reader
  | 0, _ => none
  | n + 1, ts => do
    let bound (ts : List Token) : Option (List Token) :=
      if isMark ":" ts || isMark "," ts || isMark "]" ts then some ts else item n ts
    let before := ts
    let ts ← bound ts
    let ts ← match mark ":" ts with
      | none => if ts.length < before.length then some ts else none
      | some ts => do
        let ts ← bound ts
        match mark ":" ts with
        | none => some ts
        | some ts => bound ts
    match mark "," ts with
    | some ts => if isMark "]" ts then return ts else subscripts n ts
    | none => return ts

/-- Arguments of a call; behind one with a name there are no plain ones. -/
def arguments : Nat → Bool → Reader
  | 0, _, _ => none
  | n + 1, isNamed, ts =>
    if isMark ")" ts then some ts
    else do
      let (ts, isNamed) ← match ts with
        | .mark "*" :: ts => (test n ts).map (·, isNamed)
        | .mark "**" :: ts => (test n ts).map (·, true)
        | ts => match plainName ts with
          | some (.mark "=" :: rest) => (test n rest).map (·, true)
          | _ => if isNamed then none else do
            let ts ← named n ts
            let ts ← if isWord "for" ts then loops n ts else some ts
            some (ts, false)
      match mark "," ts with
      | some ts => arguments n isNamed ts
      | none => return ts

def sequence : Nat → Reader
  | 0, _ => none
  | n + 1, ts => do
    let ts ← test n ts
    match mark "," ts with
    | some ts => if ts.all (· == .lineEnd) then return ts else sequence n ts
    | none => return ts

end

/-- How many steps a reader goes down for every token at most. -/
def stepsPerToken : Nat := 16

/-- Whether a text is an expression. One that opens with a star is taken as an item. -/
def isValid (text : String) : Bool :=
  let text := if text.startsWith "*" then "(" ++ text ++ ",)[0]" else text
  match Token.read? text with
  | none => false
  | some ts =>
    match sequence (stepsPerToken * (ts.length + 1)) (ts.dropWhile (· == .lineEnd)) with
    | some rest => rest.all (· == .lineEnd)
    | none => false

end StateWeave.Expression
