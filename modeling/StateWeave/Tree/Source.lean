import StateWeave.Tree.Expr
import StateWeave.Text.Dotted
import StateWeave.Text.Literal
import StateWeave.Text.Unwritable

/-! Source text of expressions, for messages. An operator is parenthesized when it binds more
weakly than its position requires. Some expressions have no source text: whole numbers of too many
digits, and formatted texts that no quotes fit. -/

namespace StateWeave

/-- Binding strength, weakest first. -/
inductive Precedence
  | walrus | tuple | yield | test | or | and | not | compare | bitOr | bitXor | bitAnd | shift | arith
  | term | factor | power | await | atom
deriving DecidableEq, Repr, Inhabited

namespace Precedence

def next : Precedence → Precedence
  | .walrus => .tuple
  | .tuple => .yield
  | .yield => .test
  | .test => .or
  | .or => .and
  | .and => .not
  | .not => .compare
  | .compare => .bitOr
  | .bitOr => .bitXor
  | .bitXor => .bitAnd
  | .bitAnd => .shift
  | .shift => .arith
  | .arith => .term
  | .term => .factor
  | .factor => .power
  | .power => .await
  | .await => .atom
  | .atom => .atom

/-- Parentheses around an operator of strength `own` where strength `required` is asked for. -/
def parenthesize (own required : Precedence) (text : String) : String :=
  if own.ctorIdx < required.ctorIdx then "(" ++ text ++ ")" else text

end Precedence

namespace BinOp

def symbol : BinOp → String
  | .add => "+"
  | .sub => "-"
  | .mult => "*"
  | .matMult => "@"
  | .div => "/"
  | .mod => "%"
  | .pow => "**"
  | .lShift => "<<"
  | .rShift => ">>"
  | .bitOr => "|"
  | .bitXor => "^"
  | .bitAnd => "&"
  | .floorDiv => "//"

def precedence : BinOp → Precedence
  | .add | .sub => .arith
  | .mult | .matMult | .div | .mod | .floorDiv => .term
  | .pow => .power
  | .lShift | .rShift => .shift
  | .bitOr => .bitOr
  | .bitXor => .bitXor
  | .bitAnd => .bitAnd

/-- What the left operand has to bind at least as strongly as: only powers group to the right. -/
def leftPrecedence : BinOp → Precedence
  | .pow => Precedence.power.next
  | op => op.precedence

def rightPrecedence : BinOp → Precedence
  | .pow => .power
  | op => op.precedence.next

end BinOp

namespace UnaryOp

def symbol : UnaryOp → String
  | .invert => "~"
  | .not => "not "
  | .plus => "+"
  | .minus => "-"

def precedence : UnaryOp → Precedence
  | .not => .not
  | _ => .factor

end UnaryOp

namespace BoolOp

def symbol : BoolOp → String
  | .and => "and"
  | .or => "or"

def precedence : BoolOp → Precedence
  | .and => .and
  | .or => .or

end BoolOp

def CmpOp.symbol : CmpOp → String
  | .eq => "=="
  | .notEq => "!="
  | .lt => "<"
  | .ltE => "<="
  | .gt => ">"
  | .gtE => ">="
  | .is => "is"
  | .isNot => "is not"
  | .isIn => "in"
  | .notIn => "not in"

namespace Constant

/-- A part of a complex number: a whole one is written without `.0`. -/
def complexPart (text : String) : String :=
  if [ '.', '0'].isSuffixOf text.toList then String.ofList (text.toList.take (text.length - 2))
  else text

/-- The imaginary part alone when the real one is plus zero, else both in parentheses. -/
def complexText (re im : String) : String :=
  if re = "0.0" then complexPart im ++ "j"
  else if ['-'].isPrefixOf im.toList then "(" ++ complexPart re ++ complexPart im ++ "j)"
  else "(" ++ complexPart re ++ "+" ++ complexPart im ++ "j)"

def boolText (b : Bool) : String :=
  if b then "True" else "False"

/-- How a value shows itself in a message, unless it is a number of too many digits. -/
def shown? : Constant → Option String
  | .null => "None"
  | .ellipsis => "Ellipsis"
  | .bool b => boolText b
  | .int n => Written.ofInt? n
  | .float text => text
  | .complex re im => complexText re im
  | .str text => Quoted.text text
  | .bytes octets => Quoted.octets octets

/-- Infinities have no literal; an overflowing one stands for them. -/
def literalFloat (text : String) : String :=
  if text = "inf" then "1e309" else if text = "-inf" then "-1e309"
  else if text = "nan" then "(1e309-1e309)" else text

/-- How a literal is written in source; inside of a formatted text, without backslashes where that
is possible. -/
def source (inFormat : Bool) : Constant → Written
  | .ellipsis => .ok "..."
  | .float text => .ok (literalFloat text)
  | .complex re im => .ok (complexText (literalFloat re) (literalFloat im))
  | .str text =>
    .ok (if inFormat then String.ofList (Quoted.plainLiteral text.toList) else Quoted.text text)
  | c => match c.shown? with
    | some text => .ok text
    | none => .error .tooManyDigits

end Constant

namespace Source

def commaSeparated (parts : List String) : String :=
  String.intercalate ", " parts

/-- Items of a tuple: a lone one keeps its comma. -/
def tupleItems : List String → String
  | [item] => item ++ ","
  | items => commaSeparated items

def listed (parts : List Written) : Written :=
  return commaSeparated (← Written.all parts)

def tupleListed (parts : List Written) : Written :=
  return tupleItems (← Written.all parts)

def between (left : String) (w : Written) (right : String) : Written :=
  return left ++ (← w) ++ right

def pair (first : Written) (link : String) (second : Written) : Written :=
  return (← first) ++ link ++ (← second)

def comparisons : List CmpOp → List Written → Written
  | op :: ops, right :: rights =>
    pair (between (" " ++ op.symbol ++ " ") right "") "" (comparisons ops rights)
  | _, _ => .ok ""

/-- Dictionary entries; one without a key is unpacked, and its value stands in the stronger
position that the last list gives. -/
def entries : List (Option Written) → List Written → List Written → List Written
  | some key :: keys, value :: values, _ :: unpacked =>
    pair key ": " value :: entries keys values unpacked
  | none :: keys, _ :: values, value :: unpacked =>
    between "**" value "" :: entries keys values unpacked
  | _, _, _ => []

def argument : Option String → Written → Written
  | some arg, value => between (arg ++ "=") value ""
  | none, value => between "**" value ""

/-- Parameters with a default take it from the end of the list of defaults. -/
def positional (params defaults : List Written) : List Written :=
  let bare := params.length - defaults.length
  params.take bare ++ List.zipWith (pair · "=" ·) (params.drop bare) defaults

def keywordOnly (params : List Written) (defaults : List (Option Written)) : List Written :=
  List.zipWith (fun p default => default.elim p (pair p "=")) params defaults

def params (posOnly positionals : List Written) (vararg : Option Written) (kwOnly : List Written)
    (kwDefaults : List (Option Written)) (kwarg : Option Written) (defaults : List Written) :
    Written :=
  let all := positional (posOnly ++ positionals) defaults
  let count := posOnly.length
  let slash := if posOnly.isEmpty then all else all.take count ++ [.ok "/"] ++ all.drop count
  let star := match vararg with
    | some p => [between "*" p ""]
    | none => if kwOnly.isEmpty then [] else [.ok "*"]
  listed (slash ++ star ++ keywordOnly kwOnly kwDefaults ++ (kwarg.map (between "**" · "")).toList)

/-- What a conversion looks like; `-1` stands for none. -/
def conversion : Option Int → Written
  | some (-1) => .ok ""
  | some (.ofNat n) =>
    if n.isValidChar then .ok (String.ofList [ '!', Char.ofNat n])
    else .error (.conversion (some n))
  | mark => .error (.conversion mark)

/-- Puts braces around an expression, which must not hold a backslash; two that open are kept
apart. -/
def braced (inner conversion spec : Written) : Written := do
  let text ← inner
  if text.toList.contains '\\' then throw .backslash
  let gap := if text.toList.head? = some '\x7b' then " " else ""
  return "\x7b" ++ gap ++ text ++ (← conversion) ++ (← spec) ++ "\x7d"

/-- Text between the braces of a formatted text: braces of its own are doubled. -/
def doubled (text : String) : String :=
  String.ofList (text.toList.flatMap fun c => if c = '\x7b' || c = '\x7d' then [c, c] else [c])

/-- A formatted text from its parts, each with whether it is text. One that stands between the
braces of another is written without backslashes where that is possible. -/
def formatted (inFormat : Bool) (parts : List (Written × Bool)) : Written := do
  let texts ← Written.all (parts.map (·.1))
  let parts := (texts.map (·.toList)).zip (parts.map (·.2))
  let literal := if inFormat then Quoted.plainLiteral (parts.flatMap (·.1))
    else Quoted.formatted parts
  return String.ofList ('f' :: literal)

def isText : Expr → Bool
  | .constant _ => true
  | _ => false

end Source

namespace Precedence

def wrap (own required : Precedence) (w : Written) : Written :=
  return own.parenthesize required (← w)

end Precedence

namespace Expr

open Source

mutual

/-- The text of an expression where strength `p` is required. -/
def sourceAt (inFormat : Bool) (p : Precedence) : Expr → Written
  | .constant value => value.source inFormat
  | .name id _ => .ok id
  | .attribute value attr _ =>
    let gap := match value with
      | .constant (.int _) | .constant (.bool _) => " "
      | _ => ""
    between "" (sourceAt inFormat .atom value) (gap ++ "." ++ attr)
  | .subscript value index _ =>
    let inner := match index with
      | .sequence .tuple (e :: es) _ =>
        tupleListed (sourceAt inFormat .test e :: sources inFormat .test es)
      | index => sourceAt inFormat .test index
    pair (sourceAt inFormat .atom value) "[" (between "" inner "]")
  | .starred value _ => between "*" (sourceAt inFormat .bitOr value) ""
  | .sequence .list elts _ => between "[" (listed (sources inFormat .test elts)) "]"
  | .sequence .tuple [] _ => .ok "()"
  | .sequence .tuple (e :: es) _ =>
    Precedence.tuple.wrap p (tupleListed (sourceAt inFormat .test e :: sources inFormat .test es))
  | .set [] => .ok "\x7b*()\x7d"
  | .set elts => between "\x7b" (listed (sources inFormat .test elts)) "\x7d"
  | .dict keys values =>
    let items := entries (optionSources inFormat keys) (sources inFormat .test values)
      (sources inFormat .bitOr values)
    between "\x7b" (listed items) "\x7d"
  | .boolOp op values =>
    let operands := Written.all (risingSources inFormat op.precedence.next values)
    op.precedence.wrap p (return String.intercalate (" " ++ op.symbol ++ " ") (← operands))
  | .binOp left op right =>
    op.precedence.wrap p (pair (sourceAt inFormat op.leftPrecedence left) (" " ++ op.symbol ++ " ")
      (sourceAt inFormat op.rightPrecedence right))
  | .unaryOp op operand =>
    op.precedence.wrap p (between op.symbol (sourceAt inFormat op.precedence operand) "")
  | .compare left ops comparators =>
    Precedence.compare.wrap p (pair (sourceAt inFormat Precedence.compare.next left) ""
      (comparisons ops (sources inFormat Precedence.compare.next comparators)))
  | .call func args keywords =>
    pair (sourceAt inFormat .atom func) "("
      (between "" (listed (sources inFormat .test args ++ keywordSources inFormat keywords)) ")")
  | .ifExp test body orelse =>
    Precedence.test.wrap p
      (pair (pair (sourceAt inFormat Precedence.test.next body) " if "
        (sourceAt inFormat Precedence.test.next test)) " else " (sourceAt inFormat .test orelse))
  | .walrus target value =>
    Precedence.walrus.wrap p (between (target ++ " := ") (sourceAt inFormat .atom value) "")
  | .lambda params body =>
    let lead := if params.names.isEmpty then "lambda" else "lambda "
    Precedence.test.wrap p
      (pair (between lead (paramsSource inFormat params) "") ": " (sourceAt inFormat .test body))
  | .comprehension kind element first rest =>
    let inner := pair (sourceAt inFormat .test element) ""
      (pair (generatorSource inFormat first) "" (generatorSources inFormat rest))
    match kind with
    | .list => between "[" inner "]"
    | .set => between "\x7b" inner "\x7d"
    | .generator => between "(" inner ")"
  | .dictComprehension key value first rest =>
    let inner := pair (pair (sourceAt inFormat .test key) ": " (sourceAt inFormat .test value)) ""
      (pair (generatorSource inFormat first) "" (generatorSources inFormat rest))
    between "\x7b" inner "\x7d"
  | .await value => Precedence.await.wrap p (between "await " (sourceAt inFormat .atom value) "")
  | .yield none => Precedence.yield.wrap p (.ok "yield")
  | .yield (some value) =>
    Precedence.yield.wrap p (between "yield " (sourceAt inFormat .atom value) "")
  | .yieldFrom value =>
    Precedence.yield.wrap p (between "yield from " (sourceAt inFormat .atom value) "")
  | .joinedStr values =>
    Source.formatted inFormat ((partSources values).zip (values.map isText))
  | .formatted value mark spec =>
    braced (sourceAt true Precedence.test.next value) (conversion mark) (specSource spec)
  | .slice lower upper step =>
    pair (optionSource inFormat "" lower) ":"
      (pair (optionSource inFormat "" upper) "" (optionSource inFormat ":" step))

def partSource : Expr → Written
  | .joinedStr values => Written.join (partSources values)
  | .constant (.str text) => .ok (doubled text)
  | .formatted value mark spec =>
    braced (sourceAt true Precedence.test.next value) (conversion mark) (specSource spec)
  | _ => .error .strayPart

def partSources : List Expr → List Written
  | [] => []
  | e :: es => partSource e :: partSources es

def specSource : Option Expr → Written
  | none => .ok ""
  | some e => between ":" (partSource e) ""

def optionSource (inFormat : Bool) (lead : String) : Option Expr → Written
  | none => .ok ""
  | some e => between lead (sourceAt inFormat .test e) ""

def sources (inFormat : Bool) (p : Precedence) : List Expr → List Written
  | [] => []
  | e :: es => sourceAt inFormat p e :: sources inFormat p es

/-- Each operand is asked for one level more than the one before it. -/
def risingSources (inFormat : Bool) (p : Precedence) : List Expr → List Written
  | [] => []
  | e :: es => sourceAt inFormat p e :: risingSources inFormat p.next es

def optionSources (inFormat : Bool) : List (Option Expr) → List (Option Written)
  | [] => []
  | none :: es => none :: optionSources inFormat es
  | some e :: es => some (sourceAt inFormat .test e) :: optionSources inFormat es

def keywordSources (inFormat : Bool) : List Keyword → List Written
  | [] => []
  | k :: ks => keywordSource inFormat k :: keywordSources inFormat ks

def keywordSource (inFormat : Bool) : Keyword → Written
  | ⟨arg, value⟩ => argument arg (sourceAt inFormat .test value)

def argSource (inFormat : Bool) : Arg → Written
  | ⟨label, annot⟩ => between label (optionSource inFormat ": " annot) ""

def argSources (inFormat : Bool) : List Arg → List Written
  | [] => []
  | a :: as => argSource inFormat a :: argSources inFormat as

def optionArgSource (inFormat : Bool) : Option Arg → Option Written
  | none => none
  | some a => some (argSource inFormat a)

def paramsSource (inFormat : Bool) : Params → Written
  | ⟨posOnly, positional, vararg, kwOnly, kwDefaults, kwarg, defaults⟩ =>
    params (argSources inFormat posOnly) (argSources inFormat positional)
      (optionArgSource inFormat vararg) (argSources inFormat kwOnly)
      (optionSources inFormat kwDefaults) (optionArgSource inFormat kwarg)
      (sources inFormat .test defaults)

def generatorSource (inFormat : Bool) : Generator → Written
  | ⟨target, iter, ifs, asyncMark⟩ =>
    let lead := if asyncMark.getD 0 ≠ 0 then " async for " else " for "
    let conditions := (sources inFormat Precedence.test.next ifs).map (between " if " · "")
    pair (pair (between lead (sourceAt inFormat .tuple target) "") " in "
      (sourceAt inFormat Precedence.test.next iter)) "" (Written.join conditions)

def generatorSources (inFormat : Bool) : List Generator → Written
  | [] => .ok ""
  | g :: gs => pair (generatorSource inFormat g) "" (generatorSources inFormat gs)

end

def source (e : Expr) : Written :=
  e.sourceAt false .test

end Expr

end StateWeave
