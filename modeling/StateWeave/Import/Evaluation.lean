import StateWeave.Import.Arguments
import StateWeave.Import.Operation

/-! Evaluating expressions of running modules. -/

namespace StateWeave

namespace Expr

def bound (x : Thing) : Expr → List (String × Thing)
  | .name id _ => [(id, x)]
  | .starred value _ => value.bound .unknown
  | .sequence _ elts _ => boundAll (match x with
      | .sequence _ items => if items.length = elts.length then items else []
      | _ => []) elts
  | _ => []
where
  boundAll (items : List Thing) : List Expr → List (String × Thing)
    | [] => []
    | e :: es => e.bound (items.headD .unknown) ++ boundAll items.tail es

end Expr

namespace Thing

def joined (parts : List Thing) : Thing :=
  parts.foldr (fun x rest => match x, rest with
    | .constant (.str s), .constant (.str t) => .text (s ++ t)
    | _, _ => .unknown) (.text "")

end Thing

namespace Imports

/-- A value as part of a formatted text, as far as that is known; any conversion shows a text with
quotes. -/
def formatted (conversion : Int) : Thing → Importing Thing
  | .constant (.str s) =>
    return .text (if conversion = -1 || conversion = 115 then s else Quoted.text s)
  | .constant c => textOf c
  | _ => return .unknown

def gather (items : List Thing) (f : Thing → Importing (List Thing)) : Importing (List Thing) := do
  return (← items.mapM f).flatten

def within (p : Place) (target : Expr) (x : Thing) : Place :=
  { p with inner := target.bound x ++ p.inner, isInner := true }

/-- Puts items and unpacked items in a row; of what is unknown nothing can be unpacked. -/
def row (kind : CollectionKind) (parts : List (Thing × Bool)) : Importing Thing := do
  let whole := parts.foldr (fun (x, isUnpacked) rest =>
    match x, isUnpacked, rest with
    | x, false, .sequence kind items => .sequence kind (x :: items)
    | .sequence _ more, true, .sequence kind items => .sequence kind (more ++ items)
    | .typeVariable, true, .sequence kind items => .sequence kind (.typeVariable :: items)
    | _, _, _ => .unknown) (Thing.sequence kind [])
  settle whole

def table (keys : List (Option Thing)) (values : List Thing) : Importing Thing := do
  let mut entries := []
  for (key, x) in keys.zip values do
    match key, ← contents x with
    | some key, _ => entries := Thing.stored key x entries
    | none, .dict more => entries := more.foldl (fun es (k, v) => Thing.stored k v es) entries
    | none, _ => return .unknown
  share (.dict entries)

def spread (parts : List (Thing × Bool)) : List Thing × Bool :=
  parts.foldr (fun (x, isUnpacked) (items, isWhole) => match x, isUnpacked with
    | x, false => (x :: items, isWhole)
    | .sequence _ more, true => (more ++ items, isWhole)
    | x, true => (x :: items, false)) ([], true)

def spreadNamed (parts : List (Option String × Thing)) : List (String × Thing) × Bool :=
  parts.foldr (fun (name, x) (items, isWhole) => match name, x with
    | some name, x => ((name, x) :: items, isWhole)
    | none, .dict entries =>
      let named := entries.filterMap fun (k, v) => match k with
        | .constant (.str name) => some (name, v)
        | _ => none
      (named ++ items, isWhole && named.length = entries.length)
    | none, _ => (items, false)) ([], true)

variable (r : Interpreter)

mutual

def eval (p : Place) : Expr → Importing Thing
  | .constant c => return .constant c
  | .name id _ => p.lookup id
  | .attribute value attr _ => do attributeOf r (← eval p value) (p.key attr)
  | .subscript value index _ => do
    let x ← eval p value
    subscript r x (← eval p index)
  | .starred value _ => eval p value
  | .sequence kind elts _ => do
    row (if kind = .list then .list else .tuple) (← evalParts p elts)
  | .set elts => do row .set (← evalParts p elts)
  | .dict keys values => do
    let keys ← evalKeys p keys
    table keys (← evalAll p values)
  | .boolOp op values => evalChain p (op == .and) values
  | .binOp left op right => do
    let x ← eval p left
    binary op false x (← eval p right)
  | .unaryOp op operand => do
    let x ← eval p operand
    if op = .not then return .bool !(← holds r x) else ofExcept (Thing.unary op (← view x))
  | .compare left ops comparators => do
    let x ← eval p left
    evalComparisons p x ops comparators
  | .call func args keywords => do
    let f ← eval p func
    let (positional, isWhole) := spread (← evalArguments p args)
    let (named, isNamedWhole) := spreadNamed (← evalKeywords p keywords)
    match f.refusal? { positional, named }, isWhole && isNamedWhole with
    | some text, true => throw (.ofKind "TypeError" text)
    | _, _ => callThing r p f positional named
  | .ifExp test body orelse => do
    if ← holds r (← eval p test) then eval p body else eval p orelse
  | .walrus target value => do
    let x ← eval p value
    p.bind target x
    return x
  | .lambda params body => do
    let defaults ← evalParams p params
    return .function {
      name := p.path ++ "<lambda>", params, body := [.ret (some body)], isAsync := false, defaults
      module := p.module, cls := p.cls, enclosing := ← p.visible }
  | .comprehension kind element first rest =>
    if kind == .generator then do
      discard (evalIterable p first)
      return .unknown
    else do
      let element (p : Place) : Importing (List Thing) := do return [← eval p element]
      let items ← evalGenerator p (evalGenerators element · rest) first
      collect (if kind = .set then .set else .list) [.tuple items]
  | .dictComprehension key value first rest => do
    let entry (p : Place) : Importing (List Thing) := do
      let x ← eval p key
      return [.tuple [x, ← eval p value]]
    let pairs ← evalGenerator p (evalGenerators entry · rest) first
    share (.dict (pairs.foldl (fun es x => match x with
      | .sequence _ [k, v] => Thing.stored k v es
      | _ => es) []))
  | .await value => eval p value
  | .yield value => do
    discard (evalOption p value)
    return .unknown
  | .yieldFrom value => do
    discard (eval p value)
    return .unknown
  | .joinedStr values => do return Thing.joined (← evalAll p values)
  | .formatted value conversion spec => do
    let x ← eval p value
    match spec with
    | none => formatted (conversion.getD (-1)) x
    | some e =>
      discard (eval p e)
      return .unknown
  | .slice lower upper step => do
    let lower ← evalBound p lower
    let upper ← evalBound p upper
    return .slice lower upper (← evalBound p step)

def evalOption (p : Place) : Option Expr → Importing Thing
  | none => return .unknown
  | some e => eval p e

def evalBound (p : Place) : Option Expr → Importing Thing
  | none => return .null
  | some e => eval p e

def evalAll (p : Place) : List Expr → Importing (List Thing)
  | [] => return []
  | e :: es => do
    let x ← eval p e
    return x :: (← evalAll p es)

def evalOptions (p : Place) : List (Option Expr) → Importing (List Thing)
  | [] => return []
  | e :: es => do
    let x ← evalOption p e
    return x :: (← evalOptions p es)

def evalKeys (p : Place) : List (Option Expr) → Importing (List (Option Thing))
  | [] => return []
  | none :: es => do return none :: (← evalKeys p es)
  | some e :: es => do
    let x ← eval p e
    return some x :: (← evalKeys p es)

def evalParts (p : Place) : List Expr → Importing (List (Thing × Bool))
  | [] => return []
  | e :: es => do
    let x ← eval p e
    let part ← match e with
      | .starred _ _ => do pure (← unpacking x, true)
      | _ => pure (x, false)
    return part :: (← evalParts p es)

/-- Arguments of a call; a generator among them is taken to be used up. -/
def evalArguments (p : Place) : List Expr → Importing (List (Thing × Bool))
  | [] => return []
  | .comprehension .generator element first rest :: es => do
    let element (p : Place) : Importing (List Thing) := do return [← eval p element]
    let items ← evalGenerator p (evalGenerators element · rest) first
    return (.tuple items, false) :: (← evalArguments p es)
  | e :: es => do
    let x ← eval p e
    let part ← match e with
      | .starred _ _ => do pure (← unpacking x, true)
      | _ => pure (x, false)
    return part :: (← evalArguments p es)

def evalKeywords (p : Place) : List Keyword → Importing (List (Option String × Thing))
  | [] => return []
  | ⟨arg, value⟩ :: ks => do
    let x ← eval p value
    let part ← match arg with
      | some name => pure (some name, x)
      | none => do pure (none, ← contents x)
    return part :: (← evalKeywords p ks)

def evalComparisons (p : Place) (x : Thing) (ops : List CmpOp) : List Expr → Importing Thing
  | [] => return .bool true
  | e :: es => do
    let y ← eval p e
    match ops with
    | [] => return .bool true
    | op :: ops =>
      let found ← comparison? op x y
      if found == some false then return .bool false
      else if es.isEmpty then return found.elim .unknown .bool
      else evalComparisons p y ops es

def evalChain (p : Place) (isAnd : Bool) : List Expr → Importing Thing
  | [] => return .unknown
  | [e] => eval p e
  | e :: es => do
    let x ← eval p e
    if (← holds r x) == isAnd then evalChain p isAnd es else return x

def evalTests (p : Place) : List Expr → Importing Bool
  | [] => return true
  | e :: es => do if ← holds r (← eval p e) then evalTests p es else return false

def evalParams (p : Place) : Params → Importing (List (String × Thing))
  | ⟨posOnly, positional, _, kwOnly, kwDefaults, _, defaults⟩ => do
    let given ← evalAll p defaults
    let named ← evalKeys p kwDefaults
    let last := ((posOnly ++ positional).reverse.take given.length).reverse
    let own := (kwOnly.zip named).filterMap fun (a, x) => x.map (a.name, ·)
    return (last.map (·.name)).zip given ++ own

/-- The iterable of a generator, which is evaluated before anything else of it. -/
def evalIterable (p : Place) : Generator → Importing Thing
  | ⟨_, iter, _, _⟩ => eval p iter

def evalGenerator (p : Place) (inner : Place → Importing (List Thing)) :
    Generator → Importing (List Thing)
  | ⟨target, iter, ifs, _⟩ => do
    let items ← itemsOf (← eval p iter)
    gather items fun x => do
      let p := within p target (← contents x)
      if ← evalTests p ifs then inner p else return []

def evalGenerators (inner : Place → Importing (List Thing)) (p : Place) :
    List Generator → Importing (List Thing)
  | [] => inner p
  | g :: gs => evalGenerator p (evalGenerators inner · gs) g

end

end Imports

end StateWeave
