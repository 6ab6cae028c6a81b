import StateWeave.Import.Evaluation

/-! What stands on the left of an assignment, after `del` or after `case`. -/

namespace StateWeave.Imports

variable (r : Interpreter)

def isStarred : Expr → Bool
  | .starred _ _ => true
  | _ => false

/-- Splits items for targets, one of which may be starred and takes what the others leave. -/
def shares (items : List Thing) (before after : Nat) (hasStar : Bool) :
    Except ImportFault (List Thing) :=
  let expected := before + after
  if hasStar then
    if items.length < expected then
      .error (.ofKind "ValueError" ("not enough values to unpack (expected at least "
        ++ toString expected ++ ", got " ++ toString items.length ++ ")"))
    else
      let rest := (items.drop before).take (items.length - expected)
      .ok (items.take before ++ .list rest :: items.drop (items.length - after))
  else if items.length < expected then
    .error (.ofKind "ValueError" ("not enough values to unpack (expected "
      ++ toString expected ++ ", got " ++ toString items.length ++ ")"))
  else if expected < items.length then
    .error (.ofKind "ValueError" ("too many values to unpack (expected "
      ++ toString expected ++ ")"))
  else .ok items

def unpacked (x : Thing) (targets : List Expr) : Importing (List Thing) := do
  let before := (targets.takeWhile (!isStarred ·)).length
  let hasStar := targets.any isStarred
  let after := if hasStar then targets.length - before - 1 else 0
  match ← contents x with
  | .sequence _ items => (← ofExcept (shares items before after hasStar)).mapM settle
  | .dict entries => (← ofExcept (shares (entries.map (·.1)) before after hasStar)).mapM settle
  | .constant c => match (Thing.constant c).items? with
    | some items => (← ofExcept (shares items before after hasStar)).mapM settle
    | none => refuse (.constant c)
  | .function code => refuse (.function code)
  | .module name => refuse (.module name)
  | _ => return targets.map fun _ => .unknown
where
  refuse (x : Thing) : Importing (List Thing) :=
    throw (.ofKind "TypeError" ("cannot unpack non-iterable " ++ x.kindName ++ " object"))

mutual

def store (p : Place) (x : Thing) : Expr → Importing Unit
  | .name id _ => p.bind id x
  | .attribute value attr _ => do
    setAttribute (← eval r p value) (p.key attr) x
  | .subscript value index _ => do
    let table ← eval r p value
    match table, ← eval r p index with
    | .globals m, .constant (.str name) => setName m name x
    | .shared serial, index => storeItem serial index x
    | .object serial kind, index => match ← classMember? kind "__setitem__" with
      | some (.function code) => discard (r.call code [.object serial kind, index, x] [])
      | _ => return
    | _, _ => return
  | .starred value _ => store p x value
  | .sequence _ elts _ => do storeAll p (← unpacked x elts) elts
  | _ => return

def storeAll (p : Place) (xs : List Thing) : List Expr → Importing Unit
  | [] => return
  | e :: es => do
    store p (xs.headD .unknown) e
    storeAll p xs.tail es

end

mutual

def remove (p : Place) : Expr → Importing Unit
  | .name id _ => p.unbind id
  | .attribute value attr _ => do
    removeAttribute (← eval r p value) (p.key attr)
  | .subscript value index _ => do
    let table ← eval r p value
    match table, ← eval r p index with
    | .globals m, .constant (.str name) =>
      discard (subscript r (.globals m) (.text name))
      unsetName m name
    | .foreign "sys.modules", .constant (.str name) =>
      discard (subscript r (.foreign "sys.modules") (.text name))
      forget name
    | .shared serial, index => removeItem serial index
    | _, _ => return
  | .sequence _ elts _ => removeAll p elts
  | _ => return

def removeAll (p : Place) : List Expr → Importing Unit
  | [] => return
  | e :: es => do
    remove p e
    removeAll p es

end

abbrev Captures := List (String × Thing)

def capture (x : Thing) (name : Option String) : Captures :=
  (name.map fun name => (name, x)).toList

def isStar : Pattern → Bool
  | .star _ => true
  | _ => false

/-- The items that the parts of a sequence pattern are matched with, if there are as many as it
takes; what is unknown matches. -/
def sharesOf (x : Thing) (patterns : List Pattern) : Option (List Thing) :=
  let before := (patterns.takeWhile (!isStar ·)).length
  let hasStar := patterns.any isStar
  let after := if hasStar then patterns.length - before - 1 else 0
  match x with
  | .sequence .set _ => none
  | .sequence _ items => (shares items before after hasStar).toOption
  | .unknown => some (patterns.map fun _ => .unknown)
  | _ => none

/-- What a table holds under keys, and what else it holds; what is unknown holds anything. -/
def valuesUnder (x : Thing) (keys : List Thing) : Option (List Thing × Thing) :=
  match x with
  | .dict entries =>
    let found := keys.map fun key => (Thing.found? key entries).getD (some .unknown)
    if found.any (·.isNone) then none
    else
      let others := entries.filter fun (k, _) => !(Thing.among? k keys == some true)
      some (found.map (·.getD .unknown), .dict others)
  | .unknown => some (keys.map fun _ => .unknown, .unknown)
  | _ => none

mutual

def matched (p : Place) (x : Thing) : Pattern → Importing (Option Captures)
  | .value e => do
    return if (Thing.same? (← view x) (← view (← eval r p e))).getD true then some [] else none
  | .singleton c => return match x with
    | .constant d => if c == d then some [] else none
    | .unknown => some []
    | _ => none
  | .sequence patterns => do
    match sharesOf (← contents x) patterns with
    | some items => matchedAll p (← items.mapM settle) patterns
    | none => return none
  | .mapping keys patterns rest => do
    let keys ← evalAll r p keys
    match valuesUnder (← contents x) keys with
    | none => return none
    | some (items, others) =>
      let inner ← matchedAll p items patterns
      let others ← settle others
      return inner.map (· ++ capture others rest)
  | .classPattern cls patterns attrs named => do
    let cls ← eval r p cls
    if !((← view x).isInstance? cls).getD true then return none
    let found ← attrs.mapM (attribute? r x)
    if found.any (·.isNone) then return none
    match ← matchedAll p [x] patterns, ← matchedAll p (found.map (·.getD .unknown)) named with
    | some a, some b => return some (a ++ b)
    | _, _ => return none
  | .star name => return some (capture x name)
  | .capture none name => return some (capture x name)
  | .capture (some pattern) name => do
    return (← matched p x pattern).map (· ++ capture x name)
  | .alternatives patterns => matchedFirst p x patterns

/-- Matches items in order; what is beyond the last one is unknown. -/
def matchedAll (p : Place) (items : List Thing) : List Pattern → Importing (Option Captures)
  | [] => return some []
  | pattern :: patterns => do
    match ← matched p (items.headD .unknown) pattern with
    | none => return none
    | some a => return (← matchedAll p items.tail patterns).map (a ++ ·)

def matchedFirst (p : Place) (x : Thing) : List Pattern → Importing (Option Captures)
  | [] => return none
  | pattern :: patterns => do
    match ← matched p x pattern with
    | some a => return some a
    | none => matchedFirst p x patterns

end

end StateWeave.Imports
