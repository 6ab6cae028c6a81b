import StateWeave.Script.Equality
import StateWeave.Script.Evaluation

/-! Subscribing to events and firing them. What is no event is asked for the attribute of that name
and that is called instead. -/

namespace StateWeave.World

variable (run : Runner) (running : Option Value)

def valueAt : EventPlace → Run Value
  | .handle id => resolve running id
  | .attribute on attr => do attributeOf (← resolve running on) attr

def changeEvent (e : Nat) (f : EventObject Value → EventObject Value) : Run Unit :=
  objects fun o => { o with events := o.events.modify e f }

/-- Looks for a handler that equals `v`, from the one at `i` on. The handlers that are subscribed when
its turn comes are asked, since comparing may change them. -/
def findHandler (e : Nat) (v : Value) : Nat → Nat → Run (Option Nat)
  | 0, _ => throw outOfMemory
  | n + 1, i => do
    match (← eventAt e).handlers[i]? with
    | none => return none
    | some x =>
      if ← equal run running x v then return some i
      else findHandler e v n (i + 1)

/-- Takes the first handler away that equals `v`. It is looked for twice: whether there is one, and
where it is. -/
def unsubscribeFrom (e : Nat) (v : Value) : Run Unit := do
  if (← findHandler run running e v capacity 0).isSome then
    match ← findHandler run running e v capacity 0 with
    | some i => changeEvent e (·.remove i)
    | none => throw (.raised "ValueError" "list.remove(x): x not in list")

/-- Asks a value to do something with arguments that are evaluated once it is known to be able to.
-/
def ask (v : Value) (use : String) (args : Run (List Value)) : Run Value := do
  let f ← attributeOf v use
  callValue run running f (← args) []

def subscribe (place : EventPlace) (handler : String) : Run Value := do
  match ← valueAt running place with
  | .ref (.event e) =>
    let v ← resolve running handler
    changeEvent e (·.subscribe v)
    return v
  | v => ask run running v "subscribe" (return [← resolve running handler])

def unsubscribe (place : EventPlace) (handler : String) : Run Value := do
  match ← valueAt running place with
  | .ref (.event e) =>
    unsubscribeFrom run running e (← resolve running handler)
    return .null
  | v => ask run running v "unsubscribe" (return [← resolve running handler])

def fire (place : EventPlace) (args : List Term) (kwargs : List (String × Term)) (isCall : Bool) :
    Run Value := do
  let v ← valueAt running place
  let f ← match v, isCall with
    | .ref (.event _), _ | _, true => pure v
    | v, false => attributeOf v "fire"
  let given ← evalAll running args
  let named ← evalNamed running kwargs
  callValue run running f given named

def lengthOf (v : Value) : Run Nat := do
  match v with
  | .ref (.event e) => return (← eventAt e).handlers.length
  | .text s => return s.length
  | .list i => return (((← get).rest.lists[i]?).getD []).length
  | .tuple vs => return vs.length
  | .ref (.object i) =>
    let h ← hierarchy
    let c := (h.instanceAt i).cls
    if [Builtin.str, Builtin.list, Builtin.dict, Builtin.bytes].any (h.isSubclass c ·) then return 0
    else throw (.operation (.noLength (← kindOf v)))
  | v => throw (.operation (.noLength (← kindOf v)))

def itemsOf (v : Value) : Run (List Value) := do
  match v with
  | .list i => return ((← get).rest.lists[i]?).getD []
  | .tuple vs => return vs
  | .text s => return s.toList.map fun c => .text (String.singleton c)
  | v => throw (.operation (.notIterable (← kindOf v)))

def plus (v other : Value) : Run Value := do
  match v, other with
  | .ref (.event e), _ =>
    changeEvent e (·.subscribe other)
    return v
  | .list i, _ =>
    let items ← itemsOf other
    objects fun o => { o with lists := o.lists.modify i (· ++ items) }
    return v
  | .text s, .text t => return .text (s ++ t)
  | .tuple xs, .tuple ys => return .tuple (xs ++ ys)
  | .int m, .int n => return .int (m + n)
  | .text _, _ => throw (.operation (.notConcatenable "str" (← kindOf other)))
  | .tuple _, _ => throw (.operation (.notConcatenable "tuple" (← kindOf other)))
  | _, _ => throw (.operation (.noOperator "+=" (← kindOf v) (← kindOf other)))

def minus (v other : Value) : Run Value := do
  match v, other with
  | .ref (.event e), _ =>
    unsubscribeFrom run running e other
    return v
  | .int m, .int n => return .int (m - n)
  | _, _ => throw (.operation (.noOperator "-=" (← kindOf v) (← kindOf other)))

/-- An augmented assignment: the value is changed and stored where it was asked for. -/
def augment (on attr handler : String) (f : Value → Value → Run Value) : Run Unit := do
  let target ← resolve running on
  let v ← attributeOf target attr
  let other ← resolve running handler
  writeTo target attr (← f v other)

end StateWeave.World
