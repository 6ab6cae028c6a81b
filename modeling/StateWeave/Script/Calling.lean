import StateWeave.Script.ClassStatement

/-! Calling values: handlers, events, the marker that keeps classes out of reloads, and classes,
which make instances. -/

namespace StateWeave.World

variable (run : Runner) (running : Option Value)

def newInstance (c : Nat) : Run Value := do
  let h ← hierarchy
  setHierarchy { h with instances := h.instances ++ [{ cls := c }] }
  return .ref (.object h.instances.length)

def emptyOf? (c : Nat) : Option (Run Value) :=
  if c = Builtin.int then some (return .int 0)
  else if c = Builtin.str then some (return .text "")
  else if c = Builtin.float then some (return .float "0.0")
  else if c = Builtin.bool then some (return .bool false)
  else if c = Builtin.list then some (newList [])
  else if c = Builtin.dict || c = Builtin.bytes then some (newInstance c)
  else if (Builtin.classes[c]?).isSome && c != Builtin.tracingType then some (.ref <$> newPassing)
  else none

/-- Makes an instance. A class may have handlers for making and for setting up its instances;
without them it takes no arguments. -/
def construct (c : Nat) (args : List Value) (kwargs : List (String × Value)) : Run Value := do
  match emptyOf? c with
  | some made => made
  | none =>
    let h ← hierarchy
    match h.lookup? c "__new__", h.lookup? c "__init__" with
    | some (.ref (.handler i)), _ =>
      callHandler run running (Value.ofClass c :: args) kwargs i
      return .null
    | _, some (.ref (.handler i)) =>
      let made ← newInstance c
      callHandler run running (made :: args) kwargs i
      return made
    | _, _ =>
      if !args.isEmpty || !kwargs.isEmpty then
        throw (.operation (.takesNoArguments (h.classAt c).name))
      newInstance c

/-- Keeps a class out of reloads; anything else that takes attributes can be marked as well. -/
def markNeverReload (v : Value) : Run Unit :=
  writeTo v "__never_reload__" (.bool true)

def callMarker (args : List Value) (kwargs : List (String × Value)) : Run Value := do
  for (name, _) in kwargs do
    if name = "self" || (name = "cls" && !args.isEmpty) then
      throw (.operation (.givenTwice OperationFault.marker name))
    if name != "cls" then throw (.operation (.unexpectedKeyword name))
  match args ++ kwargs.map (·.2) with
  | [v] =>
    markNeverReload v
    return v
  | [] => throw (.operation .noClassGiven)
  | args => throw (.operation (.tooManyGiven (args.length + 1)))

/-- Calls a value, down to this depth of events that fire each other. -/
def callWithin : Nat → Value → List Value → List (String × Value) → Run Value
  | 0, _, _, _ => throw .tooDeep
  | n + 1, v, args, kwargs => do
    match v with
    | .ref (.handler i) =>
      callHandler run running args kwargs i
      return .null
    | .bound receiver i =>
      callHandler run running (receiver :: args) kwargs i
      return .null
    | .ref (.event e) =>
      if kwargs.any (·.1 == "self") then
        throw (.operation (.givenTwice "StaticEvent.fire()" "self"))
      (← eventAt e).fire fun h => discard (callWithin n h args kwargs)
      return .null
    | .ref .neverReload => callMarker args kwargs
    | .ref (.cls c) => construct run running c args kwargs
    | .ref (.object i) =>
      let h ← hierarchy
      match (h.lookup? (h.instanceAt i).cls "__call__").map (h.memberOf i "__call__") with
      | some (.ok (f, first)) => callWithin n f (first ++ args) kwargs
      | some (.error fault) => throw (.attribute fault)
      | none => throw (.operation (.notCallable (← kindOf v)))
    | v => throw (.operation (.notCallable (← kindOf v)))

def callValue (v : Value) (args : List Value) (kwargs : List (String × Value)) : Run Value :=
  callWithin run running Objects.depth v args kwargs

end StateWeave.World
