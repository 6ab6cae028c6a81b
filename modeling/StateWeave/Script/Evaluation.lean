import StateWeave.Script.Attribute

/-! Evaluating the terms of a script; terms that make an object make a new one every time. -/

namespace StateWeave.World

def newProperty (handle : String) (value : Value) : Run Value := do
  let h ← hierarchy
  setHierarchy { h with properties := h.properties ++ [{ value }] }
  let made := Value.ref (.property h.properties.length)
  bind handle made
  return made

def newEvent (handle : String) : Run Value := do
  let made := Value.ref (.event (← get).rest.events.length)
  objects fun o => { o with events := o.events ++ [{}] }
  bind handle made
  return made

def newInitializer (handle : String) (i : Initializer) : Run Value := do
  let made := Value.ref (.initializer (← get).rest.initializers.length)
  objects fun o => { o with initializers := o.initializers ++ [i] }
  bind handle made
  return made

def newHandler (handle : String) (action : Script) : Run Unit := do
  let made := Value.ref (.handler (← get).rest.handlers.length)
  objects fun o => { o with handlers := o.handlers ++ [⟨handle, action⟩] }
  bind handle made

def newOrchestrator (handle : String) (x : Orchestrator Action) : Run Unit := do
  let made := Value.ref (.orchestrator (← get).orchestrators.length)
  modify fun w => { w with orchestrators := w.orchestrators ++ [x] }
  bind handle made

/-- The type of lists of one item. A tuple stands for its items, and there has to be exactly one. -/
def listType (v : Value) : Run Value := do
  let items := match v with
    | .tuple vs => vs
    | v => [v]
  for item in items do
    checkText item
    match item with
    | .tuple _ => throw (.typing (.notType (← describe item)))
    | _ => pure ()
  match items with
  | [item] => return .listOf item (← openVariables item)
  | items => throw (.typing (.wrongNumber "typing.List" items.length 1))

mutual

def eval (running : Option Value) : Term → Run Value
  | .null => return .null
  | .bool b => return .bool b
  | .int n => return .int n
  | .float s => return .float s
  | .text s => return .text s
  | .list items => do newList (← evalAll running items)
  | .tuple items => do return .tuple (← evalAll running items)
  | .listOf item => do listType (← eval running item)
  | .handle id => resolve running id
  | .property id value => do newProperty id (← eval running value)
  | .event id => newEvent id
  | .initializer id module unload load isGeneric =>
    newInitializer id { module, unload, load, isGeneric }

def evalAll (running : Option Value) : List Term → Run (List Value)
  | [] => return []
  | t :: ts => do
    let v ← eval running t
    return v :: (← evalAll running ts)

end

def evalNamed (running : Option Value) (ts : List (String × Term)) : Run (List (String × Value)) :=
  ts.mapM fun (name, t) => do return (name, ← eval running t)

end StateWeave.World
