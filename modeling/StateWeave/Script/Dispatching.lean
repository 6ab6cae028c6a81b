import StateWeave.Script.ClassStatement

/-! Registries, references and orchestrators as scripts use them, and the world as a host of reload
cycles. -/

namespace StateWeave.World

variable (run : Runner) (running : Option Value)

def channelNamed (label : String) : Run ChannelName :=
  match ChannelName.ofLabel? label with
  | some channel => return channel
  | none => throw (.unknownChannel label)

def registryFor (module : String) : Run Nat :=
  Site.onRegistries (·.registryFor module)

def describeRegistry (id : Nat) : Run Shown := do
  return .text (← Site.onRegistries (·.describe id))

def addRival (module label : String) (actions : List Script) : Run Unit := do
  let id ← registryFor module
  let channel ← channelNamed label
  Site.onRegistries fun rs =>
    let r := rs.get id
    ((), rs.set id (r.setChannel ((r.channel channel).addRival (actions.map .script)) channel))

/-- The token of a name, made on first use; any object that has the name will do. -/
def tokenNamed (name : String) : Run Value := do
  match (← get).rest.handles.get? name with
  | some v => return v
  | none =>
    let made := Value.ref (.token (← get).rest.tokens)
    objects fun o => { o with tokens := o.tokens + 1 }
    bind name made
    return made

def newReference (id token : String) : Run Unit := do
  let value ← tokenNamed token
  let made := Value.ref (.reference (← get).rest.references.length)
  objects fun o => { o with references := o.references ++ [⟨value⟩] }
  bind id made

/-- The reference under a handle; any other object is asked for what it would be used for. -/
def referenceUnder (id use : String) : Run Nat := do
  match ← resolve running id with
  | .ref (.reference r) => return r
  | v =>
    discard (attributeOf v use)
    throw (.operation (.notCallable (← kindOf v)))

def valueOfReference (r : Nat) : Run Value := do
  return (((← get).rest.references[r]?).getD default).value

def compareAndSet (id expected new : String) : Run Bool := do
  let r ← referenceUnder running id "compare_and_set"
  let seen ← tokenNamed expected
  let next ← tokenNamed new
  let x := (((← get).rest.references[r]?).getD default)
  let (swapped, changed) := x.compareAndSet seen next
  objects fun o => { o with references := o.references.set r changed }
  return swapped

def describeFailure : Failure → Run String
  | .unspeakable _ why => throw (.speech why)
  | e => return e.describe

def host : Host Action Objects Failure where
  call := call run running
  collect := do
    trace (.text "collect")
    run running (← get).rest.barrier
  tell sink e message := do
    trace (.text ("sink " ++ e.kind ++ " | " ++ message))
    call run running sink
  isReported := Failure.isReported
  describe := describeFailure

def orchestratorUnder (id use : String) : Run Nat := do
  match ← resolve running id with
  | .ref (.orchestrator x) => return x
  | v =>
    discard (attributeOf v use)
    throw (.operation (.notCallable (← kindOf v)))

def phaseOf (id : String) : Run String := do
  return ((← get).orchestrator (← orchestratorUnder running id "state")).phase.label

end StateWeave.World
