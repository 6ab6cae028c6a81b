import StateWeave.Script.Answer
import StateWeave.Script.Dispatching
import StateWeave.Script.Raise

/-! Running scripts. A step is carried out by `exec`, which runs the actions it calls through the
runner it is given; `runWithin` closes the circle and bounds how deep actions may call each other.
-/

namespace StateWeave.World

variable (run : Runner) (running : Option Value)

def exec : Step → Run Answer
  | .log s => done (trace (.text s))
  | .logClass => done do
    match ← attributeOf (← resolve running "cls") "__qualname__" with
    | .text s => trace (.text ("cls " ++ s))
    | v => trace (.text ("cls " ++ (← describe v)))
  | .logAttribute on attr => done do
    trace (.row [.text attr, ← shown (← attributeOf (← resolve running on) attr)])
  | .logState id => done do trace (.text ("state " ++ (← phaseOf running id)))
  | .raise kind args => throw (.ofArguments kind args)
  | .registry module => do return .shown (← describeRegistry (← registryFor module))
  | .sameRegistry a b => answerBool do return (← registryFor a) == (← registryFor b)
  | .register module channel body => done do
    let id ← registryFor module
    addAction id (← channelNamed channel) (.script body)
  | .invoke module channel => done do
    let id ← registryFor module
    Site.invoke (call run running) id (← channelNamed channel)
  | .count module channel => answerNat do
    let id ← registryFor module
    let channel ← channelNamed channel
    return (← Site.onRegistries (·.snapshot id channel)).length
  | .registries => do
    return .shown (.row (← (← get).registries.all.mapM describeRegistry))
  | .clearRegistries => done (Site.onRegistries fun rs => ((), rs.clear))
  | .rival module channel actions => done (addRival module channel actions)
  | .atomic id token => done (newReference id token)
  | .compareAndSet id expected new => answerBool (compareAndSet running id expected new)
  | .atomicGet id => answerText do
    match ← valueOfReference (← referenceUnder running id "get") with
    | .ref r => nameOf r
    | v => describe v
  | .orchestrator id modules before sink => done <| newOrchestrator id {
      scope := modules.elim .all (.modules (.script before) ·), sink := sink.map .script }
  | .cycle id => answerBool do
    (host run running).cycle (← orchestratorUnder running id "run_cycle")
  | .reload => answerBool ((host run running).cycle Site.mainOrchestrator)
  | .state id => answerText (phaseOf running id)
  | .setSink sink => done <|
    Site.modifyOrchestrator Site.mainOrchestrator ({ · with sink := sink.map .script })
  | .barrier body => done (objects ({ · with barrier := body }))
  | .config changes => changeConfig (·.update changes)
  | .replaceConfig changes => changeConfig fun _ => Config.update {} changes
  | .make t => answerValue (eval running t)
  | .cls id name module qualname bases body isTraced =>
    answerClass run running id name module qualname bases body isTraced
  | .rebuild id cls => answerMade id do
    Value.ofClass <$> rebuild run running (← resolve running cls)
  | .newInstance id cls => answerMade id do
    callValue run running (← resolve running cls) [] []
  | .get on attr => answerValue do attributeOf (← resolve running on) attr
  | .set on attr t => done do
    let target ← resolve running on
    writeTo target attr (← eval running t)
  | .del on attr => done do deleteFrom (← resolve running on) attr
  | .append on attr t => done (discard (appendTo run running on attr t))
  | .vars on => answerVars running on
  | .repr id => answerText do describe (← resolve running id)
  | .isSubclass a b => answerBool do
    let c ← resolve running a
    isSubclass c (← resolve running b)
  | .assignStatic on attr t => done do
    let target ← resolve running on
    assignStatic target attr (← eval running t)
  | .storeStatic on attr t => answerValue do
    let target ← resolve running on
    let v ← eval running t
    storeStatic target attr v
    return v
  | .propertyGet id holder owner => answerValue (propertyValue running id holder owner)
  | .neverReload cls => answerValue do
    let v ← resolve running cls
    markNeverReload v
    return v
  | .onTypeUnload order => do
    return .shown (.row [.bool true, ← shown (← eval running order)])
  | .handler id body => done (newHandler id body)
  | .subscribe place id => answerValue (subscribe run running place id)
  | .unsubscribe place id => done (discard (unsubscribe run running place id))
  | .fire place args kwargs isCall => done <|
    discard (fire run running place args kwargs isCall)
  | .length place => answerNat do lengthOf (← valueAt running place)
  | .eventRepr place => answerText do describe (← valueAt running place)
  | .addHandler on attr id => done (augment running on attr id plus)
  | .removeHandler on attr id => done (augment running on attr id (minus run running))
  | .setName id cls name => done (setName run running id cls name)
  | .initRegister id cls => done do
    match ← resolve running id with
    | .ref (.initializer i) =>
      registerUnits i ((← cls.mapM (resolve running)).bind given?)
    | v => discard (ask run running v "register" (return []))
  | .initInstantiation id cls => done do
    match ← resolve running id with
    | .ref (.initializer i) => setUp run running i (← resolve running cls)
    | v => discard (ask run running v "initialize_instantiation" (return []))
  | .subscript cls args isSingle name? => answerSubscript run running cls args isSingle name?
  | .isOpen t => answerBool do isOpen (← eval running t)
  | .reified t => do answerReified (← eval running t)
  | .instantiations cls => do answerInstantiations (← resolve running cls)
  | .clearCache => done (objects ({ · with instantiations := [] }))

/-- Runs the steps in order, down to this depth of actions calling actions. Their answers are
dropped; a failure ends the script. -/
def runWithin : Nat → Runner
  | 0, _, _ => throw .tooDeep
  | n + 1, running, steps => steps.forM fun s => do discard (exec (runWithin n) running s)

def depth : Nat := 1000

def settle : Answer → Run Reply
  | .value v => do return .shown (← shown v)
  | .reply r => return r

/-- Carries out a step at the top level. The trace and the log are those of this step alone. -/
def step (s : Step) (w : World) : Except Failure Reply × World :=
  (do settle (← exec (runWithin depth) none s) : Run Reply)
    { w with log := [], rest := { w.rest with trace := [] } }

end StateWeave.World
