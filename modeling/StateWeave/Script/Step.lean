import StateWeave.Config
import StateWeave.Script.Plain

/-! Scripts stand for the code of the host program: what its actions, units and handlers do, and
what it does itself at the top level. Objects are named by handles. -/

namespace StateWeave

/-- Where an event is found: under a handle, or as an attribute. -/
inductive EventPlace
  | handle (id : String)
  | attribute (on attr : String)
deriving Repr, Inhabited

/-- A base in a class statement: a class, or the type variables the class is generic over. -/
inductive BaseTerm
  | handle (id : String)
  | generic (typeVars : List String)
deriving Repr, Inhabited

mutual

/-- A value as a script writes it. Some terms make a new object under the given handle. -/
inductive Term
  | null
  | bool (b : Bool)
  | int (n : Int)
  | float (text : String)
  | text (s : String)
  | list (items : List Term)
  | tuple (items : List Term)
  | listOf (item : Term)
  | handle (id : String)
  | property (id : String) (value : Term)
  | event (id : String)
  | initializer (id module : String) (unload load : Option UnitCode) (isGeneric : Bool)

/-- The code of an unload or load unit. A class unit knows its class under the handle `cls`. -/
inductive UnitCode
  | mk (isClassUnit : Bool) (steps : List Step)

inductive Step
  -- Effects
  | log (text : String)
  | logClass
  | logAttribute (on attr : String)
  | logState (orchestrator : String)
  | raise (kind : String) (args : List Plain)
  -- Registries
  | registry (module : String)
  | sameRegistry (a b : String)
  | register (module channel : String) (action : List Step)
  | invoke (module channel : String)
  | count (module channel : String)
  | registries
  | clearRegistries
  | rival (module channel : String) (actions : List (List Step))
  | atomic (id token : String)
  | compareAndSet (id expected new : String)
  | atomicGet (id : String)
  -- Reloading
  | orchestrator (id : String) (modules : Option (List String)) (before : List Step)
      (sink : Option (List Step))
  | cycle (id : String)
  | reload
  | state (id : String)
  | setSink (sink : Option (List Step))
  | barrier (action : List Step)
  | config (changes : Settings)
  | replaceConfig (changes : Settings)
  -- Classes and attributes
  | make (term : Term)
  | cls (id name module qualname : String) (bases : List BaseTerm) (body : List (String × Term))
      (isTraced : Bool)
  | rebuild (id cls : String)
  | newInstance (id cls : String)
  | get (on attr : String)
  | set (on attr : String) (value : Term)
  | del (on attr : String)
  | append (on attr : String) (value : Term)
  | vars (on : String)
  | repr (id : String)
  | isSubclass (a b : String)
  | assignStatic (on attr : String) (value : Term)
  | storeStatic (on attr : String) (value : Term)
  | propertyGet (id : String) (holder owner : Option String)
  | neverReload (cls : String)
  | onTypeUnload (order : Term)
  -- Events
  | handler (id : String) (action : List Step)
  | subscribe (place : EventPlace) (handler : String)
  | unsubscribe (place : EventPlace) (handler : String)
  | fire (place : EventPlace) (args : List Term) (kwargs : List (String × Term)) (isCall : Bool)
  | length (place : EventPlace)
  | eventRepr (place : EventPlace)
  | addHandler (on attr handler : String)
  | removeHandler (on attr handler : String)
  -- Initializers and instantiations
  | setName (id cls name : String)
  | initRegister (id : String) (cls : Option String)
  | initInstantiation (id cls : String)
  | subscript (cls : String) (args : List Term) (isSingle : Bool) (name? : Option String)
  | isOpen (value : Term)
  | reified (value : Term)
  | instantiations (cls : String)
  | clearCache

end

instance : Inhabited Term := ⟨.null⟩
instance : Inhabited UnitCode := ⟨.mk false []⟩
instance : Inhabited Step := ⟨.logClass⟩

abbrev Script := List Step

end StateWeave
