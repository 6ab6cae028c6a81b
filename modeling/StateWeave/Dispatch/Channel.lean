import StateWeave.Dispatch.AtomicRef

/-! A channel holds the actions that one call runs, as a value that is replaced and never changed.
Whoever registers an action reads the value, puts the action behind it and swaps the result in,
unless somebody else was quicker; then it starts over. -/

namespace StateWeave

/-- A sequence of actions. Every one that is put together gets a stamp of its own. -/
structure Composite (A : Type) where
  stamp : Nat
  actions : List A
deriving Repr, Inhabited

/-- Two composites are the same if they were put together by the same step, whatever they hold. -/
instance {A : Type} : BEq (Composite A) := ⟨fun a b => a.stamp == b.stamp⟩

structure Channel (A : Type) where
  current : AtomicRef (Composite A) := ⟨⟨0, []⟩⟩
  fresh : Nat := 1
  /-- Other parties that wait for somebody to read the channel. Each holds the actions it still has
  to register and tries one of them after every read. -/
  rivals : List (List A) := []
deriving Inhabited

namespace Channel

variable {A : Type}

def actions (c : Channel A) : List A :=
  c.current.value.actions

def attempt (c : Channel A) (seen : Composite A) (a : A) : Bool × Channel A :=
  let (done, current) := c.current.compareAndSet seen ⟨c.fresh, seen.actions ++ [a]⟩
  (done, { c with current, fresh := c.fresh + 1 })

/-- What the channel holds. Right after that the rivals try, all against the value just read, so
that only the first of them succeeds. -/
def read (c : Channel A) : Composite A × Channel A :=
  let seen := c.current.value
  let tried := (c.rivals.filterMap (·.head?)).foldl (fun c a => (c.attempt seen a).2) c
  (seen, { tried with rivals := c.rivals.map (·.tail) })

def waiting (c : Channel A) : Nat :=
  c.rivals.flatten.length

def registerWithin : Nat → Channel A → A → Channel A
  | 0, c, _ => c
  | n + 1, c, a =>
    let (seen, c) := c.read
    let (done, c) := c.attempt seen a
    if done then c else registerWithin n c a

/-- Adds an action at the end. An attempt fails only after a rival had its turn, so there is no need
for more than one attempt above the turns that are left. -/
def register (c : Channel A) (a : A) : Channel A :=
  registerWithin (c.waiting + 1) c a

def addRival (c : Channel A) (actions : List A) : Channel A :=
  { c with rivals := c.rivals ++ [actions] }

end Channel

end StateWeave
