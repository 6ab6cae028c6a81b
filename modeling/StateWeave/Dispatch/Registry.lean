import StateWeave.Dispatch.Channel
import StateWeave.Dispatch.ChannelName
import StateWeave.Table
import StateWeave.Text.Quoted

/-! The registry of a module holds its unload and its load actions. Registries are made on first use
and found by the name of their module. -/

namespace StateWeave

structure Registry (A : Type) where
  module : String
  unload : Channel A := {}
  load : Channel A := {}
deriving Inhabited

namespace Registry

variable {A : Type}

def channel (r : Registry A) : ChannelName → Channel A
  | .unload => r.unload
  | .load => r.load

def setChannel (r : Registry A) (c : Channel A) : ChannelName → Registry A
  | .unload => { r with unload := c }
  | .load => { r with load := c }

def snapshot (r : Registry A) (name : ChannelName) : List A × Registry A :=
  let (seen, c) := (r.channel name).read
  (seen.actions, r.setChannel c name)

def register (r : Registry A) (name : ChannelName) (a : A) : Registry A :=
  r.setChannel ((r.channel name).register a) name

def describe (r : Registry A) : String × Registry A :=
  let (unload, r) := r.snapshot .unload
  let (load, r) := r.snapshot .load
  ("DispatchRegistry(" ++ Quoted.text r.module ++ ", unload=" ++ toString unload.length ++
    ", load=" ++ toString load.length ++ ")", r)

end Registry

/-- All registries ever made, by number, and those that are in use, by module. Who holds the number
of a registry keeps the registry, also when it is forgotten. -/
structure Registries (A : Type) where
  made : List (Registry A) := []
  inUse : Table String Nat := ∅
deriving Inhabited

namespace Registries

variable {A : Type}

def registryFor (rs : Registries A) (module : String) : Nat × Registries A :=
  match rs.inUse.get? module with
  | some id => (id, rs)
  | none => (rs.made.length, ⟨rs.made ++ [{ module }], rs.inUse.insert module rs.made.length⟩)

def get (rs : Registries A) (id : Nat) : Registry A :=
  (rs.made[id]?).getD default

def set (rs : Registries A) (id : Nat) (r : Registry A) : Registries A :=
  { rs with made := rs.made.set id r }

def snapshot (rs : Registries A) (id : Nat) (name : ChannelName) : List A × Registries A :=
  let (actions, r) := (rs.get id).snapshot name
  (actions, rs.set id r)

def register (rs : Registries A) (id : Nat) (name : ChannelName) (a : A) : Registries A :=
  rs.set id ((rs.get id).register name a)

def describe (rs : Registries A) (id : Nat) : String × Registries A :=
  let (text, r) := (rs.get id).describe
  (text, rs.set id r)

def all (rs : Registries A) : List Nat :=
  rs.inUse.values

def clear (rs : Registries A) : Registries A :=
  { rs with inUse := ∅ }

end Registries

end StateWeave
