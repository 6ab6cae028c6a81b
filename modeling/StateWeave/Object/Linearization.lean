/-! The order in which a class and its ancestors are searched: a class stands before its bases,
bases stand in the order they are given, and the orders of the bases are kept. -/

namespace StateWeave.Linearization

def heads (orders : List (List Nat)) : List Nat :=
  (orders.filterMap (·.head?)).eraseDups

def nextHead? (orders : List (List Nat)) : Option Nat :=
  (heads orders).find? fun c => orders.all fun o => !o.tail.contains c

/-- Merges orders within this many steps. Where no class can be next, the classes in front are the
reason. -/
def mergeWithin : Nat → List (List Nat) → Except (List Nat) (List Nat)
  | 0, _ => .ok []
  | n + 1, orders =>
    if orders.all (·.isEmpty) then .ok []
    else match nextHead? orders with
      | none => .error (heads orders)
      | some c => do
        let rest ← mergeWithin n (orders.map fun o => if o.head? = some c then o.tail else o)
        return c :: rest

/-- One order that keeps all the given ones, if there is any; every step takes at least one entry.
-/
def merge (orders : List (List Nat)) : Except (List Nat) (List Nat) :=
  mergeWithin orders.flatten.length orders

end StateWeave.Linearization
