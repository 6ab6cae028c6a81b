/-! Tables that keep their keys in the order of first insertion. -/

namespace StateWeave

structure Table (κ α : Type) where
  entries : List (κ × α)
deriving Repr, Inhabited

namespace Table

variable {κ α : Type}

instance : EmptyCollection (Table κ α) := ⟨⟨[]⟩⟩

def keys (t : Table κ α) : List κ :=
  t.entries.map (·.1)

def values (t : Table κ α) : List α :=
  t.entries.map (·.2)

def size (t : Table κ α) : Nat :=
  t.entries.length

variable [BEq κ]

def get? (t : Table κ α) (k : κ) : Option α :=
  (t.entries.find? (·.1 == k)).map (·.2)

def contains (t : Table κ α) (k : κ) : Bool :=
  t.entries.any (·.1 == k)

/-- A key that is already there keeps its place and its own spelling. -/
def insert (t : Table κ α) (k : κ) (v : α) : Table κ α :=
  if t.contains k then ⟨t.entries.map fun e => if e.1 == k then (e.1, v) else e⟩
  else ⟨t.entries ++ [(k, v)]⟩

def erase (t : Table κ α) (k : κ) : Table κ α :=
  ⟨t.entries.filter (!·.1 == k)⟩

def ofList (es : List (κ × α)) : Table κ α :=
  es.foldl (fun t e => t.insert e.1 e.2) ∅

end Table

end StateWeave
