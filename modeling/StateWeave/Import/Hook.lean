import StateWeave.Text.Dotted

/-! Which modules an import hook weaves. -/

namespace StateWeave

structure ImportHook where
  prefixes : List String
deriving Repr, Inhabited

namespace ImportHook

def excluded : List String := ["typereload"]

/-- A module is covered if it has the name of a prefix or lies below one, unless it is excluded. -/
def covers (h : ImportHook) (name : String) : Bool :=
  !excluded.any (Dotted.within · name) && h.prefixes.any (Dotted.within · name)

def installedMessage (h : ImportHook) : String :=
  "Installed import hook for " ++ String.intercalate ", " h.prefixes

end ImportHook

end StateWeave
