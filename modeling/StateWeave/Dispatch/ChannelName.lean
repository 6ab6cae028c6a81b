/-! The two channels of a registry. -/

namespace StateWeave

inductive ChannelName
  | unload | load
deriving DecidableEq, Repr, Inhabited

namespace ChannelName

def all : List ChannelName := [.unload, .load]

def label : ChannelName → String
  | .unload => "unload"
  | .load => "load"

def ofLabel? (s : String) : Option ChannelName :=
  all.find? (·.label == s)

end ChannelName

end StateWeave
