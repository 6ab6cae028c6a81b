/-! Events call their handlers in the order of subscription. -/

namespace StateWeave

structure EventObject (H : Type) where
  handlers : List H := []
deriving Repr, Inhabited

namespace EventObject

variable {H : Type}

def subscribe (e : EventObject H) (handler : H) : EventObject H :=
  ⟨e.handlers ++ [handler]⟩

def remove (e : EventObject H) (index : Nat) : EventObject H :=
  ⟨e.handlers.eraseIdx index⟩

def fire {m : Type → Type} [Monad m] (e : EventObject H) (call : H → m Unit) : m Unit :=
  e.handlers.forM call

def describe (e : EventObject H) : String :=
  "<StaticEvent handlers=" ++ toString e.handlers.length ++ ">"

end EventObject

end StateWeave
