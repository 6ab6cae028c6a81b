import StateWeave.Fault
import StateWeave.Import.Standard

/-! What stops an import. -/

namespace StateWeave

inductive ImportFault
  | notFound (module : String)
  /-- An import that is refused for another reason, in words of the system. -/
  | refused (kind : String)
  | weave (fault : Fault)
  /-- Raised by the code of a module; the kinds go from special to general. -/
  | raised (kinds : List String) (text : String)
deriving Repr

def errorKinds (name : String) : List String :=
  if name = "AlreadyTransformedError" || name = "GenericContextError" then
    name :: "WeaveError" :: Standard.kindsOf "Exception"
  else if name.endsWith "Error" || name.endsWith "Exception" || name.endsWith "Warning" then
    name :: Standard.kindsOf "Exception"
  else []

namespace ImportFault

def ofKind (kind text : String) : ImportFault :=
  .raised (Standard.kindsOf kind) text

def kinds : ImportFault → List String
  | .notFound _ => Standard.kindsOf "ModuleNotFoundError"
  | .refused kind => Standard.kindsOf kind
  | .weave fault =>
    if Standard.isException fault.kind then Standard.kindsOf fault.kind else errorKinds fault.kind
  | .raised kinds _ => kinds

def noSuchName : ImportFault := .refused "ImportError"

def kind (f : ImportFault) : String :=
  f.kinds.headD "Exception"

/-- The text of the failure, unless the words are those of the system. -/
def message? : ImportFault → Option String
  | .notFound _ | .refused _ => none
  | .weave fault => fault.message?
  | .raised _ text => some text

end ImportFault

end StateWeave
