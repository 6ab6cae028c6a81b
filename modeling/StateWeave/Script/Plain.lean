import StateWeave.Tree.Source

/-! Plain data, which is what failures are raised with. -/

namespace StateWeave

inductive Plain
  | null
  | bool (b : Bool)
  | int (n : Int)
  | float (text : String)
  | text (s : String)
  | list (items : List Plain)
  | record (entries : List (String × Plain))
deriving Repr, Inhabited

namespace Plain

def kind : Plain → String
  | .null => "NoneType"
  | .bool _ => "bool"
  | .int _ => "int"
  | .float _ => "float"
  | .text _ => "str"
  | .list _ => "list"
  | .record _ => "dict"

def whole? : Plain → Option Int
  | .bool b => some (if b then 1 else 0)
  | .int n => some n
  | _ => none

def items? : Plain → Option (List Plain)
  | .list items => some items
  | .record entries => some (entries.map fun (key, _) => .text key)
  | .text s => some (s.toList.map fun c => .text (String.singleton c))
  | _ => none

mutual

def shown? : Plain → Option String
  | .null => "None"
  | .bool b => Constant.boolText b
  | .int n => Written.ofInt? n
  | .float s => s
  | .text s => Quoted.text s
  | .list items => do return "[" ++ Source.commaSeparated (← shownList? items) ++ "]"
  | .record entries => do
    return "\x7b" ++ Source.commaSeparated (← shownEntries? entries) ++ "\x7d"

def shownList? : List Plain → Option (List String)
  | [] => some []
  | v :: vs => do return (← v.shown?) :: (← shownList? vs)

def shownEntries? : List (String × Plain) → Option (List String)
  | [] => some []
  | (key, v) :: es => do
    return (Quoted.text key ++ ": " ++ (← v.shown?)) :: (← shownEntries? es)

end

def text? : Plain → Option String
  | .text s => s
  | v => v.shown?

end Plain

end StateWeave
