/-! Dotted names such as `app.settings`. -/

namespace StateWeave.Dotted

def splitComponents : List Char → List (List Char)
  | [] => [[]]
  | c :: cs =>
    if c = '.' then [] :: splitComponents cs
    else match splitComponents cs with
      | [] => [[c]]
      | part :: parts => (c :: part) :: parts

def components (name : String) : List String :=
  (splitComponents name.toList).map String.ofList

def head (name : String) : String :=
  String.ofList (name.toList.takeWhile (· != '.'))

def last (name : String) : String :=
  String.ofList (name.toList.reverse.takeWhile (· != '.')).reverse

/-- Whether `name` is `package` or lies below it. -/
def within (package name : String) : Bool :=
  name == package || (package ++ ".").toList.isPrefixOf name.toList

def join (parts : List String) : String :=
  String.intercalate "." parts

end StateWeave.Dotted
