import StateWeave.Import.Thing

/-! Whether a function takes the arguments that it is given. -/

namespace StateWeave

structure Arguments where
  positional : List Thing
  named : List (String × Thing)
  /-- Whether all of them are known, also those that were unpacked. -/
  isWhole : Bool := true

namespace Code

variable (f : Code)

def positionalNames : List String :=
  (f.params.posOnly ++ f.params.positional).map (·.name)

def hasDefault (name : String) : Bool :=
  f.defaults.any (·.1 == name)

def enumerated (names : List String) : String :=
  match names.map fun name => "'" ++ name ++ "'" with
  | [a, b] => a ++ " and " ++ b
  | quoted => match quoted.getLast?, quoted.length with
    | some last, n + 3 => Source.commaSeparated (quoted.take (n + 2)) ++ ", and " ++ last
    | _, _ => Source.commaSeparated quoted

def counted (count : Nat) (what : String) : String :=
  toString count ++ " " ++ what ++ (if count = 1 then "" else "s")

def missingText (kind : String) (names : List String) : Option String :=
  if names.isEmpty then none
  else some (f.name ++ "() missing " ++ counted names.length ("required " ++ kind ++ " argument")
    ++ ": " ++ enumerated names)

def excessText (given : Nat) (named : List String) : Option String :=
  let names := f.positionalNames
  let least := (names.filter fun name => !f.hasDefault name).length
  if f.params.vararg.isSome || given ≤ names.length then none
  else
    let takes :=
      if least < names.length then
        "from " ++ toString least ++ " to " ++ toString names.length ++ " positional arguments"
      else counted names.length "positional argument"
    let byName := (f.params.kwOnly.filter fun a => named.contains a.name).length
    let more := if byName = 0 then ""
      else " positional argument" ++ (if given = 1 then "" else "s") ++ " (and "
        ++ counted byName "keyword-only argument" ++ ")"
    some (f.name ++ "() takes " ++ takes ++ " but " ++ toString given ++ more
      ++ (if given = 1 && byName = 0 then " was given" else " were given"))

def strangeText (given : Nat) (named : List String) : Option String :=
  let names := f.positionalNames
  let byPlace := f.params.posOnly.map (·.name)
  let byName := (f.params.positional ++ f.params.kwOnly).map (·.name)
  let strange := named.filter (!byName.contains ·)
  match strange, named.find? fun name => byName.contains name && (names.take given).contains name with
  | name :: _, twice? =>
    if f.params.kwarg.isSome then
      twice?.map fun name => f.name ++ "() got multiple values for argument '" ++ name ++ "'"
    else if byPlace.contains name then
      some (f.name ++ "() got some positional-only arguments passed as keyword arguments: '"
        ++ ", ".intercalate (strange.filter byPlace.contains) ++ "'")
    else some (f.name ++ "() got an unexpected keyword argument '" ++ name ++ "'")
  | [], some name => some (f.name ++ "() got multiple values for argument '" ++ name ++ "'")
  | [], none => none

/-- Why the function does not take these arguments, if it does not. -/
def refusal? (given : Nat) (named : List String) : Option String :=
  let isMissing (name : String) : Bool := !named.contains name && !f.hasDefault name
  (f.strangeText given named).or <| (f.excessText given named).or <|
    (f.missingText "positional" ((f.positionalNames.drop given).filter isMissing)).or
      (f.missingText "keyword-only" ((f.params.kwOnly.map (·.name)).filter isMissing))

end Code

def Thing.refusal? (args : Arguments) : Thing → Option String
  | .function code | .staticMethod (.function code) =>
    code.refusal? args.positional.length (args.named.map (·.1))
  | .bound _ (.function code) =>
    code.refusal? (args.positional.length + 1) (args.named.map (·.1))
  | _ => none

end StateWeave
