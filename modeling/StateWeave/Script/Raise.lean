import StateWeave.Script.Failure
import StateWeave.Script.Plain

/-! Failures that a script raises. Most kinds keep their arguments as they are; failures of the
system, of syntax and of codecs take them apart, and may refuse them. -/

namespace StateWeave.Failure

/-- The text of a failure that keeps its arguments: that of the only one, or of all together. -/
def argumentText? : List Plain → Option String
  | [] => ""
  | [v] => v.text?
  | vs => do return "(" ++ Source.tupleItems (← Plain.shownList? vs) ++ ")"

/-- The failure with this text, if it has one. -/
def worded (kind : String) : Option String → Failure
  | some text => .raised kind text
  | none => .unspeakable kind .tooManyDigits

def refusal (text : String) : Failure := .raised "TypeError" text

def noInteger (v : Plain) : Failure :=
  refusal ("'" ++ v.kind ++ "' object cannot be interpreted as an integer")

def systemKinds : List String :=
  ["OSError", "FileNotFoundError", "FileExistsError", "PermissionError", "IsADirectoryError",
    "NotADirectoryError", "ConnectionError", "BlockingIOError", "ChildProcessError",
    "InterruptedError", "ProcessLookupError", "TimeoutError", "BrokenPipeError",
    "ConnectionAbortedError", "ConnectionRefusedError", "ConnectionResetError"]

def numberedKinds : List (Int × String) :=
  [(1, "PermissionError"), (2, "FileNotFoundError"), (3, "ProcessLookupError"),
    (4, "InterruptedError"), (10, "ChildProcessError"), (11, "BlockingIOError"),
    (13, "PermissionError"), (17, "FileExistsError"), (20, "NotADirectoryError"),
    (21, "IsADirectoryError"), (32, "BrokenPipeError"), (103, "ConnectionAbortedError"),
    (104, "ConnectionResetError"), (108, "BrokenPipeError"), (110, "TimeoutError"),
    (111, "ConnectionRefusedError"), (114, "BlockingIOError"), (115, "BlockingIOError")]

def systemKind (kind : String) (number : Plain) : String :=
  match kind, number.whole? with
  | "OSError", some n => ((numberedKinds.find? (·.1 == n)).map (·.2)).getD kind
  | _, _ => kind

def isCount (n : Int) : Bool :=
  -(Nat.pow 2 63 : Int) ≤ n && n < Nat.pow 2 63

/-- What a failure of the system says about places; a blocked one has a number of characters for the
first. -/
def placesText? : List Plain → Option String
  | [] | .null :: _ => ""
  | [place, _, .null] => do return ": " ++ (← place.shown?)
  | [place, _, other] => do return ": " ++ (← place.shown?) ++ " -> " ++ (← other.shown?)
  | place :: _ => do return ": " ++ (← place.shown?)

def systemFailure (kind : String) (args : List Plain) : Failure :=
  match args with
  | number :: reason :: places =>
    let kind := systemKind kind number
    let text? (places : List Plain) : Option String := do
      return "[Errno " ++ (← number.text?) ++ "] " ++ (← reason.text?) ++ (← placesText? places)
    match kind, places with
    | "BlockingIOError", .float _ :: _ => noInteger (places.headD .null)
    | "BlockingIOError", place :: others => match place.whole? with
      | some n =>
        if isCount n then worded kind (text? [])
        else .raised "ValueError" "cannot fit 'int' into an index-sized integer"
      | none => worded kind (text? (place :: others))
    | _, _ => worded kind (text? places)
  | _ => worded kind (argumentText? args)

/-- What a failure of syntax says about a place: the last part of a path and the number of a line.
-/
def placeText (path line : Plain) : String :=
  let name? := match path with
    | .text s => some (String.ofList (s.toList.reverse.takeWhile (· != '/')).reverse)
    | _ => none
  let line? := match line with
    | .int n => some ("line " ++ toString (if isCount n then n else -1))
    | _ => none
  match name?.toList ++ line?.toList with
  | [] => ""
  | parts => " (" ++ Source.commaSeparated parts ++ ")"

def locatedFailure (kind : String) (message : Plain) (place : List Plain) : Failure :=
  match place with
  | path :: line :: _ :: _ :: rest =>
    if rest.length = 1 then refusal "end_offset must be provided when end_lineno is provided"
    else if rest.length > 2 then
      refusal ("function takes at most 6 arguments (" ++ toString place.length ++ " given)")
    else worded kind do return (← message.text?) ++ placeText path line
  | _ => refusal ("function takes at least 4 arguments (" ++ toString place.length ++ " given)")

def syntaxFailure (kind : String) (args : List Plain) : Failure :=
  match args with
  | [] => .raised kind "None"
  | [message, place] => match place.items? with
    | some items => locatedFailure kind message items
    | none => .operation (.notIterable place.kind)
  | message :: _ => worded kind message.text?

def textArgument (number : Nat) : Plain → Except Failure String
  | .text s => .ok s
  | v => .error (refusal ("argument " ++ toString number ++ " must be str, not "
      ++ match v with
        | .null => "None"
        | v => v.kind))

def groupFailure (args : List Plain) : Failure :=
  match args with
  | [text, members] => match textArgument 1 text, members with
    | .error _, _ => refusal ("BaseExceptionGroup.__new__() argument 1 must be str, not "
        ++ match text with
          | .null => "None"
          | v => v.kind)
    | .ok _, .record _ => refusal "second argument (exceptions) must be a sequence"
    | .ok _, members => match members.items? with
      | some [] => .raised "ValueError" "second argument (exceptions) must be a non-empty sequence"
      | some _ =>
        .raised "ValueError" "Item 0 of second argument (exceptions) is not an exception"
      | none => refusal "second argument (exceptions) must be a sequence"
  | vs => refusal ("BaseExceptionGroup.__new__() takes exactly 2 arguments (" ++
      toString vs.length ++ " given)")

def countArgument (v : Plain) : Except Failure Int :=
  match v.whole? with
  | some n =>
    if isCount n then .ok n
    else .error (.raised "OverflowError" "Python int too large to convert to C ssize_t")
  | none => .error (noInteger v)

/-- A failure of a codec at a place in a text. One that names a single character reads it, even if it
stands before the beginning. -/
def brokenText (kind lead text : String) (start stop : Int) (reason : String) : Failure :=
  if start < text.length ∧ stop = start + 1 then
    match start with
    | .ofNat n =>
      let shown := String.ofList (Quoted.numbered (text.toList.getD n ' '))
      .raised kind (lead ++ " character '" ++ shown ++ "' in position " ++ toString n ++ ": "
        ++ reason)
    | .negSucc _ => .unspeakable kind (.outside kind)
  else
    let last := (stop - 1).bmod (Nat.pow 2 64)
    .raised kind (lead ++ " characters in position " ++ toString start ++ "-" ++ toString last
      ++ ": " ++ reason)

def codecKinds : List (String × Nat) :=
  [("UnicodeDecodeError", 5), ("UnicodeEncodeError", 5), ("UnicodeTranslateError", 4)]

def codecFailure (kind : String) (count : Nat) (args : List Plain) : Except Failure Failure := do
  match kind, args with
  | "UnicodeTranslateError", [text, start, stop, reason] =>
    let text ← textArgument 1 text
    let start ← countArgument start
    let stop ← countArgument stop
    return brokenText kind "can't translate" text start stop (← textArgument 4 reason)
  | "UnicodeEncodeError", [encoding, text, start, stop, reason] =>
    let encoding ← textArgument 1 encoding
    let text ← textArgument 2 text
    let start ← countArgument start
    let stop ← countArgument stop
    return brokenText kind ("'" ++ encoding ++ "' codec can't encode") text start stop
      (← textArgument 5 reason)
  | "UnicodeDecodeError", [encoding, octets, start, stop, reason] =>
    let _ ← textArgument 1 encoding
    let _ ← countArgument start
    let _ ← countArgument stop
    let _ ← textArgument 5 reason
    throw (refusal ("a bytes-like object is required, not '" ++ octets.kind ++ "'"))
  | _, args =>
    throw (refusal ("function takes exactly " ++ toString count ++ " arguments (" ++
      toString args.length ++ " given)"))

def made : Except Failure Failure → Failure
  | .ok e | .error e => e

def ofArguments (kind : String) (args : List Plain) : Failure :=
  let kind := if kind = "EnvironmentError" || kind = "IOError" then "OSError" else kind
  if systemKinds.contains kind && args.length ≤ 5 then systemFailure kind args
  else if ["SyntaxError", "IndentationError", "TabError"].contains kind then syntaxFailure kind args
  else if ["ExceptionGroup", "BaseExceptionGroup"].contains kind then groupFailure args
  else match codecKinds.find? (·.1 == kind), kind, args with
    | some (_, count), _, args => made (codecFailure kind count args)
    | none, "KeyError", [v] => worded kind v.shown?
    | none, _, args => worded kind (argumentText? args)

end StateWeave.Failure
