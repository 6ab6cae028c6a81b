import StateWeave.Dispatch.Registry
import StateWeave.Object.ClassFault
import StateWeave.Object.Fact
import StateWeave.Object.OperationFault
import StateWeave.Object.TypingFault
import StateWeave.Text.Unwritable

/-! What a running script may raise. -/

namespace StateWeave

inductive SpeechFault
  | tooManyDigits
  /-- A failure of this kind names a place before the beginning of its text. -/
  | outside (kind : String)
deriving DecidableEq, Repr

namespace SpeechFault

def kind : SpeechFault → String
  | .tooManyDigits => "ValueError"
  | .outside _ => "SystemError"

def text : SpeechFault → String
  | .tooManyDigits => Written.digitsMessage
  | .outside kind =>
    "<built-in method __format__ of " ++ kind ++ " object> returned a result with an exception set"

end SpeechFault

inductive Failure
  | raised (kind text : String)
  | unspeakable (kind : String) (why : SpeechFault)
  | speech (why : SpeechFault)
  | attribute (fault : AttributeFault)
  | operation (fault : OperationFault)
  | cls (fault : ClassFault)
  | statement (fault : ClassFault)
  | typing (fault : TypingFault)
  | unknownChannel (text : String)
  | unknownHandle (id : String)
  | tooDeep
deriving Repr

namespace Failure

def kind : Failure → String
  | .raised kind _ => kind
  | .unspeakable kind _ => kind
  | .speech why => why.kind
  | .attribute fault => fault.kind
  | .cls fault | .statement fault => fault.kind
  | .operation _ => "TypeError"
  | .typing fault => fault.kind
  | .unknownChannel _ => "ValueError"
  | .unknownHandle _ => "KeyError"
  | .tooDeep => "RecursionError"

def text : Failure → String
  | .raised _ text => text
  | .unspeakable _ _ => ""
  | .speech why => why.text
  | .attribute fault => fault.message
  | .operation fault => fault.message
  | .cls fault | .statement fault => fault.message
  | .typing fault => fault.message
  | .unknownChannel text =>
    "Unknown channel " ++ Quoted.text text ++ "; expected one of " ++
      String.intercalate ", " (ChannelName.all.map (·.label))
  | .unknownHandle id => Quoted.text id
  | .tooDeep => "maximum recursion depth exceeded"

/-- The text of the failure for who asked for the step, unless its wording is left to the language.
-/
def message? : Failure → Option String
  | .statement _ | .typing _ | .unspeakable _ _ | .speech (.outside _) => none
  | e => some e.text

def stopRequests : List String :=
  ["KeyboardInterrupt", "SystemExit", "GeneratorExit", "BaseException"]

/-- Failures are reported by a reload cycle; requests to stop go through it. -/
def isReported (e : Failure) : Bool :=
  !stopRequests.contains e.kind

def describe (e : Failure) : String :=
  e.kind ++ ": " ++ e.text

def missing (kind attr : String) : Failure :=
  .attribute (.missing kind attr)

end Failure

end StateWeave
