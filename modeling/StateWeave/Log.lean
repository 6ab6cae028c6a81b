/-! Log records, kept apart from results so that an operation that fails still leaves its log. -/

namespace StateWeave

inductive LogLevel
  | info | warning | error
deriving DecidableEq, Repr, Inhabited

inductive LogSource
  | synthesizer | callbacks | weaver | orchestrator | importer
deriving DecidableEq, Repr, Inhabited

structure LogRecord where
  level : LogLevel
  source : LogSource
  message : String
deriving DecidableEq, Repr, Inhabited

def LogLevel.label : LogLevel → String
  | .info => "INFO"
  | .warning => "WARNING"
  | .error => "ERROR"

def LogSource.channel : LogSource → String
  | .synthesizer => "typereload.synthesizer"
  | .callbacks => "typereload.callbacks"
  | .weaver => "typereload.weaver"
  | .orchestrator => "typereload.orchestrator"
  | .importer => "typereload.importer"

end StateWeave
