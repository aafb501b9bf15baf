/-! Log records: what the host reports, by severity and by the part that reports it. -/
namespace ScriptHost

inductive Level where
  | error | warn | info | debug | trace
  deriving DecidableEq, Repr

namespace Level

def name : Level → String
  | .error => "ERROR"
  | .warn => "WARN"
  | .info => "INFO"
  | .debug => "DEBUG"
  | .trace => "TRACE"

/-- The rank of a level; the graver, the smaller. -/
def rank : Level → Nat
  | .error => 1
  | .warn => 2
  | .info => 3
  | .debug => 4
  | .trace => 5

end Level

/-- The part of the host that a record comes from. -/
inductive Source where
  | config | evaluator | handle | lock | marshal | registry | reload | scope | script
  deriving DecidableEq, Repr

def Source.name : Source → String
  | .config => "pyhost::config"
  | .evaluator => "pyhost::evaluator"
  | .handle => "pyhost::handle"
  | .lock => "pyhost::lock"
  | .marshal => "pyhost::marshal"
  | .registry => "pyhost::registry"
  | .reload => "pyhost::reload"
  | .scope => "pyhost::scope"
  | .script => "pyhost::script"

/-- A log record. -/
structure Record where
  level : Level
  source : Source
  message : String
  deriving DecidableEq, Repr

end ScriptHost
