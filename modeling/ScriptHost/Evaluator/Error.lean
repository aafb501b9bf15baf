import ScriptHost.Guest.Fault
import ScriptHost.Value.Error

/-! Errors of an evaluator. -/
namespace ScriptHost

inductive EvalError where
  /-- A script raised; the frames it passed are known. -/
  | script (message traceback : String)
  /-- The interpreter raised without passing a frame. -/
  | interpreter (message : String)
  | conversion (source : ConversionError)
  | reentrantLock
  | notStarted
  deriving DecidableEq

namespace EvalError

/-- The name of the kind of an error. -/
def name : EvalError → String
  | .script _ _ => "Script"
  | .interpreter _ => "Python"
  | .conversion _ => "Conversion"
  | .reentrantLock => "ReentrantLock"
  | .notStarted => "NotStarted"

def message : EvalError → String
  | .script message traceback => message ++ "\n" ++ traceback
  | .interpreter message => message
  | .conversion source => "Conversion error: " ++ source.message
  | .reentrantLock => "The interpreter lock is already held by this thread"
  | .notStarted => "The interpreter runtime has not been started"

/-- Whether the error came from a script. -/
def isScriptFailure : EvalError → Bool
  | .script _ _ | .interpreter _ => true
  | _ => false

/-- The error of an exception that ended a script. -/
def ofScriptFault (f : Fault) : EvalError :=
  if f.frames.isEmpty then .interpreter f.message else .script f.message f.traceback

/-- The error of an exception outside a script. -/
def ofFault (f : Fault) : EvalError := .interpreter f.message

end EvalError
end ScriptHost
