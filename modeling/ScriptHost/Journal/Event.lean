import ScriptHost.Evaluator.Error
import ScriptHost.Value.Basic

/-! Notifications: what the hooks of an evaluator are told, and what they find out. -/
namespace ScriptHost

/-- Whether a script ran to its end. -/
inductive Outcome where
  | success | failed
  deriving DecidableEq, Repr

def Outcome.name : Outcome → String
  | .success => "Success"
  | .failed => "Failed"

/-- A notification to a hook, named by its place in the evaluator's list. -/
inductive Event where
  | started (hook : Nat) (values : List Value)
  /-- Calls that a hook made into its evaluator, with the error that each one met. -/
  | reentered (hook : Nat) (held : Bool) (errors : List (Option EvalError))
  | output (hook : Nat) (label line : String)
  | finished (hook : Nat) (outcome : Outcome) (values : List Value) (readings : List (Option Value))

/-- The place of the hook that is notified. -/
def Event.hook : Event → Nat
  | .started hook _ | .reentered hook _ _ | .output hook _ _ | .finished hook _ _ _ => hook

end ScriptHost
