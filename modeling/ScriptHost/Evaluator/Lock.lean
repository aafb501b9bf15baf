import ScriptHost.Evaluator.World

/-! The lock around the interpreter: a call inside another one is refused, and every way out of
the outermost call opens the lock again. -/
namespace ScriptHost

/-- A computation of the host that gave up without a result. -/
structure Panic where
  deriving DecidableEq

namespace Lock

private def refusal : String := "[Lock] Re-entrant acquisition of the interpreter lock refused"

/-- Runs a call inside the lock, unless one is inside it already. -/
def within {α : Type} (run : WorldM α) : WorldM (Except EvalError α) := do
  if (← get).held then
    WorldM.record .error .lock refusal
    return .error .reentrantLock
  else
    modify fun w => { w with held := true }
    let answer ← run
    modify fun w => { w with held := false }
    return .ok answer

/-- Runs a call that may panic inside the lock, unless one is inside it already. -/
def withinUnwinding {α : Type} (run : EStateM Panic World α) :
    EStateM Panic World (Except EvalError α) := fun w =>
  if w.held then
    let (_, w) := WorldM.record .error .lock refusal w
    .ok (.error .reentrantLock) w
  else
    match run { w with held := true } with
    | .ok answer w => .ok (.ok answer) { w with held := false }
    | .error panic w => .error panic { w with held := false }

end Lock
end ScriptHost
