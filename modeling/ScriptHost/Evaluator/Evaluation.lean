import ScriptHost.Evaluator.Bindings
import ScriptHost.Evaluator.Reload
import ScriptHost.Evaluator.Scope
import ScriptHost.Evaluator.Startup
import ScriptHost.Value.Typed

/-! Evaluation: a script runs in a fresh scope between the notifications of the hooks, and its
output binding is read back. -/
namespace ScriptHost

/-- The name that a reset has to be addressed to. -/
def engineName : String := "pyhost"

namespace GuestM

/-- Puts a line writer in the place of standard output, and gives what stood there and the
writer. -/
def redirectOutput (label : String) (listeners : Nat) : GuestM (Identity × Identity) := do
  let system ← hostImport "sys"
  let previous ← attributeOf system "stdout"
  let writer ← allocate (.output { label } listeners)
  modify fun g => { g with writers := g.writers.insert writer ({ label }, listeners) }
  setAttribute system "stdout" writer
  return (previous, writer)

/-- Emits what the writer still holds and puts standard output back in its place. -/
def restoreOutput (previous writer : Identity) : GuestM Unit := do
  if let some (made, listeners) := (← get).writers[writer]? then strike writer made listeners .flush
  setSystem "stdout" previous

end GuestM

/-- What a script finds when it begins: its scope, and what stood in the place of standard output with the writer
that is there instead, if output is redirected. -/
structure Stage where
  scope : Scope
  output : Option (Identity × Identity)

namespace WorldM

/-- The calls that a hook makes, if it makes any. -/
def carryOut (nested : Request → WorldM (Option EvalError)) (place : Nat) (requests : List Request) : WorldM Unit := do
  unless requests.isEmpty do
    let held := (← get).held
    let errors ← requests.mapM nested
    notify (.reentered place held errors)

/-- The notifications before a script, with the bindings that hooks add and the calls they make. -/
def notifyStarted (nested : Request → WorldM (Option EvalError)) (i : Nat) (runtime : Runtime)
    (table : ConverterTable) (scope : Scope) (values : List Value) : List (Nat × Hook) → WorldM Unit
  | [] => return ()
  | (place, hook) :: rest => do
    notify (.started place values)
    discard (cross i runtime (Scope.bindAll table scope hook.inject))
    carryOut nested place hook.requests
    notifyStarted nested i runtime table scope values rest

/-- The values that a hook reads in a scope. -/
def readings (table : ConverterTable) (scope : Scope) : List String → TransferM (List (Option Value))
  | [] => return []
  | name :: names => do
    let v ← Scope.get table scope name
    return v :: (← readings table scope names)

/-- The notifications after a script, with the bindings that hooks read and the calls they make. -/
def notifyFinished (nested : Request → WorldM (Option EvalError)) (i : Nat) (runtime : Runtime)
    (table : ConverterTable) (scope : Scope) (outcome : Outcome) (values : List Value) : List (Nat × Hook) → WorldM Unit
  | [] => return ()
  | (place, hook) :: rest => do
    let found := match ← cross i runtime (readings table scope hook.read) with
      | .ok found => found
      | .error _ => []
    notify (.finished place outcome values found)
    carryOut nested place hook.lateRequests
    notifyFinished nested i runtime table scope outcome values rest

/-- Hooks with their places. -/
def numbered (hooks : List Hook) : List (Nat × Hook) := (List.range hooks.length).zip hooks

/-- Runs a script in a scope and reads the output binding back. -/
def runIn (i : Nat) (runtime : Runtime) (table : ConverterTable) (scope : Scope)
    (code : Script) (output : String) : WorldM (Except EvalError (Option Value) × Scope) := do
  let run : TransferM (Except EvalError (Option Value) × Scope) := do
    match ← Scope.execute scope code with
    | (.error e, scope) => return (.error e, scope)
    | (.ok (), scope) =>
      let (v, scope) ← Scope.read table scope output
      return (.ok v, scope)
  match ← cross i runtime run with
  | .ok answer => return answer
  | .error f => return (.error (.ofFault f), scope)

/-- Runs a script in a scope, notifies the hooks, and gives the value of the output binding. -/
def conclude (nested : Request → WorldM (Option EvalError)) (i : Nat) (runtime : Runtime) (e : Evaluator)
    (scope : Scope) (code : Script) (bindings : Bindings) : WorldM (Except EvalError Value) := do
  let (answer, scope) ← runIn i runtime e.converters scope code e.config.outputBinding
  let outcome : Outcome := if answer.isOk then .success else .failed
  notifyFinished nested i runtime e.converters scope outcome (bindings.pairs.map (·.2)) (numbered e.hooks)
  match answer with
  | .ok v => return .ok (v.getD .null)
  | .error err =>
    record .debug .evaluator ("[Evaluator] Evaluation for " ++ bindings.label ++ " failed: " ++ err.message)
    return .error err

/-- Puts the search path back that an evaluator's scripts start with. -/
def resetPath (e : Evaluator) (runtime : Runtime) : WorldM (Except Fault Unit) :=
  if e.config.resetSearchPath then guest (GuestM.resetSearchPath runtime.searchPath)
  else return .ok ()

/-- Readies the interpreter for a script: its search path, a scope with the bindings of the call, and a writer
in the place of standard output. An exception comes with the step that it ended. -/
def prepare (i : Nat) (runtime : Runtime) (e : Evaluator) (bindings : Bindings) :
    WorldM (Except (String × Fault) Stage) := do
  match ← resetPath e runtime with
  | .error f => return .error ("reset sys.path", f)
  | .ok () =>
    match ← cross i runtime Scope.make with
    | .error f => return .error ("create the scope", f)
    | .ok scope =>
      match ← cross i runtime (Scope.seed e.converters scope bindings.pairs) with
      | .error f => return .error ("bind inputs", f)
      | .ok scope =>
        if e.config.redirectOutput then
          match ← guest (GuestM.redirectOutput bindings.label e.hooks.length) with
          | .error f => return .error ("redirect output", f)
          | .ok output => return .ok ⟨scope, some output⟩
        else return .ok ⟨scope, none⟩

/-- Readies the interpreter for a script and notifies the hooks. -/
def begin (nested : Request → WorldM (Option EvalError)) (i : Nat) (runtime : Runtime) (e : Evaluator)
    (bindings : Bindings) : WorldM (Except (String × Fault) Stage) := do
  record .debug .evaluator ("[Evaluator] Evaluating for " ++ bindings.label ++ " with " ++
    toString bindings.pairs.length ++ " binding(s)")
  match ← prepare i runtime e bindings with
  | .error failure => return .error failure
  | .ok stage =>
    notifyStarted nested i runtime e.converters stage.scope (bindings.pairs.map (·.2)) (numbered e.hooks)
    return .ok stage

/-- Puts standard output back in its place, if something else is there. -/
def restore : Option (Identity × Identity) → WorldM Unit
  | none => return ()
  | some (previous, writer) => discard (guest (GuestM.restoreOutput previous writer))

/-- Evaluates a script in a runtime. Only the script itself can fail the call: what goes wrong
before it is reported and gives null. -/
def evaluateIn (nested : Request → WorldM (Option EvalError)) (i : Nat) (runtime : Runtime)
    (e : Evaluator) (code : Script) (bindings : Bindings) : WorldM (Except EvalError Value) := do
  match ← begin nested i runtime e bindings with
  | .error (step, f) =>
    record .error .evaluator ("[Evaluator] Could not " ++ step ++ " for " ++ bindings.label ++ ": " ++ f.message)
    return .ok .null
  | .ok stage =>
    let answer ← conclude nested i runtime e stage.scope code bindings
    restore stage.output
    return answer

/-- Evaluates a script, where calls that hooks make are carried out in a given way. -/
def evaluateUsing (nested : Request → WorldM (Option EvalError)) (i : Nat) (code : Script)
    (names : List String) (values : List Value) : WorldM (Except EvalError Value) := do
  let e := (← get).evaluator i
  let (bindings, records) := Bindings.ofArguments e.config names values
  recordAll records
  let answer ← Lock.within do
    match ← ensureStarted i with
    | .error f =>
      record .error .evaluator ("[Evaluator] Failed to start the interpreter runtime: " ++ f.message)
      return .ok .null
    | .ok runtime => evaluateIn nested i runtime e code bindings
  return answer.bind id

/-- Reloads the imported modules, if the engine's name is right and the evaluator is started. -/
def reset (i : Nat) (engine : String) : WorldM (Except EvalError (Option ReloadReport)) := do
  let e := (← get).evaluator i
  if engine ≠ engineName then
    record .trace .evaluator ("[Evaluator] reset for engine '" ++ engine ++ "' ignored")
    return .ok none
  else if !e.isStarted then
    record .debug .evaluator "[Evaluator] reset requested before the runtime started; nothing to reload"
    return .ok none
  else
    let answer ← Lock.within do
      match ← ensureStarted i with
      | .error f => return .error f
      | .ok runtime =>
        match ← resetPath e runtime with
        | .error f => return .error f
        | .ok () => guest (GuestM.reload e.config.reloadPolicy)
    match answer with
    | .error err => return .error err
    | .ok (.error f) => return .error (.ofFault f)
    | .ok (.ok report) => return .ok (some report)

/-- Runs a computation with access to a started evaluator's crossing. -/
def session {α : Type} (i : Nat) (run : TransferM α) : WorldM (Except EvalError (Except Fault α)) := do
  let answer ← Lock.within do
    match ← ensureStarted i with
    | .error f => return .error (.ofFault f)
    | .ok runtime => return .ok (← cross i runtime run)
  return answer.bind id

/-- Runs a computation on the crossing of an evaluator that has to be started. -/
def whenStarted {α : Type} (i : Nat) (run : TransferM α) : WorldM (Except EvalError α) := do
  match ((← get).evaluator i).runtime with
  | none => return .error .notStarted
  | some runtime =>
    match ← Lock.within (cross i runtime run) with
    | .error err => return .error err
    | .ok (.error f) => return .error (.ofFault f)
    | .ok (.ok x) => return .ok x

/-- Gives back one handle. -/
def release (i : Nat) (id : Identity) : WorldM (Except EvalError Release) :=
  whenStarted i (TransferM.release id)

/-- Gives back every handle inside a value; the result is the number of objects destroyed. -/
def releaseValue (i : Nat) (v : Value) : WorldM (Except EvalError Nat) :=
  whenStarted i (TransferM.releaseValue v)

/-- The text of the object behind a handle, or of its identity when that is gone. -/
def handleText (i : Nat) (id : Identity) : WorldM (Except EvalError String) :=
  whenStarted i (TransferM.display id)

/-- The error that a call met. -/
def error? {α : Type} : Except EvalError α → Option EvalError
  | .ok _ => none
  | .error err => some err

/-- Carries out a request, where requests nest to a depth, and gives the error it met. -/
def issue : Nat → Request → WorldM (Option EvalError)
  | 0, _ => return none
  | depth + 1, request =>
    match request with
    | .evaluate i code names values => error? <$> evaluateUsing (issue depth) i code names values
    | .reset i engine => error? <$> reset i engine
    | .session i => error? <$> session i (return ())
    | .release i id => error? <$> release i id
    | .releaseValue i v => error? <$> releaseValue i v

/-- How deeply requests nest: one that a hook makes is refused before it makes any itself. -/
def requestDepth : Nat := 2

/-- Evaluates a script with names bound to values, and gives the value of its output binding. -/
def evaluate (i : Nat) (code : Script) (names : List String) (values : List Value) :
    WorldM (Except EvalError Value) :=
  evaluateUsing (issue requestDepth) i code names values

/-- Evaluates a script and takes its result as a target type. -/
def evaluateAs (t : Target) (i : Nat) (code : Script) (names : List String) (values : List Value) :
    WorldM (Except EvalError t.Denote) := do
  match ← evaluate i code names values with
  | .error err => return .error err
  | .ok v =>
    match t.extract v with
    | .ok x => return .ok x
    | .error source => return .error (.conversion source)

end WorldM

/-- A handle that is given back when its guard dies, unless it is taken out first. -/
structure HandleGuard where
  evaluator : Nat
  id : Identity
  armed : Bool := true

namespace HandleGuard

/-- Takes the handle out of a guard. -/
def disarm (guard : HandleGuard) : HandleGuard := { guard with armed := false }

/-- Ends a guard. -/
def drop (guard : HandleGuard) : WorldM Unit := do
  if guard.armed then
    match ← WorldM.release guard.evaluator guard.id with
    | .ok _ => return ()
    | .error err =>
      WorldM.record .warn .evaluator ("[Handles] failed to release " ++ toString guard.id ++
        " on drop: " ++ err.message)

end HandleGuard
end ScriptHost
