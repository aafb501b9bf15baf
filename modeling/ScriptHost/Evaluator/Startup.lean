import ScriptHost.Evaluator.Lock
import ScriptHost.Evaluator.SearchPath

/-! Starting the interpreter for an evaluator: its search path is worked out and its session
statements are run, once. -/
namespace ScriptHost

namespace GuestM

/-- The strings of the module search path. -/
def readSearchPath : GuestM (List String) := do
  let path ← attributeOf (← hostImport "sys") "path"
  let g ← get
  match g.body path with
  | .list items | .tuple items =>
    items.toList.mapM fun id =>
      match g.text? id with
      | some t => liftExcept t.encode
      | .none => typeError ("'" ++ g.classTitle id ++ "' object cannot be converted to 'PyString'")
  | _ => typeError ("'" ++ g.classTitle path ++ "' object cannot be converted to 'Sequence'")

/-- Replaces the module search path. -/
def resetSearchPath (path : List String) : GuestM Unit := do
  let system ← hostImport "sys"
  setAttribute system "path" (← list (← path.mapM string))

/-- A namespace for a session, after its statements have run in it. -/
def makeNamespace (imports : List Script) : GuestM Identity := do
  let attributes ← allocate (.dict [])
  setName attributes (.ofString "__name__") (← string "global")
  let nothing ← none
  setName attributes (.ofString "__doc__") nothing
  setName attributes (.ofString "__package__") nothing
  setName attributes (.ofString "__loader__") nothing
  setName attributes (.ofString "__spec__") nothing
  let builtins ← hostImport "builtins"
  setName attributes (.ofString "__builtins__") builtins
  imports.forM fun statement => do
    record .debug .handle ("[Handles] Session import: " ++ statement.written)
    runScript attributes statement
  return attributes

end GuestM

namespace WorldM

/-- The search path that the interpreter had before any evaluator touched it. -/
def interpreterPath : WorldM (Except Fault (List String)) := do
  match (← get).interpreterPath with
  | some path => return .ok path
  | none =>
    match ← guest GuestM.readSearchPath with
    | .error f => return .error f
    | .ok path =>
      modify fun w => { w with interpreterPath := some path }
      return .ok path

/-- Keeps the runtime that the interpreter was started with for an evaluator. -/
def keepRuntime (i : Nat) (runtime : Runtime) : WorldM Unit :=
  modify fun w => { w with evaluators := w.evaluators.modify i fun e => { e with runtime := some runtime } }

/-- Starts the interpreter for an evaluator, unless that is done already. -/
def ensureStarted (i : Nat) : WorldM (Except Fault Runtime) := do
  let e := (← get).evaluator i
  match e.runtime with
  | some runtime => return .ok runtime
  | none =>
    record .info .evaluator "[Evaluator] Starting interpreter runtime"
    match ← interpreterPath with
    | .error f => return .error f
    | .ok path =>
      let searchPath := SearchPath.forConfig e.config (← get).environment path
      match ← guest (GuestM.makeNamespace e.config.sessionImports) with
      | .error f => return .error f
      | .ok namespaceDict =>
        let runtime : Runtime := { namespaceDict, searchPath }
        keepRuntime i runtime
        return .ok runtime

end WorldM
end ScriptHost
