import ScriptHost.Convert.Inbound
import ScriptHost.Convert.Outbound
import ScriptHost.Evaluator.World

/-! Scopes: the namespace of one evaluation, made from the session's names and thrown away
afterwards. -/
namespace ScriptHost

/-- Where a scope is in its life. -/
inductive ScopeState where
  | uninitialized | seeded | executing | readBack | tornDown
  deriving DecidableEq, Repr

def ScopeState.name : ScopeState → String
  | .uninitialized => "Uninitialized"
  | .seeded => "Seeded"
  | .executing => "Executing"
  | .readBack => "ReadBack"
  | .tornDown => "TornDown"

/-- A namespace for scripts and the state it is in. -/
structure Scope where
  globals : Identity
  state : ScopeState := .uninitialized

/-- Whether an entry of the session's namespace keeps an object alive for handles. -/
def DictEntry.isHandle (g : Guest) (entry : DictEntry) : Bool :=
  ((g.text? entry.key).bind Text.toString?).any (·.startsWith Identity.keyMark)

/-- Computations on a crossing that begins anew: nothing in progress, nothing acquired. -/
def TransferM.anew {α : Type} (run : TransferM α) : TransferM α := do
  modify fun t => { t with active := [], acquired := #[] }
  run

namespace Scope

/-- A namespace with the session's names, the interpreter's own ones and the name of the entry
module. -/
def make : TransferM Scope := do
  let namespaceDict := (← get).namespaceDict
  let g := (← get).guest
  let layered := (g.entries namespaceDict).filter fun entry => !entry.isHandle g
  let globals ← TransferM.guest (GuestM.allocate (.dict layered))
  let builtins ← TransferM.guest (GuestM.hostImport "builtins")
  TransferM.guest (GuestM.setName globals (.ofString "__builtins__") builtins)
  let main ← TransferM.guest (GuestM.string "__main__")
  TransferM.guest (GuestM.setName globals (.ofString "__name__") main)
  return { globals }

/-- Converts a value and binds it to a name; a conversion that raises binds the wrapped value. -/
def bind (table : ConverterTable) (scope : Scope) (name : String) (v : Value) : TransferM Unit :=
  TransferM.anew do
    let obj ← Inbound.marshalOrPassthrough table.inbound v
    TransferM.guest (GuestM.setName scope.globals (.ofString name) obj)

/-- Binds names to values in order. -/
def bindAll (table : ConverterTable) (scope : Scope) : List (String × Value) → TransferM Unit
  | [] => return ()
  | (name, v) :: rest => do
    bind table scope name v
    bindAll table scope rest

/-- Binds the names of a call. -/
def seed (table : ConverterTable) (scope : Scope) (pairs : List (String × Value)) : TransferM Scope := do
  bindAll table scope pairs
  return { scope with state := .seeded }

/-- Runs a script in a scope; a script that raises leaves the scope torn down. -/
def execute (scope : Scope) (code : Script) : TransferM (Except EvalError Unit × Scope) := do
  match ← TransferM.attempt (TransferM.guest (GuestM.runScript scope.globals code)) with
  | .ok () => return (.ok (), { scope with state := .executing })
  | .error f =>
    TransferM.record .debug .scope ("[Scope] script raised: " ++ f.message)
    return (.error (.ofScriptFault f), { scope with state := .tornDown })

/-- The value of a name, if it is bound; a conversion that raises gives a handle. -/
def get (table : ConverterTable) (scope : Scope) (name : String) : TransferM (Option Value) := do
  match (← EStateM.get).guest.lookup scope.globals (.ofString name) with
  | some obj => some <$> TransferM.anew (Outbound.marshalOrHandle table.outbound obj)
  | none => return none

/-- Reads a result back, unless the scope is torn down. -/
def read (table : ConverterTable) (scope : Scope) (name : String) :
    TransferM (Option Value × Scope) := do
  if scope.state = .tornDown then return (none, scope)
  else return (← get table scope name, { scope with state := .readBack })

end Scope
end ScriptHost
