import ScriptHost.Evaluator.Scope

/-! Commands to a scope, one after the other: what each of them answers, and the state that the
scope and the handles are in afterwards. -/
namespace ScriptHost

/-- What a caller asks of a scope. -/
inductive ScopeCommand where
  | seed (pairs : List (String × Value))
  | bind (name : String) (v : Value)
  | execute (code : Script)
  | read (name : String)
  | get (name : String)
  | names
  /-- Throws the scope away and makes another one. -/
  | renew

inductive ScopeAnswer where
  | done
  | renewed
  | failed (e : EvalError)
  | raised (f : Fault)
  | found (v : Option Value)
  | names (names : List String)

/-- An answer, with the state of the scope and the number of identities that have handles. -/
structure ScopeStep where
  answer : ScopeAnswer
  state : ScopeState
  live : Nat

namespace Scope

/-- The names that a scope binds, in order. -/
def names (scope : Scope) : TransferM (List String) := do
  let shown (entry : DictEntry) : TransferM (Option Text) :=
    TransferM.guest (GuestM.succeeded? (GuestM.plainText entry.key))
  let found ← ((← EStateM.get).guest.entries scope.globals).filterMapM shown
  return (found.map Text.lossy).mergeSort fun a b => !decide (b < a)

/-- Carries out a command. -/
def perform (table : ConverterTable) (scope : Scope) : ScopeCommand → TransferM (ScopeAnswer × Scope)
  | .seed pairs => do return (.done, ← seed table scope pairs)
  | .bind name v => do
    bind table scope name v
    return (.done, scope)
  | .execute code => do
    match ← execute scope code with
    | (.ok (), scope) => return (.done, scope)
    | (.error e, scope) => return (.failed e, scope)
  | .read name => do
    let (v, scope) ← read table scope name
    return (.found v, scope)
  | .get name => do return (.found (← get table scope name), scope)
  | .names => do return (.names (← scope.names), scope)
  | .renew => do return (.renewed, ← make)

/-- Carries out commands in order; one that raises leaves the scope as it was. -/
def performAll (table : ConverterTable) : Scope → List ScopeCommand → TransferM (List ScopeStep)
  | _, [] => return []
  | scope, command :: commands => do
    let (answer, scope) ← tryCatch (perform table scope command) fun f => return (.raised f, scope)
    let live := (← EStateM.get).counts.live
    return ⟨answer, scope.state, live⟩ :: (← performAll table scope commands)

end Scope
end ScriptHost
