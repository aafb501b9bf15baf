import ScriptHost.Guest.Written
import ScriptHost.Handle.Counts
import ScriptHost.Script.Execution

/-! Handles in use: the state of a crossing between host and interpreter, and the registry
operations that keep counts and namespace entries together. -/
namespace ScriptHost

/-- The state of a crossing. -/
structure Transfer where
  guest : Guest
  /-- The namespace that keeps the objects of handles alive. -/
  namespaceDict : Identity
  counts : Counts := ∅
  /-- The objects whose conversion is in progress, the innermost first. -/
  active : List Identity := []
  /-- The handles acquired by this crossing, in order. -/
  acquired : Array Identity := #[]

abbrev TransferM := EStateM Fault Transfer

namespace TransferM

/-- Runs a computation of the interpreter. -/
def guest {α : Type} (run : GuestM α) : TransferM α :=
  fun ⟨g, namespaceDict, counts, active, acquired⟩ =>
    match GuestM.atTop run g with
    | .ok x g => .ok x ⟨g, namespaceDict, counts, active, acquired⟩
    | .error f g => .error f ⟨g, namespaceDict, counts, active, acquired⟩

def record (level : Level) (source : Source) (message : String) : TransferM Unit :=
  guest (GuestM.record level source message)

/-- Parks an object in the namespace and counts one handle more for it. -/
def acquire (obj : Identity) : TransferM Unit := do
  let namespaceDict := (← get).namespaceDict
  guest (GuestM.setName namespaceDict (.ofString obj.namespaceKey) obj)
  modify fun t => { t with counts := t.counts.acquire obj }
  let count := (← get).counts.count obj
  record .trace .handle ("[Handles] acquire " ++ toString obj ++ " -> " ++ toString count)

/-- Counts another handle for an identity that has handles already. -/
def retain (id : Identity) : TransferM Bool := do
  match (← get).counts.get? id with
  | none => return false
  | some n =>
    modify fun t => { t with counts := t.counts.acquire id }
    record .trace .handle ("[Handles] retain " ++ toString id ++ " -> " ++ toString (n + 1))
    return true

/-- Removes the entry that keeps an object alive. -/
def erase (id : Identity) : TransferM Unit := do
  let namespaceDict := (← get).namespaceDict
  let key := Text.ofString id.namespaceKey
  if ((← get).guest.lookup namespaceDict key).isSome then
    guest (GuestM.eraseName namespaceDict key)
  else
    record .warn .handle ("[Handles] error removing object " ++ toString id ++
      " from the global namespace: " ++ (Fault.missingKey key).message)

/-- Gives back a handle; the last one of an object takes its namespace entry with it. -/
def release (id : Identity) : TransferM Release := do
  let (answer, counts) := (← get).counts.release id
  modify fun t => { t with counts }
  match answer with
  | .unknown => record .trace .handle ("[Handles] release of unknown handle " ++ toString id)
  | .decremented left =>
    record .trace .handle ("[Handles] release " ++ toString id ++ " -> " ++ toString left)
  | .destroyed =>
    erase id
    record .trace .handle ("[Handles] destroyed " ++ toString id)
  return answer

/-- Gives back handles in order; the result is the number of objects destroyed. -/
def releaseAll : List Identity → TransferM Nat
  | [] => return 0
  | id :: ids => do
    let answer ← release id
    let rest ← releaseAll ids
    return if answer = .destroyed then rest + 1 else rest

/-- Gives back every handle inside a value; the result is the number of objects destroyed. -/
def releaseValue (v : Value) : TransferM Nat := releaseAll v.handles

/-- The object behind a handle, if the namespace still holds it. -/
def resolve (id : Identity) : TransferM (Option Identity) := do
  let t ← get
  return t.guest.lookup t.namespaceDict (.ofString id.namespaceKey)

/-- The text of the object behind a handle, or of its identity if that cannot be had. -/
def display (id : Identity) : TransferM String := do
  let fallback (reason : String) : TransferM String := do
    record .warn .handle ("[Handles] error getting string rep of " ++ toString id ++ ": " ++ reason)
    return toString id
  match ← resolve id with
  | none => fallback "not in the global namespace"
  | some obj =>
    match ← tryCatch (Except.ok <$> guest (GuestM.plainText obj)) fun f => return .error f with
    | .ok text => return text.lossy
    | .error f => fallback f.message

end TransferM
end ScriptHost
