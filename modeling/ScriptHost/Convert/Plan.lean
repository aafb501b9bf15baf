import ScriptHost.Handle.Transfer
import ScriptHost.Value.Depth

/-! What the conversions of users may do: they reach handles only through the crossing they are
part of, and see what each step answered before they choose the next one. -/
namespace ScriptHost

/-- A user's conversion of an object to a value. -/
inductive OutboundPlan where
  | done (v : Value)
  | fail (f : Fault)
  /-- Reads the state of the interpreter. -/
  | look (next : Guest → OutboundPlan)
  /-- Runs a computation of the interpreter. -/
  | compute (run : GuestM Identity) (next : Except Fault Identity → OutboundPlan)
  /-- Starts an iteration over an object. -/
  | iterate (obj : Identity) (next : Except Fault Cursor → OutboundPlan)
  /-- Takes an iteration one item further. -/
  | advance (c : Cursor) (next : Except Fault (Option (Identity × Cursor)) → OutboundPlan)
  | marshal (obj : Identity) (next : Except Fault Value → OutboundPlan)
  | marshalOrHandle (obj : Identity) (next : Value → OutboundPlan)
  | handleFor (obj : Identity) (next : Value → OutboundPlan)
  | handleCount (next : Nat → OutboundPlan)

/-- A user's conversion of a value to an object. -/
inductive InboundPlan where
  | done (obj : Identity)
  | fail (f : Fault)
  /-- Runs a computation of the interpreter. -/
  | build (run : GuestM Identity) (next : Except Fault Identity → InboundPlan)
  | marshal (v : Value) (next : Except Fault Identity → InboundPlan)
  | marshalOrPassthrough (v : Value) (next : Identity → InboundPlan)
  | passthrough (v : Value) (next : Identity → InboundPlan)
  | structural (v : Value) (next : Option Identity → InboundPlan)
  | handleCount (next : Nat → InboundPlan)

namespace TransferM

/-- The answer of a computation, whether it raised or not. -/
def attempt {α : Type} (run : TransferM α) : TransferM (Except Fault α) :=
  tryCatch (Except.ok <$> run) fun f => return .error f

end TransferM
end ScriptHost
