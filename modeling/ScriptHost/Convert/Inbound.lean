import ScriptHost.Convert.Plan
import ScriptHost.Convert.Table

/-! Conversion of host values to objects of the interpreter: the first converter that accepts a
value, else a direct object for a scalar, else the value wrapped as it is. -/
namespace ScriptHost

/-- The conversions from host values to objects. -/
inductive InboundConversion where
  | sequence
  | mapping
  | handle
  | custom (plan : Value → InboundPlan)

abbrev InboundConverter := Converter (Value → Bool) InboundConversion

namespace Inbound

/-- The converters that every table starts with. -/
def standard : List InboundConverter := [
  ⟨"sequence", 0, fun v => v.kind == .list, .sequence⟩,
  ⟨"mapping", 0, fun v => v.kind == .map, .mapping⟩,
  ⟨"handle", 0, fun v => v.kind == .handle, .handle⟩]

/-- The first converter that accepts a value. -/
def resolve (converters : List InboundConverter) (v : Value) : Option InboundConverter :=
  converters.find? fun c => c.guard v

/-- A wrapper around a value, handed over unconverted. -/
def passthrough (v : Value) : TransferM Identity := TransferM.guest (GuestM.allocate (.wrapper v))

/-- The object of a scalar. -/
def structural : Value → Option (TransferM Identity)
  | .null => some (TransferM.guest GuestM.none)
  | .bool b => some (TransferM.guest (GuestM.bool b))
  | .int n => some (TransferM.guest (GuestM.int n.toInt))
  | .bigInt n => some (TransferM.guest (GuestM.int n))
  | .float x => some (TransferM.guest (GuestM.float x))
  | .string s => some (TransferM.guest (GuestM.string s))
  | _ => none

variable (self : Value → TransferM Identity)

/-- The conversion of a value by `self`, or its wrapper if that raises. -/
def orPassthrough (v : Value) : TransferM Identity :=
  tryCatch (self v) fun f => do
    TransferM.record .warn .marshal ("[Marshal] inbound conversion of " ++ v.kind.name ++
      " failed, passing it through unconverted: " ++ f.message)
    passthrough v

/-- The objects of a list's items. -/
def items : List Value → TransferM (List Identity)
  | [] => return []
  | v :: vs => do
    let obj ← self v
    return obj :: (← items vs)

/-- A dictionary filled with the objects of a map's entries, in order. -/
def entries (found : Dict) : List (Value × Value) → TransferM Dict
  | [] => return found
  | (key, value) :: rest => do
    let key ← self key
    let value ← self value
    entries (← TransferM.guest (GuestM.inserted found key value)) rest

/-- The object behind a handle, or the text of its identity if that is gone. -/
def handle (id : Identity) : TransferM Identity := do
  match ← TransferM.resolve id with
  | some obj => return obj
  | none =>
    TransferM.record .warn .marshal ("[Marshal] handle " ++ toString id ++
      " is not in the global namespace; passing its identity instead")
    TransferM.guest (GuestM.string (toString id))

/-- Carries out a user's conversion. -/
def runPlan : InboundPlan → TransferM Identity
  | .done obj => return obj
  | .fail f => throw f
  | .build run next => do
    let answer ← TransferM.attempt (TransferM.guest run)
    runPlan (next answer)
  | .marshal v next => do
    let answer ← TransferM.attempt (self v)
    runPlan (next answer)
  | .marshalOrPassthrough v next => do
    let obj ← orPassthrough self v
    runPlan (next obj)
  | .passthrough v next => do
    let obj ← passthrough v
    runPlan (next obj)
  | .structural v next =>
    match structural v with
    | some run => do
      let obj ← run
      runPlan (next (some obj))
    | none => runPlan (next none)
  | .handleCount next => do
    let n := (← get).counts.live
    runPlan (next n)

/-- Applies a conversion to a value. -/
def apply : InboundConversion → Value → TransferM Identity
  | .sequence, .list vs => do
    let objects ← items self vs
    TransferM.guest (GuestM.list objects)
  | .mapping, .map m => do
    let dict ← entries self [] m.toList
    TransferM.guest (GuestM.allocate (.dict dict))
  | .handle, .handle id => handle id
  | .custom plan, v => runPlan self (plan v)
  | _, v => passthrough v

end Inbound

/-- Converts a value where conversions nest to a depth. -/
def Inbound.marshalTo (converters : List InboundConverter) : Nat → Value → TransferM Identity
  | 0, _ => throw .tooDeep
  | depth + 1, v =>
    match Inbound.resolve converters v with
    | some c => do
      TransferM.record .trace .marshal ("[Marshal] inbound " ++ v.kind.name ++ " via '" ++ c.name ++ "'")
      Inbound.apply (marshalTo converters depth) c.conversion v
    | none =>
      match Inbound.structural v with
      | some run => run
      | none => Inbound.passthrough v

/-- How deeply conversions of a value nest at most: its own levels, and some more for what
users' conversions build. -/
def Inbound.depth (v : Value) : Nat := v.depth + 1000

/-- Converts a value. -/
def Inbound.marshal (converters : List InboundConverter) (v : Value) : TransferM Identity :=
  Inbound.marshalTo converters (Inbound.depth v) v

/-- Converts a value, or wraps it if the conversion raises. -/
def Inbound.marshalOrPassthrough (converters : List InboundConverter) (v : Value) : TransferM Identity :=
  Inbound.orPassthrough (Inbound.marshal converters) v

end ScriptHost
