import ScriptHost.Convert.Plan
import ScriptHost.Convert.Recognition
import ScriptHost.Convert.Table

/-! Conversion of objects of the interpreter to host values: the first converter that accepts an
object, else its scalar or its index, else a handle. An object met inside itself becomes a
handle, and so does one whose conversion degrades, once what that acquired is given back. -/
namespace ScriptHost

/-- The conversions from objects to host values. -/
inductive OutboundConversion where
  | wrapped
  | keep
  | mapping
  | iterable
  | integer
  | custom (plan : Identity → OutboundPlan)

/-- Whether a conversion is the one of marked objects. -/
def OutboundConversion.isKeep : OutboundConversion → Bool
  | .keep => true
  | _ => false

abbrev OutboundConverter := Converter (Guest → Identity → Bool) OutboundConversion

/-- The entries of a mapping as it gives them out: as pairs, or as objects that should be pairs. -/
inductive MappingItem where
  | pair (key value : Identity)
  | object (id : Identity)

/-- The value of an object that is a scalar, whose text may be one that the host has not. -/
def Guest.scalar? (g : Guest) (id : Identity) : Option (Except Fault Value) :=
  match g.body id with
  | .none => some (.ok .null)
  | .bool b => some (.ok (.bool b))
  | .int n => some (.ok (.integer n))
  | .float x => some (.ok (.float x))
  | .text t => some (.string <$> t.encode)
  | _ => none

namespace GuestM

/-- The entries of a mapping in order, as it gives them out; those of a dictionary are pairs. -/
def mappingItems (id : Identity) : GuestM (List MappingItem) := do
  let g ← get
  match g.isExact id, g.body id with
  | true, .dict entries => return entries.map fun entry => .pair entry.key entry.value
  | _, _ => return (← answeredItems id "items").map .object

/-- The key and the value of an entry. -/
def pairOf : MappingItem → GuestM (Identity × Identity)
  | .pair key value => return (key, value)
  | .object id => do
    let g ← get
    match g.body id with
    | .tuple items =>
      match items.toList with
      | [key, value] => return (key, value)
      | _ => raise (.valueError ("expected tuple of length 2, but got tuple of length " ++
          toString items.size))
    | _ => raise (.typeError ("'" ++ g.classTitle id ++ "' object cannot be converted to 'PyTuple'"))

/-- What an object is at bottom. -/
inductive Unwrapped where
  | native (v : Value)
  | unchanged
  | other (id : Identity)

/-- The integer that an object stands for as an index, or that it offers none. -/
def asIndex (id : Identity) : GuestM Unwrapped := do
  if (← get).offersIndex id then
    discard (hostImport "operator")
    let n ← indexOf id
    return .other (← int n)
  else return .unchanged

/-- Looks for the scalar of an object, or for the integer that it stands for as an index. -/
def unwrap (id : Identity) : GuestM Unwrapped := do
  match (← get).scalar? id with
  | some scalar => return .native (← liftExcept scalar)
  | .none => asIndex id

end GuestM

namespace Outbound

/-- The converters that every table starts with: mappings come before other iterables, since
they are iterable too. -/
def standard : List OutboundConverter := [
  ⟨"host_object", 0, fun g id => (g.wrapped? id).isSome, .wrapped⟩,
  ⟨"skip_conversion", 0, fun g id => g.isMarked id, .keep⟩,
  ⟨"mapping", 0, fun g id => g.countsAsMapping id, .mapping⟩,
  ⟨"iterable", 0, fun g id => !g.isText id && g.isIterable id, .iterable⟩,
  ⟨"integer", 0, fun g id => (g.plainInt? id).isSome, .integer⟩]

/-- The first converter that accepts an object. -/
def resolve (converters : List OutboundConverter) (g : Guest) (id : Identity) :
    Option OutboundConverter :=
  converters.find? fun c => c.guard g id

/-- Whether an object is asked for its mark when a converter is looked for: none that comes before the one of
marked objects accepts it. -/
def asksForMark (converters : List OutboundConverter) (g : Guest) (id : Identity) : Bool :=
  (converters.find? fun c => c.conversion.isKeep || c.guard g id).any (·.conversion.isKeep)

/-- A handle of an object, noted as acquired by this crossing. -/
def handleFor (id : Identity) : TransferM Value := do
  TransferM.acquire id
  modify fun t => { t with acquired := t.acquired.push id }
  return .handle id

/-- Gives back what was acquired since a mark, then makes a handle of an object. -/
def degrade (mark : Nat) (id : Identity) : TransferM Value := do
  let abandoned := ((← get).acquired.extract mark).toList
  modify fun t => { t with acquired := t.acquired.shrink mark }
  discard (TransferM.releaseAll abandoned)
  unless abandoned.isEmpty do
    TransferM.record .debug .marshal ("[Marshal] released " ++ toString abandoned.length ++
      " handle(s) from the abandoned conversion")
  handleFor id

variable (self : Identity → TransferM Value)

/-- The conversion of an object by `self`, or a handle of it if that raises. -/
def orHandle (id : Identity) : TransferM Value := do
  let mark := (← get).acquired.size
  tryCatch (self id) fun f => do
    TransferM.record .warn .marshal ("[Marshal] outbound conversion of " ++ toString id ++
      " failed, returning a handle instead: " ++ f.message)
    degrade mark id

/-- The values of the items that an iteration still has, where there are at most so many. -/
def iterate : Nat → Cursor → TransferM (List Value)
  | 0, _ => return []
  | left + 1, c => do
    match ← TransferM.guest (GuestM.advance c) with
    | none => return []
    | some (item, c) =>
      let v ← self item
      return v :: (← iterate left c)

/-- The values of an iterable object's items: no more than a collection may have, unless the object
tells that it holds more. -/
def items (id : Identity) : TransferM Value := do
  let c ← TransferM.guest (GuestM.cursor id)
  let told := ((← get).guest.hint? c).getD 0
  return .list (← iterate self (max mostItems told) c)

/-- Adds the converted entries of a mapping to a map, unless two keys convert to equal values. -/
def entries (id : Identity) (mark : Nat) : ValueMap → List MappingItem → TransferM Value
  | m, [] => return .map m
  | m, item :: rest => do
    let (key, value) ← TransferM.guest (GuestM.pairOf item)
    let key ← self key
    if m.contains key then
      TransferM.record .warn .marshal ("[Marshal] mapping " ++ toString id ++
        " has distinct keys converting to " ++ key.display ++ "; returning a handle instead")
      degrade mark id
    else
      let value ← self value
      entries id mark (m.adding key value) rest

/-- The value of a mapping. -/
def mapping (id : Identity) : TransferM Value := do
  let mark := (← get).acquired.size
  let found ← TransferM.guest (GuestM.mappingItems id)
  entries self id mark (Keyed.withCapacity found.length) found

/-- Carries out a user's conversion. -/
def runPlan : OutboundPlan → TransferM Value
  | .done v => return v
  | .fail f => throw f
  | .look next => do
    let g := (← get).guest
    runPlan (next g)
  | .compute run next => do
    let answer ← TransferM.attempt (TransferM.guest run)
    runPlan (next answer)
  | .iterate id next => do
    let answer ← TransferM.attempt (TransferM.guest (GuestM.cursor id))
    runPlan (next answer)
  | .advance c next => do
    let answer ← TransferM.attempt (TransferM.guest (GuestM.advance c))
    runPlan (next answer)
  | .marshal id next => do
    let answer ← TransferM.attempt (self id)
    runPlan (next answer)
  | .marshalOrHandle id next => do
    let v ← orHandle self id
    runPlan (next v)
  | .handleFor id next => do
    let v ← handleFor id
    runPlan (next v)
  | .handleCount next => do
    let n := (← get).counts.live
    runPlan (next n)

/-- Applies a conversion to an object. -/
def apply : OutboundConversion → Identity → TransferM Value
  | .wrapped, id => do
    match (← get).guest.wrapped? id with
    | some v => return v
    | none =>
      let g := (← get).guest
      throw (.typeError ("'" ++ g.classTitle id ++ "' object cannot be converted to 'HostObject'"))
  | .keep, id => handleFor id
  | .mapping, id => mapping self id
  | .iterable, id => items self id
  | .integer, id => do
    match (← get).guest.plainInt? id with
    | some n => return .integer n
    | none => throw (.typeError "an integer is required")
  | .custom plan, id => runPlan self (plan id)

/-- Converts an object by the converter that accepts it, or by what it is at bottom if none does. -/
def convert : Option OutboundConverter → Identity → TransferM Value
  | some c, id => do
    TransferM.record .trace .marshal ("[Marshal] outbound " ++ toString id ++ " via '" ++ c.name ++ "'")
    apply self c.conversion id
  | none, id => do
    match ← TransferM.guest (GuestM.unwrap id) with
    | .native v => return v
    | .unchanged => handleFor id
    | .other next => self next

/-- Converts an object that no conversion is in progress for. -/
def dispatch (converters : List OutboundConverter) (id : Identity) : TransferM Value := do
  let g := (← get).guest
  if asksForMark converters g id then TransferM.guest (GuestM.askForMark id)
  convert self (resolve converters g id) id

/-- Runs a conversion of an object with the object marked as in progress. -/
def whileActive (id : Identity) (run : TransferM Value) : TransferM Value := do
  modify fun t => { t with active := id :: t.active }
  let answer ← TransferM.attempt run
  modify fun t => { t with active := t.active.erase id }
  match answer with
  | .ok v => return v
  | .error f => throw f

end Outbound

/-- Converts an object where conversions nest to a depth; an object inside itself becomes a
handle. -/
def Outbound.marshalTo (converters : List OutboundConverter) : Nat → Identity → TransferM Value
  | 0, _ => throw .tooDeep
  | depth + 1, id => do
    if (← get).active.contains id then
      TransferM.record .debug .marshal ("[Marshal] " ++ toString id ++
        " contains itself; returning a handle for the inner reference")
      Outbound.handleFor id
    else Outbound.whileActive id (Outbound.dispatch (marshalTo converters depth) converters id)

/-- How deeply conversions nest at most: every object that is there, each with one that its
iteration makes, and the last scalar. -/
def Outbound.depth (g : Guest) : Nat := 2 * g.heap.size + 2

/-- Converts an object. -/
def Outbound.marshal (converters : List OutboundConverter) (id : Identity) : TransferM Value := do
  Outbound.marshalTo converters (Outbound.depth (← get).guest) id

/-- Converts an object, or makes a handle of it if the conversion raises. -/
def Outbound.marshalOrHandle (converters : List OutboundConverter) (id : Identity) : TransferM Value :=
  Outbound.orHandle (Outbound.marshal converters) id

end ScriptHost
