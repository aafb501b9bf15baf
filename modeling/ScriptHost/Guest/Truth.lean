import ScriptHost.Guest.Written

/-! Integers that objects stand for, how many items objects have, and whether they count as true. -/
namespace ScriptHost

/-- The number of items that the data of an object has. -/
def Guest.dataLength? (g : Guest) (id : Identity) : Option Nat :=
  match g.body id with
  | .text t => some t.length
  | .bytes data | .byteArray data => some data.length
  | .memoryView _ _ _ count => some count
  | .list items | .tuple items => some items.size
  | .set members | .frozenSet members => some members.size
  | .dict entries => some entries.length
  | .view _ dict | .proxy dict => some (g.entries dict).length
  | .range start stop step => some (rangeLength start stop step)
  | _ => none

namespace GuestM

/-- The integer of an object where an index is asked for. -/
def indexOf (id : Identity) : GuestM Int := do
  match ← bodyOf id with
  | .bool b => return if b then 1 else 0
  | .int n => return n
  | _ =>
    match ← specially? "__index__" id [] with
    | .none => typeError ("'" ++ (← classLabel id) ++ "' object cannot be interpreted as an integer")
    | some result =>
      match ← bodyOf result with
      | .bool b => return if b then 1 else 0
      | .int n => return n
      | _ => typeError ("__index__ returned non-int (type " ++ (← classLabel result) ++ ")")

/-- The integer of an object where a machine word has to hold it, else an exception of a class. -/
def wordOf (overflow : String) (id : Identity) : GuestM Int := do
  let n ← indexOf id
  if FitsWord n then return n
  else raise (.of overflow ("cannot fit '" ++ (← classLabel id) ++ "' into an index-sized integer"))

/-- The number that stands for how many items an object has, as a class answers. -/
def sizeFrom (answer : Identity) : GuestM Nat := do
  let n ← wordOf "OverflowError" answer
  if n < 0 then valueError "__len__() should return >= 0"
  return n.toNat

/-- The number of items of an object that has some. -/
def length? (id : Identity) : GuestM (Option Nat) := do
  match ← specially? "__len__" id [], ← bodyOf id with
  | some answer, _ => some <$> sizeFrom answer
  | .none, .mappingView _ mapping =>
    match ← specially? "__len__" mapping [] with
    | some answer => some <$> sizeFrom answer
    | .none => return (← get).dataLength? mapping
  | .none, _ => return (← get).dataLength? id

/-- Whether data counts as true that is no collection. -/
def truthOfData : Body → Bool
  | .none => false
  | .bool b => b
  | .int n => n != 0
  | .float x => !x.isZero
  | .complex re im => !(re.isZero && im.isZero)
  | _ => true

/-- Whether the data of an object counts as true. -/
def truthData (id : Identity) : GuestM Bool := do
  let g ← get
  return (g.dataLength? id).elim (truthOfData (g.body id)) (· != 0)

/-- Whether an object counts as true. -/
def truth (id : Identity) : GuestM Bool := do
  let g ← get
  match g.entryOf id (.ofString "__bool__") with
  | some (.scripted value) =>
    let answer ← callFor value id []
    match ← bodyOf answer with
    | .bool b => return b
    | _ => typeError ("__bool__ should return bool, returned " ++ (← classLabel answer))
  | some _ => truthData id
  | .none => return (← length? id).elim (truthOfData (g.body id)) (· != 0)

end GuestM
end ScriptHost
