import ScriptHost.Guest.Lookup

/-! Dictionary keys: the canonical form under which equal objects coincide, the hashes of objects,
and the namespaces that go by them. -/
namespace ScriptHost

/-- The form of a number that may be whole. -/
def KeyPart.ofDouble (id : Identity) (x : Double) : KeyPart :=
  if x.isNaN then .identity id else
    match x.toInt? with
    | some n => .integer n
    | none => .float x

private def nonNegativeZero (x : Double) : Double := if x.isZero then .zero else x

def KeyPart.ofComplex (id : Identity) (re im : Double) : KeyPart :=
  if re.isNaN || im.isNaN then .identity id
  else if im.isZero then .ofDouble id re
  else .complex (nonNegativeZero re) im

/-- The number of integers in a range. -/
def rangeLength (start stop step : Int) : Nat :=
  if 0 < step then ((stop - start + step - 1) / step).toNat
  else if step < 0 then ((start - stop - step - 1) / (-step)).toNat
  else 0

def KeyPart.ofRange (start stop step : Int) : KeyPart :=
  match rangeLength start stop step with
  | 0 => .range 0 0 0
  | 1 => .range 1 start 0
  | n => .range n start step

/-! Hashes of numbers are taken modulo a Mersenne prime, so that equal numbers of different kinds
hash alike. -/

namespace Hash

/-- The prime that hashes of numbers are taken modulo. -/
def modulus : Nat := 0x1fffffffffffffff

/-- A hash as a signed word; minus one stands for a failure and is never a hash. -/
def signed (word : UInt64) : Int := if word = 0xffffffffffffffff then -2 else word.toInt64.toInt

def ofInt (n : Int) : UInt64 :=
  let rest := n.natAbs % modulus
  let hash : Int := if n < 0 then -(rest : Int) else rest
  (Int64.ofInt (if hash = -1 then -2 else hash)).toUInt64

/-- The hash of a number that is not a NaN. -/
def ofDouble (x : Double) : UInt64 :=
  if x.isInfinite then ofInt (if x.isNegative then -314159 else 314159)
  else
    let (m, q) := x.decode
    let rest := m * pow2 (q % 61) % modulus
    ofInt (if x.isNegative then -(rest : Int) else rest)

/-- The hash of an object by its place alone. -/
def ofIdentity (id : Identity) : UInt64 := (id.number / 16).toUInt64

def ofComplex (id : Identity) (re im : Double) : UInt64 :=
  if re.isNaN || im.isNaN then ofIdentity id else
    let hash := ofDouble re + 1000003 * ofDouble im
    if hash = 0xffffffffffffffff then hash - 1 else hash

private def rotate (word : UInt64) : UInt64 := (word <<< 31) ||| (word >>> 33)

private def prime1 : UInt64 := 11400714785074694791
private def prime2 : UInt64 := 14029467366897019727
private def prime5 : UInt64 := 2870177450012600261

/-- The hash of a tuple of objects with these hashes. -/
def ofTuple (hashes : List UInt64) : UInt64 :=
  let mixed := hashes.foldl (fun acc lane => rotate (acc + lane * prime2) * prime1) prime5
  let hash := mixed + (hashes.length.toUInt64 ^^^ (prime5 ^^^ (3527539 : UInt64)))
  if hash = 0xffffffffffffffff then 1546275796 else hash

private def shuffled (hash : UInt64) : UInt64 :=
  ((hash ^^^ (89869747 : UInt64)) ^^^ (hash <<< 16)) * 3644798167

/-- The hash of a set of objects with these hashes, whatever their order. -/
def ofSet (hashes : List UInt64) : UInt64 :=
  let mixed := hashes.foldl (fun acc hash => acc ^^^ shuffled hash) 0
  let mixed := mixed ^^^ ((hashes.length.toUInt64 + 1) * 1927868237)
  let spread := mixed ^^^ ((mixed >>> 11) ^^^ (mixed >>> 25))
  let hash := spread * 69069 + 907133923
  if hash = 0xffffffffffffffff then 590923713 else hash

/-- The hash of a sequence of small numbers; nothing hashes to zero. -/
def ofPoints (points : List Nat) : UInt64 :=
  points.foldl (fun acc p => (acc ^^^ p.toUInt64) * 1099511628211)
    (if points.isEmpty then 0 else 14695981039346656037)

end Hash

namespace Guest

/-- The bytes of an object that holds or shows some. -/
def octets? (g : Guest) (id : Identity) : Option (List UInt8) :=
  match g.body id with
  | .bytes data | .byteArray data => some data
  | .memoryView source first step count =>
    match g.body source with
    | .bytes data | .byteArray data =>
      let data := data.toArray
      some ((List.range count).map fun (i : Nat) => data.getD (first + (i : Int) * step).toNat 0)
    | _ => some []
  | _ => none

def isWritable (g : Guest) (source : Identity) : Bool :=
  match g.body source with
  | .byteArray _ => true
  | _ => false

/-- Whether the class of an object, or a view of changing data, leaves it without a hash. -/
def isUnhashable (g : Guest) (id : Identity) : Bool :=
  match g.home? id, g.body id with
  | some home, _ =>
    match g.entryIn home (.ofString "__hash__") with
    | some .nothing => true
    | some (.scripted value) => g.isNone value
    | _ => false
  | none, .view part _ => part ≠ .values
  | none, body => Builtin.refusesHash body.className

/-- Whether the objects of a class are told apart by nothing but their places. -/
def isPlain (g : Guest) (id : Identity) : Bool :=
  match (g.home? id).bind fun home => g.entryIn home (.ofString "__hash__") with
  | some (.own owner _ _) => owner == "object"
  | _ => false

/-- The name of the attribute that keeps an object from being converted. -/
def skipMark : String := "__pyhostskipconversion__"

end Guest

namespace GuestM

def liftExcept {α : Type} : Except Fault α → GuestM α
  | .ok x => pure x
  | .error f => throw f

def unhashable {α : Type} (id : Identity) : GuestM α := do
  typeError ("unhashable type: '" ++ (← classLabel id) ++ "'")

def writableView {α : Type} : GuestM α := valueError "cannot hash writable memoryview object"

/-- The hash that a script's class gives an object. -/
def ownHash? (id : Identity) : GuestM (Option UInt64) := do
  match (← get).special? id "__hash__" with
  | .none => return .none
  | some value =>
    match ← callIfGiven? value id [] with
    | .none => unhashable id
    | some answer =>
      match ← bodyOf answer with
      | .bool b => return some (if b then 1 else 0)
      | .int n =>
        let hash := if FitsWord n then (Int64.ofInt n).toUInt64 else Hash.ofInt n
        return some (if hash = 0xffffffffffffffff then hash - 1 else hash)
      | _ => typeError "__hash__ method should return an integer"

private def hashOfNone : UInt64 := 8765432109

private def hashRange (start stop step : Int) : UInt64 :=
  match rangeLength start stop step with
  | 0 => Hash.ofTuple [Hash.ofInt 0, hashOfNone, hashOfNone]
  | 1 => Hash.ofTuple [Hash.ofInt 1, Hash.ofInt start, hashOfNone]
  | n => Hash.ofTuple [Hash.ofInt n, Hash.ofInt start, Hash.ofInt step]

/-- The hash of the data of an object. -/
def hashOfBody (inner : Identity → GuestM UInt64) (id : Identity) : GuestM UInt64 := do
  let g ← get
  match g.body id with
  | .none => return hashOfNone
  | .bool b => return if b then 1 else 0
  | .int n => return Hash.ofInt n
  | .float x => return if x.isNaN then Hash.ofIdentity id else Hash.ofDouble x
  | .complex re im => return Hash.ofComplex id re im
  | .text t => return Hash.ofPoints t.points
  | .bytes data => return Hash.ofPoints (data.map UInt8.toNat)
  | .memoryView source _ _ _ =>
    if g.isWritable source then writableView
    else return Hash.ofPoints (((g.octets? id).getD []).map UInt8.toNat)
  | .tuple items => return Hash.ofTuple (← items.toList.mapM inner)
  | .frozenSet members => return Hash.ofSet (← members.ids.mapM inner)
  | .range start stop step => return hashRange start stop step
  | .method function self => return Hash.ofIdentity self ^^^ Hash.ofIdentity function
  | _ => return Hash.ofIdentity id

def hashTo : Nat → Identity → GuestM UInt64
  | 0, _ => raise .tooDeep
  | depth + 1, id => do
    let g ← get
    if g.isUnhashable id then unhashable id
    else if let some hash ← ownHash? id then return hash
    else if g.isPlain id then return Hash.ofIdentity id
    else hashOfBody (hashTo depth) id

/-- The hash of an object, unless it has none. -/
def hash (id : Identity) : GuestM UInt64 := do hashTo ((← get).heap.size + 1) id

/-- Whether a script's class decides what an object is equal to. -/
def decidesEquality (g : Guest) (id : Identity) : Bool :=
  (g.special? id "__eq__").isSome || (g.special? id "__hash__").isSome

/-- The canonical form of the data of an object as a key. -/
def keyFormOfBody (inner : Identity → GuestM Key) (id : Identity) : GuestM Key := do
  let g ← get
  match g.body id with
  | .bool b => return [.integer (if b then 1 else 0)]
  | .int n => return [.integer n]
  | .float x => return [.ofDouble id x]
  | .complex re im => return [.ofComplex id re im]
  | .text t => return [.text t]
  | .bytes data => return [.bytes data]
  | .memoryView source _ _ _ =>
    if g.isWritable source then writableView else return [.bytes ((g.octets? id).getD [])]
  | .tuple items => return .tuple items.size :: (← items.toList.mapM inner).flatten
  | .frozenSet members => return .frozenSet members.size :: (← members.ids.mapM inner).flatten
  | .range start stop step => return [.ofRange start stop step]
  | .bound target _ name _ => return [.method target name]
  | .method function self => return [.bound function self]
  | _ => return [.identity id]

/-- The canonical form of an object as a key, to a depth. -/
def keyFormTo : Nat → Identity → GuestM Key
  | 0, _ => raise .tooDeep
  | depth + 1, id => do
    let g ← get
    if g.isUnhashable id then unhashable id
    else if decidesEquality g id then return [.special (← hashTo (depth + 1) id) id]
    else if g.isPlain id then return [.identity id]
    else keyFormOfBody (keyFormTo depth) id

/-- The canonical form of an object as a key, unless it cannot be one. -/
def keyForm (id : Identity) : GuestM Key := do keyFormTo ((← get).heap.size + 1) id

/-- Sets the value of a name in a namespace. -/
def setName (namespaceDict : Identity) (name : Text) (value : Identity) : GuestM Unit := do
  let key ← GuestM.name name
  modify fun g =>
    g.withBody namespaceDict (.dict ((g.entries namespaceDict).insert [.text name] key value))

/-- Removes a name from a namespace. -/
def eraseName (namespaceDict : Identity) (name : Text) : GuestM Unit :=
  modify fun g => g.withBody namespaceDict (.dict ((g.entries namespaceDict).erase [.text name]))

/-- Sets an attribute of the system module. -/
def setSystem (name : String) (value : Identity) : GuestM Unit := do
  setName (← get).system (.ofString name) value

/-- The dictionary of the attributes that are set on an object itself, made when it is needed. -/
def attributesOf (id : Identity) : GuestM Identity := do
  match (← get).ownAttributes? id with
  | some attributes => return attributes
  | .none =>
    let attributes ← allocate (.dict [])
    modify fun g => { g with heap := g.heap.modify id.index fun o => { o with attributes := some attributes } }
    return attributes

end GuestM
end ScriptHost
