import ScriptHost.Handle.Identity
import ScriptHost.Number.Double
import ScriptHost.Value.Digest
import ScriptHost.Value.Keyed

/-! Host values: what crosses the boundary between the host and the interpreter, their kinds,
accessors and equality. Integers within 64 bits and larger ones are different shapes. -/
namespace ScriptHost

/-- What a host object holds. -/
inductive Payload where
  | byte (n : UInt8)
  | integer (n : Int64)
  | flag (b : Bool)
  | unit
  | text (s : String)
  | bytes (b : List UInt8)
  | pair (first second : Int64)
  deriving DecidableEq

namespace Payload

/-- The name of the type of what a host object holds. -/
def typeName : Payload → String
  | .byte _ => "u8"
  | .integer _ => "i64"
  | .flag _ => "bool"
  | .unit => "()"
  | .text _ => "alloc::string::String"
  | .bytes _ => "alloc::vec::Vec<u8>"
  | .pair _ _ => "(i64, i64)"

def isByte : Payload → Bool
  | .byte _ => true
  | _ => false

def text? : Payload → Option String
  | .text s => some s
  | _ => none

end Payload

/-- An opaque object of the host. -/
structure HostObject where
  identity : String
  payload : Payload

namespace HostObject

def typeName (o : HostObject) : String := o.payload.typeName

/-- Host objects are told apart by identity, whatever they hold. -/
def same (a b : HostObject) : Bool := a.identity == b.identity

end HostObject

/-- A datum on the host side of the boundary. -/
inductive Value where
  | null
  | bool (b : Bool)
  | int (n : Int64)
  | bigInt (n : Int)
  | float (x : Double)
  | string (s : String)
  | list (items : List Value)
  | map (entries : Keyed Value)
  | host (o : HostObject)
  | handle (id : Identity)
  deriving Inhabited

/-- Maps with unique keys, in insertion order. -/
abbrev ValueMap := Keyed Value

/-- The shape of a value. -/
inductive Kind where
  | null | bool | int | bigInt | float | string | list | map | host | handle
  deriving DecidableEq

namespace Kind

def name : Kind → String
  | .null => "Null"
  | .bool => "Bool"
  | .int => "Int"
  | .bigInt => "BigInt"
  | .float => "Float"
  | .string => "String"
  | .list => "List"
  | .map => "Map"
  | .host => "Host"
  | .handle => "Handle"

def all : List Kind := [.null, .bool, .int, .bigInt, .float, .string, .list, .map, .host, .handle]

/-- The kind of a name. -/
def ofName? (name : String) : Option Kind := all.find? fun k => k.name == name

end Kind

namespace Value

/-- The value of an integer, within 64 bits whenever it fits. -/
def integer (n : Int) : Value :=
  if FitsWord n then .int (Int64.ofInt n) else .bigInt n

def kind : Value → Kind
  | .null => .null
  | .bool _ => .bool
  | .int _ => .int
  | .bigInt _ => .bigInt
  | .float _ => .float
  | .string _ => .string
  | .list _ => .list
  | .map _ => .map
  | .host _ => .host
  | .handle _ => .handle

def isNull : Value → Bool
  | .null => true
  | _ => false

def isScalar : Value → Bool
  | .null | .bool _ | .int _ | .bigInt _ | .float _ | .string _ => true
  | _ => false

def asBool : Value → Option Bool
  | .bool b => some b
  | _ => none

/-- The number of either integer shape, if 64 bits hold it. -/
def asInt : Value → Option Int64
  | .int n => some n
  | .bigInt n => if FitsWord n then some (Int64.ofInt n) else none
  | _ => none

def asBigInt : Value → Option Int
  | .int n => some n.toInt
  | .bigInt n => some n
  | _ => none

/-- A float as it stands, an integer as the nearest double. -/
def asFloat : Value → Option Double
  | .float x => some x
  | .int n => some (.ofInt n.toInt)
  | .bigInt n => some (.ofInt n)
  | _ => none

def asString : Value → Option String
  | .string s => some s
  | _ => none

def asList : Value → Option (List Value)
  | .list items => some items
  | _ => none

def asMap : Value → Option ValueMap
  | .map entries => some entries
  | _ => none

def asHandle : Value → Option Identity
  | .handle id => some id
  | _ => none

def asHost : Value → Option HostObject
  | .host o => some o
  | _ => none

/-! ### Handles -/

mutual
/-- The handles inside a value, depth first, a key before its value. -/
def handles : Value → List Identity
  | .handle id => [id]
  | .list items => itemHandles items
  | .map entries => mapHandles entries
  | _ => []
termination_by structural v => v
def itemHandles : List Value → List Identity
  | [] => []
  | item :: items => handles item ++ itemHandles items
termination_by structural items => items
def mapHandles : Keyed Value → List Identity
  | ⟨entries, _, _⟩ => arrayHandles entries
termination_by structural m => m
def arrayHandles : Array (Value × Value) → List Identity
  | ⟨entries⟩ => entryHandles entries
termination_by structural entries => entries
def entryHandles : List (Value × Value) → List Identity
  | [] => []
  | entry :: entries => pairHandles entry ++ entryHandles entries
termination_by structural entries => entries
def pairHandles : Value × Value → List Identity
  | (key, value) => handles key ++ handles value
termination_by structural entry => entry
end

/-! ### Key digests -/

end Value

/-- How the bytes of a key become the number under which its position is filed. -/
class KeyHasher where
  digest : List UInt8 → UInt64

instance KeyHasher.standard : KeyHasher := ⟨Digest.ofBytes⟩

namespace Value

/-- The eight bytes of a word, the lowest first. -/
def wordBytes (n : Nat) : List UInt8 :=
  (List.range 8).map fun i => (n >>> (8 * i)).toUInt8

/-- The 64-bit digits of a natural number, the lowest first. -/
def wordDigits (n : Nat) : List Nat :=
  (List.range ((n.log2 / 64) + 1)).map fun i => (n >>> (64 * i)) % 0x10000000000000000

def bigIntBytes (n : Int) : List UInt8 :=
  if n = 0 then wordBytes 1 else
    let digits := wordDigits n.natAbs
    wordBytes (if n < 0 then 0 else 2) ++ wordBytes digits.length ++ digits.flatMap wordBytes

mutual
/-- What a key feeds to its digest, or nothing if it contains a float or a map. -/
def keyBytes : Value → Option (List UInt8)
  | .null => some (wordBytes 0)
  | .bool b => some (wordBytes 1 ++ [if b then 1 else 0])
  | .int n => some (wordBytes 2 ++ wordBytes n.toUInt64.toNat)
  | .bigInt n => some (wordBytes 3 ++ bigIntBytes n)
  | .float _ => none
  | .string s => some (wordBytes 5 ++ s.toUTF8.toList ++ [0xff])
  | .list items => (itemBytes items).map fun bytes => wordBytes 6 ++ wordBytes items.length ++ bytes
  | .map _ => none
  | .host o => some (wordBytes 8 ++ o.identity.toUTF8.toList ++ [0xff])
  | .handle id => some (wordBytes 9 ++ wordBytes id.number)
termination_by structural v => v
def itemBytes : List Value → Option (List UInt8)
  | [] => some []
  | item :: items =>
    (keyBytes item).bind fun first => (itemBytes items).map fun rest => first ++ rest
termination_by structural items => items
end

/-- The number under which a key's position is filed, if it has one. -/
def keyHash [KeyHasher] (key : Value) : Option UInt64 := key.keyBytes.map KeyHasher.digest

/-! ### Equality -/

/-- A value together with its comparisons: `turned` asks whether the other value equals this one. -/
abbrev Comparable := Value × (Bool → Value → Bool)

mutual
/-- Equality of values: the same shape and equal parts, where NaN equals nothing, maps ignore
order and host objects are equal only to themselves. The recursion is on one of the two values; it is
the left one, or when `turned` the right one. -/
def same [KeyHasher] : Value → Bool → Value → Bool
  | .null, _, .null => true
  | .bool a, _, .bool b => a == b
  | .int a, _, .int b => a == b
  | .bigInt a, _, .bigInt b => a == b
  | .float a, turned, .float b => if turned then b.equals a else a.equals b
  | .string a, _, .string b => a == b
  | .list a, turned, .list b => sameItems a turned b
  | .map a, turned, .map b => sameMap a turned b
  | .host a, turned, .host b => if turned then b.same a else a.same b
  | .handle a, _, .handle b => a == b
  | _, _, _ => false
termination_by structural v => v
def sameItems [KeyHasher] : List Value → Bool → List Value → Bool
  | [], _, [] => true
  | a :: as, turned, b :: bs => same a turned b && sameItems as turned bs
  | _, _, _ => false
termination_by structural items => items
/-- Maps of one size, the right one of which has every entry of the left one. An entry is looked up by
its key, with the stored key on the left of the comparison. -/
def sameMap [KeyHasher] : Keyed Value → Bool → Keyed Value → Bool
  | ⟨entries, index, unhashed⟩, turned, other =>
    let own : Keyed Comparable := ⟨comparableArray entries, index, unhashed⟩
    own.size == other.size &&
      if turned then own.covers other.toList keyHash fun stored key => stored.2 false key
      else other.covers own.toList (keyHash ·.1) fun stored key => key.2 true stored
termination_by structural m => m
def comparableArray [KeyHasher] : Array (Value × Value) → Array (Comparable × Comparable)
  | ⟨entries⟩ => ⟨comparableEntries entries⟩
termination_by structural entries => entries
def comparableEntries [KeyHasher] : List (Value × Value) → List (Comparable × Comparable)
  | [] => []
  | entry :: entries => comparablePair entry :: comparableEntries entries
termination_by structural entries => entries
def comparablePair [KeyHasher] : Value × Value → Comparable × Comparable
  | (key, value) => ((key, same key), (value, same value))
termination_by structural entry => entry
end

instance [KeyHasher] : BEq Value := ⟨fun a b => same a false b⟩

end Value

namespace ValueMap
variable [KeyHasher]

def empty : ValueMap := {}

/-- Adds an entry, or replaces the value of an equal key and returns the one it had. -/
def insert (m : ValueMap) (key value : Value) : Option Value × ValueMap :=
  let hash := key.keyHash
  match m.position hash (· == key) with
  | some p => ((m.entries[p]?).map (·.2), m.setValue p value)
  | none => (none, m.push hash key value)

def adding (m : ValueMap) (key value : Value) : ValueMap := (m.insert key value).2

def get? (m : ValueMap) (key : Value) : Option Value :=
  (m.find? key.keyHash (· == key)).map (·.2)

def getString? (m : ValueMap) (key : String) : Option Value := m.get? (.string key)

def contains (m : ValueMap) (key : Value) : Bool := (m.get? key).isSome

def isEmpty (m : ValueMap) : Bool := m.size == 0

def keys (m : ValueMap) : List Value := m.toList.map (·.1)

def values (m : ValueMap) : List Value := m.toList.map (·.2)

/-- The map of a list of entries, inserted in order. -/
def ofList (entries : List (Value × Value)) : ValueMap :=
  entries.foldl (fun m entry => (ValueMap.insert m entry.1 entry.2).2) {}

end ValueMap
end ScriptHost
