import ScriptHost.Handle.Identity
import ScriptHost.Number.Double
import ScriptHost.Text.Basic

/-! Keys, and the collections that find their entries by them: dictionaries, which keep the order
in which their keys came in, and the tables of sets, which order members by their hashes. -/
namespace ScriptHost

/-- A part of the canonical form of a dictionary key. -/
inductive KeyPart where
  | identity (id : Identity)
  | integer (n : Int)
  | float (x : Double)
  | complex (re im : Double)
  | text (t : Text)
  | bytes (data : List UInt8)
  | tuple (length : Nat)
  | frozenSet (size : Nat)
  | range (length : Nat) (start step : Int)
  | method (target : Identity) (name : String)
  /-- A function bound to an object. -/
  | bound (function self : Identity)
  /-- An object whose class decides what it is equal to, with its hash. -/
  | special (hash : UInt64) (id : Identity)
  deriving DecidableEq

/-- Whether a part stands for an object whose class decides what it is equal to. -/
def KeyPart.isSpecial : KeyPart → Bool
  | .special _ _ => true
  | _ => false

/-- The canonical form of a dictionary key: two keys are one if and only if their forms are
equal, unless a class decides otherwise. -/
abbrev Key := List KeyPart

/-- An entry of a dictionary: the canonical form of its key, the key and the value. -/
structure DictEntry where
  form : Key
  key : Identity
  value : Identity
  deriving DecidableEq

/-- A dictionary, in the order in which its keys came in. -/
abbrev Dict := List DictEntry

namespace Dict

def find? (d : Dict) (form : Key) : Option Identity :=
  (List.find? (fun entry => entry.form == form) d).map (·.value)

def contains (d : Dict) (form : Key) : Bool := d.any fun entry => entry.form == form

/-- Sets the value of a key; a key that is there already keeps its place and its object. -/
def insert (form : Key) (key value : Identity) : Dict → Dict
  | [] => [⟨form, key, value⟩]
  | entry :: rest =>
    if entry.form = form then { entry with value } :: rest else entry :: insert form key value rest

def erase (d : Dict) (form : Key) : Dict := d.filter fun entry => entry.form != form

end Dict

/-- A place in the table of a set. -/
inductive MemberSlot where
  | free
  /-- Where a member was removed. -/
  | removed
  | member (hash : UInt64) (form : Key) (id : Identity)
  deriving DecidableEq, Inhabited

/-- The members of a set in a table whose size is a power of two. A member lies at the place that
its hash gives, or at the first free one of a sequence of places from there. -/
structure MemberTable where
  slots : Array MemberSlot := Array.replicate 8 .free
  /-- The places that are not free. -/
  fill : Nat := 0
  /-- Where the next removal of any member starts to look. -/
  finger : Nat := 0
  deriving DecidableEq, Inhabited

namespace MemberTable

def empty : MemberTable := {}

/-- The members in the order of the table. -/
def toList (t : MemberTable) : List (Key × Identity) :=
  t.slots.toList.filterMap fun
    | .member _ form id => some (form, id)
    | _ => none

def ids (t : MemberTable) : List Identity := t.toList.map (·.2)

def size (t : MemberTable) : Nat := t.toList.length

def contains (t : MemberTable) (form : Key) : Bool := t.toList.any (·.1 == form)

private def linearProbes : Nat := 9

private inductive Probe where
  | free (place : Nat)
  | found (place : Nat)
  | passed

/-- Looks at a few neighbouring places. -/
def probeNear (t : MemberTable) (hash : UInt64) (form : Key) : Nat → Nat → Probe
  | 0, _ => .passed
  | count + 1, place =>
    match t.slots.getD place .free with
    | .free => .free place
    | .removed => probeNear t hash form count (place + 1)
    | .member other key _ =>
      if other = hash ∧ key = form then .found place else probeNear t hash form count (place + 1)

def probe (t : MemberTable) (hash : UInt64) (form : Key) : Nat → Nat → Nat → Probe
  | 0, _, _ => .passed
  | fuel + 1, place, perturb =>
    let mask := t.slots.size - 1
    let near := if place + linearProbes ≤ mask then linearProbes + 1 else 1
    match probeNear t hash form near place with
    | .passed =>
      let perturb := perturb / 32
      probe t hash form fuel ((place * 5 + 1 + perturb) % t.slots.size) perturb
    | result => result

def locate (t : MemberTable) (hash : UInt64) (form : Key) : Probe :=
  probe t hash form (t.slots.size + 16) (hash.toNat % t.slots.size) hash.toNat

def put (t : MemberTable) (hash : UInt64) (form : Key) (id : Identity) : MemberTable :=
  match t.locate hash form with
  | .free place => { t with slots := t.slots.set! place (.member hash form id), fill := t.fill + 1 }
  | _ => t

private def sizeFor (used : Nat) : Nat → Nat → Nat
  | 0, size => size
  | fuel + 1, size => if used < size then size else sizeFor used fuel (2 * size)

/-- The same members in a table with room for so many. -/
def resize (t : MemberTable) (used : Nat) : MemberTable :=
  t.slots.foldl (fun made slot =>
    match slot with
    | .member hash form id => made.put hash form id
    | _ => made) { slots := Array.replicate (sizeFor used 64 8) .free }

/-- Makes room before so many members come in at once. -/
def reserve (t : MemberTable) (more : Nat) : MemberTable :=
  if (t.slots.size - 1) * 3 ≤ (t.fill + more) * 5 then t.resize ((t.size + more) * 2) else t

/-- Adds a member unless an equal one is there. -/
def insert (t : MemberTable) (hash : UInt64) (form : Key) (id : Identity) : MemberTable :=
  match t.locate hash form with
  | .free _ =>
    let t := t.put hash form id
    if t.fill * 5 < (t.slots.size - 1) * 3 then t else t.resize (t.size * 4)
  | _ => t

/-- Adds the members of another table. -/
def merge (t other : MemberTable) : MemberTable :=
  let room := t.reserve other.size
  if room.fill = 0 ∧ room.slots.size = other.slots.size ∧ other.fill = other.size then
    { other with finger := room.finger }
  else
    other.slots.foldl (fun made slot =>
      match slot with
      | .member hash form id =>
        match made.locate hash form with
        | .free _ => if room.fill = 0 then made.put hash form id else made.insert hash form id
        | _ => made
      | _ => made) room

def erase (t : MemberTable) (form : Key) : MemberTable :=
  { t with slots := t.slots.map fun slot =>
      match slot with
      | .member _ key _ => if key = form then .removed else slot
      | _ => slot }

/-- The members that pass a test, in a table of their own. -/
def filter (keeps : Key → Bool) (t : MemberTable) : MemberTable :=
  t.slots.foldl (fun made slot =>
    match slot with
    | .member hash form id => if keeps form then made.insert hash form id else made
    | _ => made) {}

/-- The same members in a table of their own. -/
def copy (t : MemberTable) : MemberTable := empty.merge t

def union (t other : MemberTable) : MemberTable := t.copy.merge other

/-- The common members; their objects come from the second table unless that is the larger one. -/
def intersection (t other : MemberTable) : MemberTable :=
  if t.size < other.size then t.filter other.contains else other.filter t.contains

def difference (t other : MemberTable) : MemberTable :=
  if other.size < t.size / 4 then other.toList.foldl (fun made entry => made.erase entry.1) t.copy
  else t.filter fun form => !other.contains form

/-- The members of one of two tables only. -/
def symmetricDifference (t other : MemberTable) : MemberTable :=
  t.slots.foldl (fun made slot =>
    match slot with
    | .member hash form id => if made.contains form then made.erase form else made.insert hash form id
    | _ => made) other.copy

/-- Whether every member is one of another table. -/
def isSubset (t other : MemberTable) : Bool := t.toList.all fun entry => other.contains entry.1

/-- The first member at a place or behind it, and where it lies. -/
def nextFrom? (t : MemberTable) (start : Nat) : Option (Identity × Nat) :=
  ((List.range (t.slots.size - start)).map (start + ·)).findSome? fun place =>
    match t.slots.getD place .free with
    | .member _ _ id => some (id, place)
    | _ => none

/-- Removes any one member. -/
def pop? (t : MemberTable) : Option (Identity × MemberTable) :=
  let places := (List.range t.slots.size).map fun i => (t.finger + i) % t.slots.size
  places.findSome? fun place =>
    match t.slots.getD place .free with
    | .member _ form id => some (id, { t.erase form with finger := place + 1 })
    | _ => none

end MemberTable
end ScriptHost
