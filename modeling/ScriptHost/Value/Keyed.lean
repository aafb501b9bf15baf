import Std.Data.HashMap

/-! Entries in insertion order, with the positions of hashable keys filed by hash and those
of all other keys on a side list. -/
namespace ScriptHost

/-- A list of entries and the two tables that find a key's position in it. -/
structure Keyed (α : Type) where
  entries : Array (α × α) := #[]
  index : Std.HashMap UInt64 (Array Nat) := ∅
  unhashed : Array Nat := #[]

namespace Keyed
variable {α : Type}

instance : Inhabited (Keyed α) := ⟨{}⟩

def withCapacity (capacity : Nat) : Keyed α :=
  { entries := Array.mkEmpty capacity, index := Std.HashMap.emptyWithCapacity capacity }

def toList (m : Keyed α) : List (α × α) := m.entries.toList

def size (m : Keyed α) : Nat := m.entries.size

/-- The positions where a key of this hash can stand. -/
def candidates (m : Keyed α) (hash : Option UInt64) : Array Nat :=
  match hash with
  | some h => m.index.getD h #[]
  | none => m.unhashed

/-- The first candidate position whose key satisfies `same`. -/
def position (m : Keyed α) (hash : Option UInt64) (same : α → Bool) : Option Nat :=
  (m.candidates hash).find? fun p => (m.entries[p]?).any fun entry => same entry.1

def find? (m : Keyed α) (hash : Option UInt64) (same : α → Bool) : Option (α × α) :=
  (m.position hash same).bind fun p => m.entries[p]?

/-- Whether a key like it is found for every entry of a list, with a value that is like the entry's. -/
def covers {β : Type} (m : Keyed α) (entries : List (β × β)) (hashOf : β → Option UInt64)
    (same : α → β → Bool) : Bool :=
  entries.all fun entry =>
    match m.find? (hashOf entry.1) (same · entry.1) with
    | some (_, found) => same found entry.2
    | none => false

/-- Adds an entry at the end and files its position. -/
def push (m : Keyed α) (hash : Option UInt64) (key value : α) : Keyed α :=
  let ⟨entries, index, unhashed⟩ := m
  let p := entries.size
  match hash with
  | some h => ⟨entries.push (key, value), index.insert h ((index.getD h #[]).push p), unhashed⟩
  | none => ⟨entries.push (key, value), index, unhashed.push p⟩

/-- Replaces the value at a position and keeps the key that stands there. -/
def setValue (m : Keyed α) (p : Nat) (value : α) : Keyed α :=
  { m with entries := m.entries.modify p fun entry => (entry.1, value) }

end Keyed
end ScriptHost
