import ScriptHost.Proofs.Stepping
import ScriptHost.Proofs.Value.Equality

/-! Maps of values as lists of entries: an entry under a new key goes to the end, and a map has a key exactly
if one of its entries is under an equal one. -/
namespace ScriptHost

namespace Keyed
variable {α : Type}

@[simp] theorem toList_withCapacity (capacity : Nat) : (withCapacity capacity : Keyed α).toList = [] := rfl

theorem toList_push (m : Keyed α) (hash : Option UInt64) (key value : α) :
    (m.push hash key value).toList = m.toList ++ [(key, value)] := by
  unfold push toList
  cases hash <;> simp

/-- What is filed at a position is an entry. -/
theorem entry_of_position {m : Keyed α} {hash : Option UInt64} {same : α → Bool} {p : Nat}
    (h : m.position hash same = some p) : ∃ entry, m.entries[p]? = some entry ∧ same entry.1 = true := by
  have hp := Array.find?_some h
  cases he : m.entries[p]? with
  | none => simp [he] at hp
  | some entry => exact ⟨entry, rfl, by simpa [he] using hp⟩

/-- The positions whose keys have a hash, in order. -/
def positions (hashOf : α → Option UInt64) (m : Keyed α) (hash : Option UInt64) : List Nat :=
  (List.range m.size).filter fun p => (m.entries[p]?).any fun entry => hashOf entry.1 == hash

/-- Every entry of a map is filed under the hash of its key and under no other one, the oldest first. -/
def Filed (hashOf : α → Option UInt64) (m : Keyed α) : Prop :=
  ∀ hash, (m.candidates hash).toList = m.positions hashOf hash

theorem filed_withCapacity (hashOf : α → Option UInt64) (capacity : Nat) :
    (withCapacity capacity).Filed hashOf := by
  intro hash
  cases hash <;> simp [withCapacity, candidates, positions, size]

theorem filed_empty (hashOf : α → Option UInt64) : ({} : Keyed α).Filed hashOf := by
  intro hash
  cases hash <;> simp [candidates, positions, size]

private theorem find?_range_eq_findIdx? {β : Type} (l : List β) (q : β → Bool) :
    (List.range l.length).find? (fun p => (l[p]?).any q) = l.findIdx? q := by
  induction l with
  | nil => rfl
  | cons x l ih =>
    have htail : (fun p => ((x :: l)[p]?).any q) ∘ Nat.succ = fun p => (l[p]?).any q := rfl
    rw [List.length_cons, List.range_succ_eq_map, List.find?_cons, List.findIdx?_cons, List.find?_map, ← ih, htail]
    cases hx : q x <;> simp [hx]

/-- A look-up for keys of one hash is a search of the entries from the front. -/
theorem Filed.position_eq {hashOf : α → Option UInt64} {m : Keyed α} (hm : m.Filed hashOf)
    {hash : Option UInt64} {same : α → Bool}
    (hsame : ∀ entry ∈ m.toList, same entry.1 = true → hashOf entry.1 = hash) :
    m.position hash same = m.toList.findIdx? fun entry => same entry.1 := by
  have hkept (p : Nat) :
      decide ((m.entries[p]?).any (fun entry => hashOf entry.1 == hash) = true ∧
        (m.entries[p]?).any (fun entry => same entry.1) = true) = (m.entries[p]?).any fun entry => same entry.1 := by
    cases he : m.entries[p]? with
    | none => rfl
    | some entry =>
      have hentry := hsame entry (Array.mem_toList_iff.mpr (Array.mem_of_getElem? he))
      rw [Bool.eq_iff_iff, decide_eq_true_iff]
      simpa using hentry
  rw [position, ← Array.find?_toList, hm hash, positions, List.find?_filter, funext hkept]
  simpa [size, toList] using find?_range_eq_findIdx? m.toList fun entry => same entry.1

theorem Filed.find?_eq {hashOf : α → Option UInt64} {m : Keyed α} (hm : m.Filed hashOf)
    {hash : Option UInt64} {same : α → Bool}
    (hsame : ∀ entry ∈ m.toList, same entry.1 = true → hashOf entry.1 = hash) :
    m.find? hash same = m.toList.find? fun entry => same entry.1 := by
  rw [find?, hm.position_eq hsame, List.find?_eq_bind_findIdx?_getElem?]
  simp [toList]

private theorem candidates_push (m : Keyed α) (hash other : Option UInt64) (key value : α) :
    (m.push hash key value).candidates other =
      if hash = other then (m.candidates other).push m.entries.size else m.candidates other := by
  cases hash with
  | none => cases other <;> simp [push, candidates]
  | some h =>
    cases other with
    | none => simp [push, candidates]
    | some h' =>
      simp only [push, candidates, Std.HashMap.getD_insert, beq_iff_eq, Option.some.injEq]
      split
      · next he => rw [he]
      · rfl

private theorem entries_push (m : Keyed α) (hash : Option UInt64) (key value : α) :
    (m.push hash key value).entries = m.entries.push (key, value) := by
  cases hash <;> rfl

theorem Filed.push {hashOf : α → Option UInt64} {m : Keyed α} (h : m.Filed hashOf) (key value : α) :
    (m.push (hashOf key) key value).Filed hashOf := by
  intro hash
  have hearlier : ∀ p ∈ List.range m.size,
      ((m.entries.push (key, value))[p]?).any (fun entry => hashOf entry.1 == hash) =
        (m.entries[p]?).any fun entry => hashOf entry.1 == hash := by
    intro p hp
    have hne : p ≠ m.entries.size := Nat.ne_of_lt (List.mem_range.mp hp)
    rw [Array.getElem?_push, if_neg hne]
  have hkept : (List.range m.size).filter
      (fun p => ((m.entries.push (key, value))[p]?).any fun entry => hashOf entry.1 == hash) =
        m.positions hashOf hash := List.filter_congr hearlier
  have hlast : ((m.entries.push (key, value))[m.size]?).any (fun entry => hashOf entry.1 == hash) =
      (hashOf key == hash) := by
    simp [size]
  have hsize : (m.push (hashOf key) key value).size = m.size + 1 := by
    rw [size, entries_push, Array.size_push, size]
  rw [candidates_push, positions, hsize, entries_push, List.range_succ, List.filter_append, hkept,
    List.filter_singleton, hlast, ← h hash]
  by_cases hhash : hashOf key = hash
  · simp [hhash, size]
  · simp [hhash, beq_eq_false_iff_ne.mpr hhash]

/-- Replacing the value at a position leaves all keys where they are. -/
theorem Filed.setValue {hashOf : α → Option UInt64} {m : Keyed α} (h : m.Filed hashOf) (p : Nat) (value : α) :
    (m.setValue p value).Filed hashOf := by
  intro hash
  have hkeys (q : Nat) : ((m.setValue p value).entries[q]?).any (fun entry => hashOf entry.1 == hash) =
      (m.entries[q]?).any fun entry => hashOf entry.1 == hash := by
    rw [Keyed.setValue, Array.getElem?_modify]
    split <;> simp [Option.any_map]
  have hsize : (m.setValue p value).size = m.size := Array.size_modify
  rw [positions, hsize, funext hkeys]
  exact h hash

end Keyed

/-- Whether no two of some entries are under equal keys. -/
def Value.AreDistinct [KeyHasher] (entries : List (Value × Value)) : Prop :=
  entries.Pairwise fun entry other => (entry.1 == other.1) = false

instance [KeyHasher] (entries : List (Value × Value)) : Decidable (Value.AreDistinct entries) :=
  inferInstanceAs (Decidable (entries.Pairwise fun entry other => (entry.1 == other.1) = false))

namespace ValueMap
variable [KeyHasher]

/-- The map of some entries, in their order. -/
def ofEntries (entries : List (Value × Value)) : ValueMap :=
  entries.foldl (fun (m : ValueMap) entry => m.adding entry.1 entry.2) (Keyed.withCapacity entries.length)

/-- A map has a key as soon as a position is found for it. -/
theorem contains_eq_position (m : ValueMap) (key : Value) :
    m.contains key = (m.position key.keyHash (· == key)).isSome := by
  unfold contains get? Keyed.find?
  cases hp : m.position key.keyHash (· == key) with
  | none => rfl
  | some p =>
    obtain ⟨entry, he, _⟩ := Keyed.entry_of_position hp
    simp [he]

theorem position_eq {m : ValueMap} (hm : m.Filed Value.keyHash) (key : Value) :
    m.position key.keyHash (· == key) = m.toList.findIdx? (·.1 == key) :=
  hm.position_eq fun _ _ hsame => Value.keyHash_eq_of_beq hsame

theorem find?_eq {m : ValueMap} (hm : m.Filed Value.keyHash) (key : Value) :
    m.find? key.keyHash (· == key) = m.toList.find? (·.1 == key) :=
  hm.find?_eq fun _ _ hsame => Value.keyHash_eq_of_beq hsame

/-- A map has a key exactly if it has an entry under an equal one. -/
theorem contains_iff {m : ValueMap} (hm : m.Filed Value.keyHash) (key : Value) :
    m.contains key = true ↔ ∃ entry ∈ m.toList, (entry.1 == key) = true := by
  rw [contains, get?, Option.isSome_map, find?_eq hm, List.find?_isSome]

theorem insert_of_absent {m : ValueMap} {key : Value} (h : m.position key.keyHash (· == key) = none)
    (value : Value) : m.insert key value = (none, m.push key.keyHash key value) := by
  simp [insert, h]

theorem insert_of_present {m : ValueMap} {key : Value} {p : Nat}
    (h : m.position key.keyHash (· == key) = some p) (value : Value) :
    m.insert key value = ((m.entries[p]?).map (·.2), m.setValue p value) := by
  simp [insert, h]

theorem adding_of_not_contains {m : ValueMap} {key : Value} (h : m.contains key = false)
    (value : Value) : m.adding key value = m.push key.keyHash key value := by
  rw [contains_eq_position, Option.isSome_eq_false_iff, Option.isNone_iff_eq_none] at h
  rw [adding, insert_of_absent h]

theorem filed_insert {m : ValueMap} (hm : m.Filed Value.keyHash) (key value : Value) :
    (m.insert key value).2.Filed Value.keyHash := by
  cases hp : m.position key.keyHash (· == key) with
  | none =>
    rw [insert_of_absent hp]
    exact hm.push key value
  | some p =>
    rw [insert_of_present hp]
    exact hm.setValue p value

theorem filed_adding {m : ValueMap} (hm : m.Filed Value.keyHash) (key value : Value) :
    (m.adding key value).Filed Value.keyHash := filed_insert hm key value

theorem toList_adding {m : ValueMap} {key : Value} (h : m.contains key = false) (value : Value) :
    (m.adding key value).toList = m.toList ++ [(key, value)] := by
  rw [adding_of_not_contains h, Keyed.toList_push]

theorem contains_eq_false {m : ValueMap} (hm : m.Filed Value.keyHash) {entry : Value × Value}
    {rest : List (Value × Value)} (hd : Value.AreDistinct (m.toList ++ entry :: rest)) :
    m.contains entry.1 = false := by
  rw [← Bool.not_eq_true]
  intro hc
  obtain ⟨other, hother, hsame⟩ := (contains_iff hm entry.1).mp hc
  have hne := (List.pairwise_append.mp hd).2.2 other hother entry List.mem_cons_self
  rw [hsame] at hne
  cases hne

theorem areDistinct_adding {m : ValueMap} (hm : m.Filed Value.keyHash) (hd : Value.AreDistinct m.toList)
    {entry : Value × Value} (hc : m.contains entry.1 = false) : Value.AreDistinct (m.toList ++ [entry]) := by
  refine List.pairwise_append.mpr ⟨hd, List.pairwise_singleton _ entry, fun other hother last hlast => ?_⟩
  rw [List.mem_singleton.mp hlast, ← Bool.not_eq_true]
  intro hsame
  rw [(contains_iff hm entry.1).mpr ⟨other, hother, hsame⟩] at hc
  cases hc

/-- Entries under different keys come after the entries of the map that they are added to, in their order. -/
theorem toList_foldl_adding {m : ValueMap} (hm : m.Filed Value.keyHash) {rest : List (Value × Value)}
    (hd : Value.AreDistinct (m.toList ++ rest)) :
    (rest.foldl (fun (m : ValueMap) entry => m.adding entry.1 entry.2) m).toList = m.toList ++ rest := by
  induction rest generalizing m with
  | nil => simp
  | cons entry rest ih =>
    have hnew := contains_eq_false hm hd
    have htoList := toList_adding hnew entry.2
    rw [List.foldl_cons, ih (filed_adding hm entry.1 entry.2), htoList, List.append_assoc,
      List.singleton_append]
    rwa [htoList, List.append_assoc, List.singleton_append]

/-- The map of entries under different keys has these entries, in their order. -/
theorem toList_ofEntries {entries : List (Value × Value)} (h : Value.AreDistinct entries) :
    (ofEntries entries).toList = entries := by
  rw [ofEntries, toList_foldl_adding (Keyed.filed_withCapacity _ _) (by simpa using h), Keyed.toList_withCapacity,
    List.nil_append]

theorem toList_ofList {entries : List (Value × Value)} (h : Value.AreDistinct entries) :
    (ofList entries).toList = entries :=
  toList_foldl_adding (Keyed.filed_empty _) h

end ValueMap

namespace Value

/-- The handles inside a list are those of its items in order. -/
theorem handles_list (items : List Value) : (list items).handles = items.flatMap handles := by
  rw [handles]
  induction items with
  | nil => rfl
  | cons item items ih => rw [itemHandles, ih, List.flatMap_cons]

/-- The handles inside a map are those of its entries in order. -/
theorem handles_map (m : ValueMap) :
    (map m).handles = m.toList.flatMap fun entry => entry.1.handles ++ entry.2.handles := by
  obtain ⟨⟨entries⟩, index, unhashed⟩ := m
  rw [handles, mapHandles, arrayHandles]
  change entryHandles entries = entries.flatMap _
  induction entries with
  | nil => rfl
  | cons entry entries ih =>
    obtain ⟨key, value⟩ := entry
    rw [entryHandles, pairHandles, ih, List.flatMap_cons]

theorem handles_map_adding {m : ValueMap} {key : Value} (h : m.contains key = false) (value : Value) :
    (map (m.adding key value)).handles = (map m).handles ++ (key.handles ++ value.handles) := by
  rw [handles_map, handles_map, ValueMap.toList_adding h, List.flatMap_append, List.flatMap_singleton]

end Value
end ScriptHost
