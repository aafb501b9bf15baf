import Mathlib.Data.List.Forall2
import ScriptHost.Value.Basic

/-! Equality of values part by part: lists item by item, maps by looking every entry of one up in the other.
Equal values are filed under the same hash, or all without one. -/
namespace ScriptHost

namespace Keyed
variable {α β : Type}

def map (f : α → β) (m : Keyed α) : Keyed β := ⟨m.entries.map (Prod.map f f), m.index, m.unhashed⟩

theorem toList_map (f : α → β) (m : Keyed α) : (m.map f).toList = m.toList.map (Prod.map f f) := by
  simp [map, toList]

theorem find?_map (f : α → β) (m : Keyed α) (hash : Option UInt64) (same : β → Bool) :
    (m.map f).find? hash same = (m.find? hash fun a => same (f a)).map (Prod.map f f) := by
  have hposition : (m.map f).position hash same = m.position hash fun a => same (f a) := by
    simp only [position, candidates, map, Array.getElem?_map, Option.any_map]
    rfl
  rw [find?, find?, hposition]
  cases m.position hash fun a => same (f a) <;> simp [map]

theorem mem_of_find? {m : Keyed α} {hash : Option UInt64} {same : α → Bool} {found : α × α}
    (h : m.find? hash same = some found) : found ∈ m.toList := by
  obtain ⟨p, _, hp⟩ := Option.bind_eq_some_iff.mp h
  exact Array.mem_toList_iff.mpr (Array.mem_of_getElem? hp)

/-- Looking up depends on nothing but the comparisons with the stored keys. -/
theorem find?_congr {m : Keyed α} {hash : Option UInt64} {same same' : α → Bool}
    (h : ∀ stored ∈ m.toList, same stored.1 = same' stored.1) : m.find? hash same = m.find? hash same' := by
  have hentry (p : Nat) : (m.entries[p]?).any (fun entry => same entry.1) =
      (m.entries[p]?).any fun entry => same' entry.1 := by
    cases he : m.entries[p]? with
    | none => rfl
    | some entry => exact h entry (Array.mem_toList_iff.mpr (Array.mem_of_getElem? he))
  rw [find?, find?, position, position, funext hentry]

theorem covers_congr {m : Keyed α} {entries : List (β × β)} {hashOf : β → Option UInt64}
    {same same' : α → β → Bool}
    (h : ∀ stored ∈ m.toList, ∀ entry ∈ entries,
      same stored.1 entry.1 = same' stored.1 entry.1 ∧ same stored.2 entry.2 = same' stored.2 entry.2) :
    m.covers entries hashOf same = m.covers entries hashOf same' := by
  rw [covers, covers, Bool.eq_iff_iff, List.all_eq_true, List.all_eq_true]
  refine forall₂_congr fun entry hentry => ?_
  have hkey : m.find? (hashOf entry.1) (same · entry.1) = m.find? (hashOf entry.1) (same' · entry.1) :=
    find?_congr fun stored hstored => (h stored hstored entry hentry).1
  rw [hkey]
  cases hfound : m.find? (hashOf entry.1) (same' · entry.1) with
  | none => rfl
  | some found => simp only [(h found (mem_of_find? hfound) entry hentry).2]

theorem covers_map {γ : Type} (f : α → β) (m : Keyed α) (entries : List (γ × γ)) (hashOf : γ → Option UInt64)
    (same : β → γ → Bool) :
    (m.map f).covers entries hashOf same = m.covers entries hashOf fun stored key => same (f stored) key := by
  simp only [covers, find?_map]
  congr 1
  funext entry
  cases m.find? (hashOf entry.1) fun stored => same (f stored) entry.1 <;> rfl

theorem covers_toList_map {γ : Type} (f : γ → β) (m : Keyed α) (other : Keyed γ) (hashOf : β → Option UInt64)
    (same : α → β → Bool) :
    m.covers (other.map f).toList hashOf same =
      m.covers other.toList (fun key => hashOf (f key)) fun stored key => same stored (f key) := by
  simp only [covers, toList_map, List.all_map]
  rfl

end Keyed

namespace Value

/-- Induction over the parts of a value: the items of a list, the keys and values of a map. -/
@[elab_as_elim]
theorem partsInduction {motive : Value → Prop} (null : motive .null) (bool : ∀ b, motive (.bool b))
    (int : ∀ n, motive (.int n)) (bigInt : ∀ n, motive (.bigInt n)) (float : ∀ x, motive (.float x))
    (string : ∀ s, motive (.string s))
    (list : ∀ items, (∀ item ∈ items, motive item) → motive (.list items))
    (map : ∀ m : ValueMap, (∀ entry ∈ m.toList, motive entry.1 ∧ motive entry.2) → motive (.map m))
    (host : ∀ o, motive (.host o)) (handle : ∀ id, motive (.handle id)) (v : Value) : motive v :=
  @Value.rec motive (fun items => ∀ item ∈ items, motive item)
    (fun m => ∀ entry ∈ m.toList, motive entry.1 ∧ motive entry.2)
    (fun entries => ∀ entry ∈ entries.toList, motive entry.1 ∧ motive entry.2)
    (fun entries => ∀ entry ∈ entries, motive entry.1 ∧ motive entry.2)
    (fun entry => motive entry.1 ∧ motive entry.2)
    null bool int bigInt float string list map host handle
    (List.forall_mem_nil _) (fun _ _ hitem hitems => List.forall_mem_cons.mpr ⟨hitem, hitems⟩)
    (fun _ _ _ hentries => hentries) (fun _ hentries => hentries)
    (List.forall_mem_nil _) (fun _ _ hentry hentries => List.forall_mem_cons.mpr ⟨hentry, hentries⟩)
    (fun _ _ hkey hvalue => ⟨hkey, hvalue⟩) v

section
variable [KeyHasher]

private def comparable (v : Value) : Comparable := (v, same v)

private theorem comparableEntries_eq (entries : List (Value × Value)) :
    comparableEntries entries = entries.map (Prod.map comparable comparable) := by
  induction entries with
  | nil => rfl
  | cons entry entries ih =>
    obtain ⟨key, value⟩ := entry
    rw [comparableEntries, ih]
    rfl

private theorem same_map (m other : ValueMap) (turned : Bool) :
    same (.map m) turned (.map other) = (m.size == other.size &&
      if turned then m.covers other.toList keyHash fun stored key => same stored false key
      else other.covers m.toList keyHash fun stored key => same key true stored) := by
  obtain ⟨⟨entries⟩, index, unhashed⟩ := m
  have hown : (⟨comparableArray ⟨entries⟩, index, unhashed⟩ : Keyed Comparable) =
      Keyed.map comparable ⟨⟨entries⟩, index, unhashed⟩ := by
    rw [comparableArray, comparableEntries_eq]
    simp [Keyed.map]
  rw [same, sameMap, hown]
  simp only [Keyed.covers_map, Keyed.covers_toList_map]
  simp [Keyed.size, Keyed.map, comparable]

/-- The turned comparison is the comparison with the two values exchanged. -/
theorem same_turned (a : Value) : ∀ turned b, same a (!turned) b = same b turned a := by
  induction a using partsInduction with
  | list as ih =>
    intro turned b
    cases b with
    | list bs =>
      simp only [same]
      induction as generalizing bs with
      | nil => cases bs <;> rfl
      | cons a as hrest =>
        cases bs with
        | nil => rfl
        | cons b bs =>
          obtain ⟨ha, has⟩ := List.forall_mem_cons.mp ih
          rw [sameItems, sameItems, ha, hrest has]
    | _ => rfl
  | map m ih =>
    intro turned b
    cases b with
    | map other =>
      rw [same_map, same_map, BEq.comm]
      congr 1
      cases turned with
      | false =>
        rw [if_pos Bool.not_false, if_neg Bool.false_ne_true]
        refine Keyed.covers_congr fun stored hstored entry _ => ?_
        exact ⟨(ih stored hstored).1 true entry.1, (ih stored hstored).2 true entry.2⟩
      | true =>
        rw [Bool.not_true, if_neg Bool.false_ne_true, if_pos rfl]
        refine Keyed.covers_congr fun stored _ entry hentry => ?_
        exact ⟨(ih entry hentry).1 false stored.1, (ih entry hentry).2 false stored.2⟩
    | _ => rfl
  | _ => 
    intro turned b
    cases b <;> cases turned <;> first | rfl | exact BEq.comm

theorem beq_list_iff (as bs : List Value) :
    (list as == list bs) = true ↔ List.Forall₂ (fun a b => (a == b) = true) as bs := by
  change sameItems as false bs = true ↔ _
  induction as generalizing bs with
  | nil => cases bs <;> simp [sameItems]
  | cons a as ih =>
    cases bs with
    | nil => simp [sameItems]
    | cons b bs =>
      rw [sameItems, Bool.and_eq_true, List.forall₂_cons, ih]
      rfl

/-- Maps are equal if they have the same size and every entry of the one is found in the other. -/
theorem beq_map (m other : ValueMap) :
    (map m == map other) = (m.size == other.size && other.covers m.toList keyHash (· == ·)) := by
  change same (map m) false (map other) = _
  rw [same_map, if_neg Bool.false_ne_true]
  congr 1
  refine Keyed.covers_congr fun stored _ entry _ => ?_
  exact ⟨same_turned entry.1 false stored.1, same_turned entry.2 false stored.2⟩

/-- Whether a value has no parts and equals every value of its shape that holds the same. -/
def isAtom : Value → Bool
  | .float _ | .list _ | .map _ | .host _ => false
  | _ => true

/-- The ways in which two values are equal. -/
inductive Matches : Value → Value → Prop where
  | atom {a : Value} (h : a.isAtom = true) : Matches a a
  | float {x y : Double} (h : x.equals y = true) : Matches (.float x) (.float y)
  | list {as bs : List Value} (h : List.Forall₂ (fun a b => (a == b) = true) as bs) : Matches (.list as) (.list bs)
  | map {m other : ValueMap} (hsize : m.size = other.size)
      (h : other.covers m.toList keyHash (· == ·) = true) : Matches (.map m) (.map other)
  | host {o o' : HostObject} (h : o.identity = o'.identity) : Matches (.host o) (.host o')

private theorem atom_of_eq {a b : Value} (h : a = b) (ha : a.isAtom = true) : Matches a b := by
  subst h
  exact .atom ha

theorem beq_iff (a b : Value) : (a == b) = true ↔ Matches a b := by
  constructor
  · intro h
    cases a with
    | float _ => cases b with | float _ => exact .float h | _ => cases h
    | list as => cases b with | list bs => exact .list ((beq_list_iff as bs).mp h) | _ => cases h
    | map m =>
      cases b with
      | map other =>
        rw [beq_map, Bool.and_eq_true, beq_iff_eq] at h
        exact .map h.1 h.2
      | _ => cases h
    | host o =>
      cases b with
      | host o' =>
        have hidentity : o.identity = o'.identity := eq_of_beq h
        exact .host hidentity
      | _ => cases h
    | null => cases b with | null => exact .atom rfl | _ => cases h
    | bool _ => cases b with | bool _ => exact atom_of_eq (congrArg _ (eq_of_beq h)) rfl | _ => cases h
    | int _ => cases b with | int _ => exact atom_of_eq (congrArg _ (eq_of_beq h)) rfl | _ => cases h
    | bigInt _ => cases b with | bigInt _ => exact atom_of_eq (congrArg _ (eq_of_beq h)) rfl | _ => cases h
    | string _ => cases b with | string _ => exact atom_of_eq (congrArg _ (eq_of_beq h)) rfl | _ => cases h
    | handle _ => cases b with | handle _ => exact atom_of_eq (congrArg _ (eq_of_beq h)) rfl | _ => cases h
  · intro h
    cases h with
    | atom h =>
      cases a with
      | null => rfl
      | bool b => exact beq_self_eq_true b
      | int n => exact beq_self_eq_true n
      | bigInt n => exact beq_self_eq_true n
      | string s => exact beq_self_eq_true s
      | handle id => exact beq_self_eq_true id
      | _ => cases h
    | float h => exact h
    | list h => exact (beq_list_iff _ _).mpr h
    | map hsize h => rw [beq_map, h, hsize, beq_self_eq_true, Bool.and_true]
    | @host o o' h =>
      have hsame : (o.identity == o'.identity) = true := beq_iff_eq.mpr h
      exact hsame

omit [KeyHasher] in
private theorem itemBytes_eq_of_forall₂ {as bs : List Value}
    (h : List.Forall₂ (fun a b => keyBytes a = keyBytes b) as bs) : itemBytes as = itemBytes bs := by
  induction h with
  | nil => rfl
  | cons hbytes _ ih => rw [itemBytes, itemBytes, hbytes, ih]

/-- Equal values feed the same bytes to their digests. -/
theorem keyBytes_eq_of_matches (a : Value) : ∀ {b}, Matches a b → a.keyBytes = b.keyBytes := by
  induction a using partsInduction with
  | list as ih =>
    rintro _ (_ | _ | hitems)
    · rfl
    · rename_i bs
      have hbytes : List.Forall₂ (fun a b => keyBytes a = keyBytes b) as bs :=
        List.forall₂_iff_get.mpr ⟨hitems.length_eq, fun i ha hb =>
          ih _ (List.get_mem as ⟨i, ha⟩) ((beq_iff _ _).mp (hitems.get ha hb))⟩
      rw [keyBytes, keyBytes, itemBytes_eq_of_forall₂ hbytes, hitems.length_eq]
  | host o =>
    rintro _ (_ | _ | _ | _ | h)
    · rfl
    · rw [keyBytes, keyBytes, h]
  | _ =>
    rintro _ (_ | _) <;> rfl

theorem keyHash_eq_of_beq {a b : Value} (h : (a == b) = true) : a.keyHash = b.keyHash := by
  rw [keyHash, keyHash, keyBytes_eq_of_matches a ((beq_iff a b).mp h)]

end

/-! ### Keys without a hash -/

/-- A value is a float or a map, or one is inside it within lists only. -/
inductive IsUnhashable : Value → Prop where
  | float (x : Double) : IsUnhashable (.float x)
  | map (m : ValueMap) : IsUnhashable (.map m)
  | item {items : List Value} {item : Value} (hmem : item ∈ items) (h : IsUnhashable item) : IsUnhashable (.list items)

theorem itemBytes_eq_none_iff (items : List Value) : itemBytes items = none ↔ ∃ item ∈ items, item.keyBytes = none := by
  induction items with
  | nil => simp [itemBytes]
  | cons item items ih =>
    rw [itemBytes]
    cases hitem : item.keyBytes with
    | none => simp [hitem]
    | some first => simp [hitem, ih]

/-- The first float or map that is met within lists leaves nothing to digest. -/
theorem keyBytes_eq_none_iff (v : Value) : v.keyBytes = none ↔ v.IsUnhashable := by
  induction v using partsInduction with
  | float x => exact iff_of_true rfl (.float x)
  | map m _ => exact iff_of_true rfl (.map m)
  | list items ih =>
    rw [keyBytes, Option.map_eq_none_iff, itemBytes_eq_none_iff]
    constructor
    · rintro ⟨item, hmem, h⟩
      exact .item hmem ((ih item hmem).mp h)
    · intro h
      cases h with
      | item hmem h => exact ⟨_, hmem, (ih _ hmem).mpr h⟩
  | _ => exact iff_of_false nofun nofun

/-- Hashes of keys agree with equality: equal values have the same hash or both none, and those that have none are the
floats, the maps and the lists with one of these inside. So a value that has a hash equals none that has not. -/
theorem keyHash_compatible [KeyHasher] (a b : Value) :
    ((a == b) = true → a.keyHash = b.keyHash) ∧ (a.keyHash = none ↔ a.IsUnhashable) ∧
      (a.keyHash.isSome ≠ b.keyHash.isSome → (a == b) = false) := by
  refine ⟨keyHash_eq_of_beq, ?_, fun hapart => ?_⟩
  · rw [keyHash, Option.map_eq_none_iff, keyBytes_eq_none_iff]
  · rw [← Bool.not_eq_true]
    intro hsame
    exact hapart (congrArg _ (keyHash_eq_of_beq hsame))

/-- Lists with the two zeros are equal and have no hash; a list with a host object has one. -/
theorem keyHash_compatible_of_zeros :
    let host : Value := .host ⟨"o", .unit⟩
    let a : Value := .list [host, .list [.float ⟨0⟩]]
    let b : Value := .list [host, .list [.float ⟨0x8000000000000000⟩]]
    let c : Value := .list [host, .list []]
    (a == b) = true ∧ a.keyHash = b.keyHash ∧ a.keyHash = none ∧ c.keyHash.isSome ≠ a.keyHash.isSome ∧
      (c == a) = false := by
  intro host a b c
  have hsame : (a == b) = true := by decide
  have hzero : a.IsUnhashable := .item (.tail _ (.head _)) (.item (.head _) (.float _))
  obtain ⟨hhash, hnone, -⟩ := keyHash_compatible a b
  have hapart : c.keyHash.isSome ≠ a.keyHash.isSome := by
    rw [hnone.mpr hzero]
    exact nofun
  exact ⟨hsame, hhash hsame, hnone.mpr hzero, hapart, (keyHash_compatible c a).2.2 hapart⟩

end Value
end ScriptHost
