import ScriptHost.Proofs.Number.Rational
import ScriptHost.Proofs.Value.Built

/-! Plain values: what a script can be given and give back as it was. Their maps were built, they carry no handles,
and the keys of a map stand for different numbers. -/
namespace ScriptHost

namespace Value

/-! ### Numbers -/

/-- The number that a scalar stands for, whatever its kind. -/
def number? : Value → Option ℚ
  | .bool b => some (if b then 1 else 0)
  | .int n => some n.toInt
  | .bigInt n => some n
  | .float x => x.toRat?
  | _ => none

theorem number?_integer (n : Int) : (integer n).number? = some (n : ℚ) := by
  unfold integer
  split
  · next hfits =>
    obtain ⟨hlow, hhigh⟩ := hfits
    rw [number?, Int64.toInt_ofInt_of_le (by omega) (by omega)]
  · rfl

theorem integer_toInt (n : Int64) : integer n.toInt = .int n := by
  have hfits : FitsWord n.toInt := ⟨n.le_toInt, n.toInt_lt⟩
  rw [integer, if_pos hfits, Int64.ofInt_toInt]

theorem integer_of_big {n : Int} (h : ¬ FitsWord n) : integer n = .bigInt n := if_neg h

/-- Values that are not equal and do not stand for one number. -/
structure IsUnlike [KeyHasher] (a b : Value) : Prop where
  unequal : (a == b) = false
  number : ∀ q, a.number? = some q → b.number? ≠ some q

/-! ### Parts of values -/

/-- A value is part of another one: it is that one, or part of an item, of a key or of a value of it. -/
inductive PartOf (part : Value) : Value → Prop where
  | whole : PartOf part part
  | item {items : List Value} {item : Value} (hmem : item ∈ items) (h : PartOf part item) : PartOf part (.list items)
  | key {m : ValueMap} {entry : Value × Value} (hmem : entry ∈ m.toList) (h : PartOf part entry.1) :
    PartOf part (.map m)
  | value {m : ValueMap} {entry : Value × Value} (hmem : entry ∈ m.toList) (h : PartOf part entry.2) :
    PartOf part (.map m)

namespace PartOf
variable {part v : Value}

theorem handles (h : part.PartOf v) (hv : v.handles = []) : part.handles = [] := by
  induction h with
  | whole => exact hv
  | item hmem _ ih =>
    rw [handles_list, List.flatMap_eq_nil_iff] at hv
    exact ih (hv _ hmem)
  | key hmem _ ih =>
    rw [handles_map, List.flatMap_eq_nil_iff] at hv
    exact ih (List.append_eq_nil_iff.mp (hv _ hmem)).1
  | value hmem _ ih =>
    rw [handles_map, List.flatMap_eq_nil_iff] at hv
    exact ih (List.append_eq_nil_iff.mp (hv _ hmem)).2

end PartOf

/-- No key of a map inside a value carries handles. -/
def HasFreeKeys (v : Value) : Prop :=
  ∀ m : ValueMap, (map m).PartOf v → ∀ entry ∈ m.toList, entry.1.handles = []

namespace HasFreeKeys

theorem of_free {v : Value} (h : v.handles = []) : v.HasFreeKeys := fun _ hm _ hmem =>
  (PartOf.key hmem .whole).handles (hm.handles h)

theorem item {items : List Value} (h : (list items).HasFreeKeys) {item : Value} (hmem : item ∈ items) :
    item.HasFreeKeys := fun m hm => h m (.item hmem hm)

theorem value {m : ValueMap} (h : (map m).HasFreeKeys) {entry : Value × Value} (hmem : entry ∈ m.toList) :
    entry.2.HasFreeKeys := fun inner hm => h inner (.value hmem hm)

theorem of_map {m : ValueMap} (h : ∀ entry ∈ m.toList, entry.1.handles = [] ∧ entry.2.HasFreeKeys) :
    (map m).HasFreeKeys := fun inner hinner entry hentry => by
  cases hinner with
  | whole => exact (h entry hentry).1
  | key hmem hpart => exact (of_free (h _ hmem).1) inner hpart entry hentry
  | value hmem hpart => exact (h _ hmem).2 inner hpart entry hentry

theorem of_handle (id : Identity) : (handle id).HasFreeKeys := fun _ h => nomatch h

end HasFreeKeys

/-- Somewhere in a value a list or a map is a key. -/
inductive HasCollectionKey : Value → Prop where
  | key {m : ValueMap} {entry : Value × Value} (hmem : entry ∈ m.toList) (h : entry.1.isLeaf = false) :
    HasCollectionKey (map m)
  | value {m : ValueMap} {entry : Value × Value} (hmem : entry ∈ m.toList) (h : HasCollectionKey entry.2) :
    HasCollectionKey (map m)
  | item {items : List Value} {item : Value} (hmem : item ∈ items) (h : HasCollectionKey item) :
    HasCollectionKey (list items)

end Value

/-- No two keys of a map stand for one number. -/
def ValueMap.KeysApart (m : ValueMap) : Prop :=
  m.toList.Pairwise fun a b => ∀ q, a.1.number? = some q → b.1.number? ≠ some q

namespace Value
variable [KeyHasher]

/-- A value whose maps were built, without handles, whose big integers are beyond 64 bits, and the keys of whose maps
stand for different numbers. -/
structure IsPlain (v : Value) : Prop where
  built : v.Built
  handles : v.handles = []
  big : ∀ n, (bigInt n).PartOf v → ¬ FitsWord n
  apart : ∀ m : ValueMap, (map m).PartOf v → m.KeysApart

namespace IsPlain

theorem item {items : List Value} (h : (list items).IsPlain) {item : Value} (hmem : item ∈ items) : item.IsPlain where
  built := h.built.items item hmem
  handles := by
    have hall := h.handles
    rw [handles_list, List.flatMap_eq_nil_iff] at hall
    exact hall item hmem
  big n hn := h.big n (.item hmem hn)
  apart m hm := h.apart m (.item hmem hm)

theorem key {m : ValueMap} (h : (map m).IsPlain) {entry : Value × Value} (hmem : entry ∈ m.toList) :
    entry.1.IsPlain where
  built := (h.built.orderly.parts entry hmem).1
  handles := by
    have hall := h.handles
    rw [handles_map, List.flatMap_eq_nil_iff] at hall
    exact (List.append_eq_nil_iff.mp (hall entry hmem)).1
  big n hn := h.big n (.key hmem hn)
  apart inner hm := h.apart inner (.key hmem hm)

theorem value {m : ValueMap} (h : (map m).IsPlain) {entry : Value × Value} (hmem : entry ∈ m.toList) :
    entry.2.IsPlain where
  built := (h.built.orderly.parts entry hmem).2
  handles := by
    have hall := h.handles
    rw [handles_map, List.flatMap_eq_nil_iff] at hall
    exact (List.append_eq_nil_iff.mp (hall entry hmem)).2
  big n hn := h.big n (.value hmem hn)
  apart inner hm := h.apart inner (.value hmem hm)

theorem of_leaf {v : Value} (h : v.isLeaf = true) (hhandles : v.handles = [])
    (hbig : ∀ n, v = bigInt n → ¬ FitsWord n) : v.IsPlain where
  built := .leaf h
  handles := hhandles
  big n hn := by
    cases hn with
    | whole => exact hbig n rfl
    | item | key | value => cases h
  apart m hm := by
    cases hm <;> cases h

theorem of_list {items : List Value} (h : ∀ item ∈ items, item.IsPlain) : (list items).IsPlain where
  built := .list fun item hmem => (h item hmem).built
  handles := by
    rw [handles_list, List.flatMap_eq_nil_iff]
    exact fun item hmem => (h item hmem).handles
  big n hn := by
    cases hn with
    | item hmem hn => exact (h _ hmem).big n hn
  apart m hm := by
    cases hm with
    | item hmem hm => exact (h _ hmem).apart m hm

theorem of_map {m : ValueMap} (hm : m.Built) (h : ∀ entry ∈ m.toList, entry.1.IsPlain ∧ entry.2.IsPlain)
    (hapart : m.KeysApart) : (map m).IsPlain where
  built := .map hm
  handles := by
    rw [handles_map, List.flatMap_eq_nil_iff]
    exact fun entry hmem => List.append_eq_nil_iff.mpr ⟨(h entry hmem).1.handles, (h entry hmem).2.handles⟩
  big n hn := by
    cases hn with
    | key hmem hn => exact (h _ hmem).1.big n hn
    | value hmem hn => exact (h _ hmem).2.big n hn
  apart inner hinner := by
    cases hinner with
    | whole => exact hapart
    | key hmem hm => exact (h _ hmem).1.apart inner hm
    | value hmem hm => exact (h _ hmem).2.apart inner hm

/-- The keys of a plain map are unlike each other. -/
theorem keys_unlike {m : ValueMap} (h : (map m).IsPlain) : m.toList.Pairwise fun a b => a.1.IsUnlike b.1 :=
  (h.built.orderly.distinct.and (h.apart m .whole)).imp fun hab => ⟨hab.1, hab.2⟩

end IsPlain

/-! ### Values alike -/

omit [KeyHasher] in
/-- Values of one shape with the same scalars and host objects in the same order: they differ at most in the tables by
which their maps find keys. -/
inductive Alike : Value → Value → Prop where
  | leaf {v : Value} (h : v.isLeaf = true) : Alike v v
  | list {items items' : List Value} (hlength : items.length = items'.length)
    (h : ∀ pair ∈ items.zip items', Alike pair.1 pair.2) : Alike (list items) (list items')
  | map {m m' : ValueMap} (hlength : m.toList.length = m'.toList.length)
    (hkeys : ∀ pair ∈ m.toList.zip m'.toList, Alike pair.1.1 pair.2.1)
    (hvalues : ∀ pair ∈ m.toList.zip m'.toList, Alike pair.1.2 pair.2.2) : Alike (map m) (map m')

omit [KeyHasher] in
theorem mem_of_mem_zip_self {α : Type} {l : List α} {pair : α × α} (h : pair ∈ l.zip l) :
    pair.1 ∈ l ∧ pair.2 = pair.1 := by
  rw [List.zip_eq_zipWith, List.zipWith_self] at h
  obtain ⟨a, ha, rfl⟩ := List.mem_map.mp h
  exact ⟨ha, rfl⟩

omit [KeyHasher] in
theorem Alike.refl (v : Value) : v.Alike v := by
  induction v using partsInduction with
  | list items ih =>
    refine .list rfl fun pair hpair => ?_
    obtain ⟨hmem, hsame⟩ := mem_of_mem_zip_self hpair
    rw [hsame]
    exact ih _ hmem
  | map m ih =>
    refine .map rfl (fun pair hpair => ?_) fun pair hpair => ?_
    all_goals
      obtain ⟨hmem, hsame⟩ := mem_of_mem_zip_self hpair
      rw [hsame]
    · exact (ih _ hmem).1
    · exact (ih _ hmem).2
  | _ => exact .leaf rfl

end Value
end ScriptHost
