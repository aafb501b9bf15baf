import Mathlib.Data.Fintype.EquivFin
import ScriptHost.Proofs.Value.Association
import ScriptHost.Value.Depth

/-! Values whose maps come from the operations of maps. Equality is symmetric and transitive on them, and
equality of a value to itself fails for NaN only. -/
namespace ScriptHost

/-- Whether a value is neither a list nor a map. -/
def Value.isLeaf : Value → Bool
  | .list _ | .map _ => false
  | _ => true

mutual
/-- The values all maps of which were built through the operations of maps. -/
inductive Value.Built [KeyHasher] : Value → Prop where
  | leaf {v : Value} (h : v.isLeaf = true) : Value.Built v
  | list {items : List Value} (h : ∀ item ∈ items, Value.Built item) : Value.Built (.list items)
  | map {m : ValueMap} (h : ValueMap.Built m) : Value.Built (.map m)
/-- The maps built through the operations of maps, of keys and values built in this way. -/
inductive ValueMap.Built [KeyHasher] : ValueMap → Prop where
  | empty : ValueMap.Built .empty
  | withCapacity (capacity : Nat) : ValueMap.Built (Keyed.withCapacity capacity)
  | insert {m : ValueMap} {key value : Value} (hm : ValueMap.Built m) (hkey : Value.Built key)
      (hvalue : Value.Built value) : ValueMap.Built (m.insert key value).2
end

/-! ### What insertions keep -/

namespace Association
variable [KeyHasher]

theorem keys_insert (entries : Association) (key value : Value) :
    (entries.insert key value).2.map (·.1) =
      if entries.any (·.1 == key) then entries.map (·.1) else entries.map (·.1) ++ [key] := by
  induction entries with
  | nil => rfl
  | cons entry rest ih =>
    cases hkey : entry.1 == key with
    | true => simp [insert, hkey]
    | false =>
      simp only [insert, hkey, Bool.false_eq_true, if_false, List.map_cons, ih, List.any_cons, Bool.false_or]
      split <;> rfl

theorem areDistinct_iff (entries : Association) :
    Value.AreDistinct entries ↔ (entries.map (·.1)).Pairwise fun a b => (a == b) = false := by
  rw [Value.AreDistinct, List.pairwise_map]

theorem areDistinct_insert {entries : Association} (h : Value.AreDistinct entries) (key value : Value) :
    Value.AreDistinct (entries.insert key value).2 := by
  have hkeys := (areDistinct_iff entries).mp h
  rw [areDistinct_iff, keys_insert]
  split
  · exact hkeys
  · next hnew =>
    refine List.pairwise_append.mpr ⟨hkeys, List.pairwise_singleton _ key, fun stored hstored last hlast => ?_⟩
    obtain ⟨entry, hentry, rfl⟩ := List.mem_map.mp hstored
    rw [List.mem_singleton.mp hlast, ← Bool.not_eq_true]
    exact fun hsame => hnew (List.any_eq_true.mpr ⟨entry, hentry, hsame⟩)

theorem forall_insert {P : Value → Prop} {entries : Association} {key value : Value}
    (h : ∀ entry ∈ entries, P entry.1 ∧ P entry.2) (hkey : P key) (hvalue : P value) :
    ∀ entry ∈ (entries.insert key value).2, P entry.1 ∧ P entry.2 := by
  induction entries with
  | nil => simpa [insert] using ⟨hkey, hvalue⟩
  | cons first rest ih =>
    obtain ⟨hfirst, hrest⟩ := List.forall_mem_cons.mp h
    rw [insert]
    split
    · exact List.forall_mem_cons.mpr ⟨⟨hfirst.1, hvalue⟩, hrest⟩
    · exact List.forall_mem_cons.mpr ⟨hfirst, ih hrest⟩

end Association

/-- What holds of every map that was built. -/
structure ValueMap.Orderly [KeyHasher] (m : ValueMap) : Prop where
  filed : m.Filed Value.keyHash
  distinct : Value.AreDistinct m.toList
  parts : ∀ entry ∈ m.toList, entry.1.Built ∧ entry.2.Built

theorem ValueMap.Built.orderly [KeyHasher] : ∀ {m : ValueMap}, m.Built → m.Orderly
  | _, .empty => ⟨Keyed.filed_empty _, .nil, by rintro _ ⟨⟩⟩
  | _, .withCapacity _ => ⟨Keyed.filed_withCapacity _ _, .nil, by rintro _ ⟨⟩⟩
  | _, @ValueMap.Built.insert _ m key value hm hkey hvalue => by
    have horderly := hm.orderly
    have htoList : (m.insert key value).2.toList = (Association.insert m.toList key value).2 :=
      congrArg Prod.snd (insert_eq horderly.filed key value)
    refine ⟨filed_insert horderly.filed key value, ?_, ?_⟩
    · rw [htoList]
      exact Association.areDistinct_insert horderly.distinct key value
    · rw [htoList]
      exact Association.forall_insert horderly.parts hkey hvalue

namespace Double

theorem equals_symm {x y : Double} (h : x.equals y = true) : y.equals x = true := by
  simp only [equals, Bool.and_eq_true, Bool.or_eq_true, beq_iff_eq] at h ⊢
  tauto

theorem equals_trans {x y z : Double} (h : x.equals y = true) (h' : y.equals z = true) : x.equals z = true := by
  obtain ⟨x⟩ := x
  obtain ⟨y⟩ := y
  obtain ⟨z⟩ := z
  simp only [equals, Bool.and_eq_true, Bool.or_eq_true, beq_iff_eq] at h h' ⊢
  refine ⟨⟨h.1.1, h'.1.2⟩, ?_⟩
  rcases h.2 with rfl | hzero
  · exact h'.2
  · rcases h'.2 with rfl | hzero'
    · exact .inr hzero
    · exact .inr ⟨hzero.1, hzero'.2⟩

theorem equals_self_iff (x : Double) : x.equals x = true ↔ x.isNaN = false := by
  simp [equals]

end Double

theorem ValueMap.Built.ofList [KeyHasher] {pairs : List (Value × Value)}
    (h : ∀ pair ∈ pairs, pair.1.Built ∧ pair.2.Built) : (ValueMap.ofList pairs).Built := by
  suffices hfrom : ∀ m : ValueMap, m.Built →
      ValueMap.Built (pairs.foldl (fun (m : ValueMap) pair => (m.insert pair.1 pair.2).2) m) from hfrom {} .empty
  induction pairs with
  | nil => exact fun _ hm => hm
  | cons pair pairs ih =>
    obtain ⟨hpair, hpairs⟩ := List.forall_mem_cons.mp h
    exact fun m hm => ih hpairs _ (.insert hm hpair.1 hpair.2)

/-! ### Symmetry and transitivity -/

namespace Value

theorem depth_pos (v : Value) : 0 < v.depth := by
  cases v <;> exact Nat.succ_pos _

theorem depth_item_lt {items : List Value} {item : Value} (h : item ∈ items) :
    item.depth < (list items).depth := by
  suffices hle : item.depth ≤ itemsDepth items from Nat.lt_succ_of_le hle
  induction h with
  | head rest => exact le_max_left _ _
  | tail first _ ih => exact ih.trans (le_max_right _ _)

theorem depth_entry_lt {m : ValueMap} {entry : Value × Value} (h : entry ∈ m.toList) :
    entry.1.depth < (map m).depth ∧ entry.2.depth < (map m).depth := by
  obtain ⟨⟨entries⟩, index, unhashed⟩ := m
  obtain ⟨key, value⟩ := entry
  change (key, value) ∈ entries at h
  suffices hle : max key.depth value.depth ≤ entriesDepth entries by
    exact ⟨Nat.lt_succ_of_le (le_of_max_le_left hle), Nat.lt_succ_of_le (le_of_max_le_right hle)⟩
  induction h with
  | head rest => exact le_max_left _ _
  | tail first _ ih => exact ih.trans (le_max_right _ _)

variable [KeyHasher]

/-- Equality is symmetric and transitive among some values. -/
structure EquatesWell (S : Value → Prop) : Prop where
  symm : ∀ {a b}, S a → S b → (a == b) = true → (b == a) = true
  trans : ∀ {a b c}, S a → S b → S c → (a == b) = true → (b == c) = true → (a == c) = true

/-- Whether every one of some entries has an equal one among others. -/
def Covers (other entries : Association) : Prop :=
  ∀ entry ∈ entries, ∃ found ∈ other, (found.1 == entry.1) = true ∧ (found.2 == entry.2) = true

namespace EquatesWell
variable {S : Value → Prop} (hS : EquatesWell S) {entries other : Association}
include hS

/-- Entries under different keys stand at one place if their keys are equal. -/
theorem index_eq (hd : AreDistinct entries) (hentries : ∀ entry ∈ entries, S entry.1)
    {i j : Nat} {hi : i < entries.length} {hj : j < entries.length}
    (h : (entries[i].1 == entries[j].1) = true) : i = j := by
  have happart := List.pairwise_iff_getElem.mp hd
  rcases Nat.lt_trichotomy i j with hlt | heq | hgt
  · rw [happart i j hi hj hlt] at h
    cases h
  · exact heq
  · have hturned := hS.symm (hentries _ (List.getElem_mem hi)) (hentries _ (List.getElem_mem hj)) h
    rw [happart j i hj hi hgt] at hturned
    cases hturned

/-- The entry with an equal key is the only one, so it is the one that a search finds. -/
theorem find?_eq_some_iff (hd : AreDistinct entries) (hentries : ∀ entry ∈ entries, S entry.1) {key : Value}
    (hkey : S key) (entry : Value × Value) :
    entries.find? (·.1 == key) = some entry ↔ entry ∈ entries ∧ (entry.1 == key) = true := by
  constructor
  · intro h
    have hsame := List.find?_some h
    exact ⟨List.mem_of_find?_eq_some h, hsame⟩
  · rintro ⟨hentry, hsame⟩
    obtain ⟨first, hfind⟩ : ∃ first, entries.find? (·.1 == key) = some first :=
      Option.isSome_iff_exists.mp (List.find?_isSome.mpr ⟨entry, hentry, hsame⟩)
    have hfirst := List.mem_of_find?_eq_some hfind
    have hfirstKey := List.find?_some hfind
    have hturned := hS.symm (hentries entry hentry) hkey hsame
    have hkeys : (first.1 == entry.1) = true :=
      hS.trans (hentries first hfirst) hkey (hentries entry hentry) hfirstKey hturned
    obtain ⟨i, hi, rfl⟩ := List.getElem_of_mem hfirst
    obtain ⟨j, hj, rfl⟩ := List.getElem_of_mem hentry
    obtain rfl := hS.index_eq hd hentries hkeys
    exact hfind

/-- A map covers entries if each of them has an equal one in it. -/
theorem covers_iff {m : ValueMap} (hm : m.Orderly) (hparts : ∀ entry ∈ m.toList, S entry.1 ∧ S entry.2)
    (hentries : ∀ entry ∈ entries, S entry.1 ∧ S entry.2) :
    m.covers entries keyHash (· == ·) = true ↔ Covers m.toList entries := by
  rw [Keyed.covers, List.all_eq_true]
  refine forall₂_congr fun entry hentry => ?_
  have hfound (found : Value × Value) := hS.find?_eq_some_iff hm.distinct
    (fun stored hstored => (hparts stored hstored).1) (hentries entry hentry).1 found
  simp only [ValueMap.find?_eq hm.filed, ← and_assoc, ← hfound]
  cases m.toList.find? (·.1 == entry.1) <;> simp

/-- Among equally many entries under different keys, covering is mutual: the choice of an equal entry is
injective, and so it meets every entry. -/
theorem covers_symm (hlength : entries.length = other.length) (hd : AreDistinct entries)
    (hentries : ∀ entry ∈ entries, S entry.1 ∧ S entry.2) (hother : ∀ entry ∈ other, S entry.1 ∧ S entry.2)
    (h : Covers other entries) : Covers entries other := by
  have hchoice (i : Fin entries.length) : ∃ j : Fin entries.length,
      (other[j].1 == entries[i].1) = true ∧ (other[j].2 == entries[i].2) = true := by
    obtain ⟨found, hfound, hsame⟩ := h entries[i] (List.getElem_mem i.isLt)
    obtain ⟨j, hj, rfl⟩ := List.getElem_of_mem hfound
    exact ⟨⟨j, hlength ▸ hj⟩, hsame⟩
  choose partner hpartner using hchoice
  have hinjective : Function.Injective partner := by
    intro i j hij
    have hi := hentries entries[i] (List.getElem_mem i.isLt)
    have hj := hentries entries[j] (List.getElem_mem j.isLt)
    have hk := hother other[partner i] (List.getElem_mem _)
    have hfirst := hS.symm hk.1 hi.1 (hpartner i).1
    have hsecond := (hpartner j).1
    rw [← hij] at hsecond
    exact Fin.ext (hS.index_eq hd (fun entry hentry => (hentries entry hentry).1)
      (hS.trans hi.1 hk.1 hj.1 hfirst hsecond))
  intro found hfound
  obtain ⟨j, hj, rfl⟩ := List.getElem_of_mem hfound
  obtain ⟨i, hi⟩ := Finite.surjective_of_injective hinjective ⟨j, hlength ▸ hj⟩
  have hsame := hpartner i
  rw [hi] at hsame
  have hi := hentries entries[i] (List.getElem_mem i.isLt)
  have hj := hother other[j] (List.getElem_mem _)
  exact ⟨entries[i], List.getElem_mem i.isLt, hS.symm hj.1 hi.1 hsame.1, hS.symm hj.2 hi.2 hsame.2⟩

theorem items_symm {as bs : List Value} (h : List.Forall₂ (fun a b => (a == b) = true) as bs)
    (has : ∀ a ∈ as, S a) (hbs : ∀ b ∈ bs, S b) : List.Forall₂ (fun a b => (a == b) = true) bs as := by
  induction h with
  | nil => exact .nil
  | cons hab _ ih =>
    obtain ⟨ha, has⟩ := List.forall_mem_cons.mp has
    obtain ⟨hb, hbs⟩ := List.forall_mem_cons.mp hbs
    exact .cons (hS.symm ha hb hab) (ih has hbs)

theorem items_trans {as bs cs : List Value} (h : List.Forall₂ (fun a b => (a == b) = true) as bs)
    (h' : List.Forall₂ (fun a b => (a == b) = true) bs cs)
    (has : ∀ a ∈ as, S a) (hbs : ∀ b ∈ bs, S b) (hcs : ∀ c ∈ cs, S c) :
    List.Forall₂ (fun a b => (a == b) = true) as cs := by
  induction h generalizing cs with
  | nil => exact h'
  | cons hab _ ih =>
    cases h' with
    | cons hbc h' =>
      obtain ⟨ha, has⟩ := List.forall_mem_cons.mp has
      obtain ⟨hb, hbs⟩ := List.forall_mem_cons.mp hbs
      obtain ⟨hc, hcs⟩ := List.forall_mem_cons.mp hcs
      exact .cons (hS.trans ha hb hc hab hbc) (ih h' has hbs hcs)

end EquatesWell

/-- Whether the parts of a value are among some values, those of a map in order. -/
def PartsIn (S : Value → Prop) : Value → Prop
  | .list items => ∀ item ∈ items, S item
  | .map m => ValueMap.Orderly m ∧ ∀ entry ∈ m.toList, S entry.1 ∧ S entry.2
  | _ => True

/-- Equality is symmetric and transitive among values if it is so among their parts. -/
theorem EquatesWell.of_parts {S : Value → Prop} (hS : EquatesWell S) : EquatesWell (PartsIn S) where
  symm {a b} ha hb h := by
    rw [beq_iff] at h ⊢
    cases h with
    | atom h => exact .atom h
    | float h => exact .float (Double.equals_symm h)
    | list h => exact .list (hS.items_symm h ha hb)
    | map hsize h =>
      refine .map hsize.symm ((hS.covers_iff ha.1 ha.2 hb.2).mpr ?_)
      exact hS.covers_symm hsize ha.1.distinct ha.2 hb.2 ((hS.covers_iff hb.1 hb.2 ha.2).mp h)
    | host h => exact .host h.symm
  trans {a b c} ha hb hc h h' := by
    rw [beq_iff] at h h' ⊢
    cases h with
    | atom _ => exact h'
    | float h =>
      cases h' with
      | atom h' => cases h'
      | float h' => exact .float (Double.equals_trans h h')
    | list h =>
      cases h' with
      | atom h' => cases h'
      | list h' => exact .list (hS.items_trans h h' ha hb hc)
    | map hsize h =>
      cases h' with
      | atom h' => cases h'
      | map hsize' h' =>
        refine .map (hsize.trans hsize') ((hS.covers_iff hc.1 hc.2 ha.2).mpr fun entry hentry => ?_)
        obtain ⟨middle, hmiddle, hkey, hvalue⟩ := (hS.covers_iff hb.1 hb.2 ha.2).mp h entry hentry
        obtain ⟨found, hfound, hkey', hvalue'⟩ := (hS.covers_iff hc.1 hc.2 hb.2).mp h' middle hmiddle
        have hfirst := ha.2 entry hentry
        have hsecond := hb.2 middle hmiddle
        have hthird := hc.2 found hfound
        exact ⟨found, hfound, hS.trans hthird.1 hsecond.1 hfirst.1 hkey' hkey,
          hS.trans hthird.2 hsecond.2 hfirst.2 hvalue' hvalue⟩
    | host h =>
      cases h' with
      | atom h' => cases h'
      | host h' => exact .host (h.trans h')

theorem Built.items {items : List Value} (h : (Value.list items).Built) : ∀ item ∈ items, item.Built := by
  cases h with
  | leaf h => cases h
  | list h => exact h

theorem Built.orderly {m : ValueMap} (h : (Value.map m).Built) : m.Orderly := by
  cases h with
  | leaf h => cases h
  | map h => exact h.orderly

private theorem equatesWell_within (depth : Nat) : EquatesWell fun v => v.Built ∧ v.depth ≤ depth := by
  induction depth with
  | zero => exact ⟨fun h => absurd h.2 (depth_pos _).not_ge, fun h => absurd h.2 (depth_pos _).not_ge⟩
  | succ depth ih =>
    have hparts : ∀ v : Value, v.Built ∧ v.depth ≤ depth + 1 → PartsIn (fun v => v.Built ∧ v.depth ≤ depth) v := by
      rintro v ⟨hbuilt, hdepth⟩
      cases v with
      | list items => exact fun item hitem =>
          ⟨hbuilt.items item hitem, Nat.le_of_lt_succ ((depth_item_lt hitem).trans_le hdepth)⟩
      | map m =>
        refine ⟨hbuilt.orderly, fun entry hentry => ?_⟩
        obtain ⟨hkey, hvalue⟩ := depth_entry_lt hentry
        obtain ⟨hkeyBuilt, hvalueBuilt⟩ := hbuilt.orderly.parts entry hentry
        exact ⟨⟨hkeyBuilt, Nat.le_of_lt_succ (hkey.trans_le hdepth)⟩,
          ⟨hvalueBuilt, Nat.le_of_lt_succ (hvalue.trans_le hdepth)⟩⟩
      | _ => trivial
    exact ⟨fun ha hb => ih.of_parts.symm (hparts _ ha) (hparts _ hb),
      fun ha hb hc => ih.of_parts.trans (hparts _ ha) (hparts _ hb) (hparts _ hc)⟩

/-- Equality is symmetric and transitive among the values whose maps were built. -/
theorem equatesWell_built : EquatesWell Value.Built where
  symm {a b} ha hb := (equatesWell_within (max a.depth b.depth)).symm ⟨ha, le_max_left _ _⟩ ⟨hb, le_max_right _ _⟩
  trans {a b c} ha hb hc := (equatesWell_within (max a.depth (max b.depth c.depth))).trans
    ⟨ha, le_max_left _ _⟩ ⟨hb, by omega⟩ ⟨hc, by omega⟩

/-! ### NaN -/

/-- Whether NaN occurs in a value: as the value itself, as an item, or in a key or a value of a map. -/
inductive HasNaN : Value → Prop where
  | float {x : Double} (h : x.isNaN = true) : HasNaN (.float x)
  | item {items : List Value} {item : Value} (hmem : item ∈ items) (h : HasNaN item) : HasNaN (.list items)
  | key {m : ValueMap} {entry : Value × Value} (hmem : entry ∈ m.toList) (h : HasNaN entry.1) : HasNaN (.map m)
  | value {m : ValueMap} {entry : Value × Value} (hmem : entry ∈ m.toList) (h : HasNaN entry.2) : HasNaN (.map m)

theorem beq_self_list_iff (items : List Value) :
    (list items == list items) = true ↔ ∀ item ∈ items, (item == item) = true := by
  rw [beq_list_iff, List.forall₂_same]

theorem beq_self_map_iff {m : ValueMap} (hm : m.Orderly) : (map m == map m) = true ↔
    ∀ entry ∈ m.toList, (entry.1 == entry.1) = true ∧ (entry.2 == entry.2) = true := by
  have hcovers : (map m == map m) = true ↔ Covers m.toList m.toList := by
    rw [beq_map, beq_self_eq_true, Bool.true_and, equatesWell_built.covers_iff hm hm.parts hm.parts]
  rw [hcovers]
  refine ⟨fun h entry hentry => ?_, fun h entry hentry => ⟨entry, hentry, h entry hentry⟩⟩
  obtain ⟨found, hfound, hkey, hvalue⟩ := h entry hentry
  have hother := hm.parts found hfound
  have hown := hm.parts entry hentry
  exact ⟨equatesWell_built.trans hown.1 hother.1 hown.1 (equatesWell_built.symm hother.1 hown.1 hkey) hkey,
    equatesWell_built.trans hown.2 hother.2 hown.2 (equatesWell_built.symm hother.2 hown.2 hvalue) hvalue⟩

/-- A value equals itself exactly if NaN occurs nowhere in it. -/
theorem beq_self_iff (a : Value) : a.Built → ((a == a) = true ↔ ¬ a.HasNaN) := by
  induction a using partsInduction with
  | float x =>
    intro _
    have hnan : (float x).HasNaN ↔ x.isNaN = true := ⟨fun | .float h => h, .float⟩
    rw [hnan, Bool.not_eq_true, ← Double.equals_self_iff]
    rfl
  | list items ih =>
    intro hbuilt
    rw [beq_self_list_iff]
    constructor
    · rintro h (_ | ⟨hitem, hnan⟩)
      exact (ih _ hitem (hbuilt.items _ hitem)).mp (h _ hitem) hnan
    · exact fun h item hitem => (ih item hitem (hbuilt.items item hitem)).mpr fun hnan => h (.item hitem hnan)
  | map m ih =>
    intro hbuilt
    have hparts := hbuilt.orderly.parts
    rw [beq_self_map_iff hbuilt.orderly]
    constructor
    · rintro h (_ | _ | ⟨hentry, hnan⟩ | ⟨hentry, hnan⟩)
      · exact ((ih _ hentry).1 (hparts _ hentry).1).mp (h _ hentry).1 hnan
      · exact ((ih _ hentry).2 (hparts _ hentry).2).mp (h _ hentry).2 hnan
    · refine fun h entry hentry => ⟨((ih entry hentry).1 (hparts entry hentry).1).mpr fun hnan => ?_,
        ((ih entry hentry).2 (hparts entry hentry).2).mpr fun hnan => ?_⟩
      · exact h (.key hentry hnan)
      · exact h (.value hentry hnan)
  | host o => exact fun _ => ⟨fun _ h => (nomatch h), fun _ => (beq_iff _ _).mpr (.host rfl)⟩
  | _ => exact fun _ => ⟨fun _ h => (nomatch h), fun _ => (beq_iff _ _).mpr (.atom rfl)⟩

/-- Equality is a partial equivalence, whatever numbers the hasher yields, and a value equals itself exactly if
NaN occurs nowhere in it. -/
theorem beq_partialEquivalence {a b c : Value} (ha : a.Built) (hb : b.Built) (hc : c.Built) :
    ((a == b) = true → (b == a) = true) ∧
      ((a == b) = true → (b == c) = true → (a == c) = true) ∧
      ((a == a) = true ↔ ¬ a.HasNaN) :=
  ⟨equatesWell_built.symm ha hb, equatesWell_built.trans ha hb hc, beq_self_iff a ha⟩

omit [KeyHasher] in
/-- Two maps with the same entries in different orders, one of them under either zero, where all keys collide. -/
theorem beq_symm_of_collisions :
    let _ : KeyHasher := ⟨fun _ => 0⟩
    let left := ValueMap.ofList [(.list [.int 1], .null), (.float .zero, .bool true)]
    let right := ValueMap.ofList [(.float (.negate .zero), .bool true), (.list [.int 1], .null)]
    (map left == map right) = true ∧ (map right == map left) = true ∧ (map left == map left) = true := by
  intro _ left right
  have hleaf (v : Value) (h : v.isLeaf = true := by rfl) : v.Built := .leaf h
  have hkey : (list [.int 1]).Built := .list (by simpa using hleaf (.int 1))
  have hleft : (map left).Built := .map (.ofList (by simpa using ⟨⟨hkey, hleaf .null⟩, hleaf _, hleaf _⟩))
  have hright : (map right).Built := .map (.ofList (by simpa using ⟨⟨hleaf _, hleaf _⟩, hkey, hleaf .null⟩))
  have heq : (map left == map right) = true := by decide +kernel
  have hequivalence := beq_partialEquivalence hleft hright hleft
  have hturned := hequivalence.1 heq
  exact ⟨heq, hturned, hequivalence.2.1 heq hturned⟩

end Value

end ScriptHost
