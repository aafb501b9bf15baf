import Mathlib.Data.Set.Card
import ScriptHost.Handle.Counts

/-! Arithmetic of handle counts. Acquiring and giving back act on one identity only, and tables
without zero entries are equal as soon as they count alike. -/
namespace ScriptHost.Counts

/-- No identity is kept with the count zero. -/
def Positive (k : Counts) : Prop := ∀ id : Identity, k[id]? ≠ some 0

theorem positive_empty : Positive ∅ := by
  intro id
  simp

theorem count_eq (k : Counts) (id : Identity) : k.count id = k[id]?.getD 0 := rfl

private theorem count_insert (k : Counts) (id other : Identity) (n : Nat) :
    count (k.insert id n) other = if id = other then n else k.count other := by
  simp only [count_eq, Std.ExtTreeMap.getElem?_insert, Std.LawfulEqOrd.compare_eq_iff_eq]
  split <;> rfl

private theorem count_erase (k : Counts) (id other : Identity) :
    count (k.erase id) other = if id = other then 0 else k.count other := by
  simp only [count_eq, Std.ExtTreeMap.getElem?_erase, Std.LawfulEqOrd.compare_eq_iff_eq]
  split <;> rfl

private theorem positive_insert {k : Counts} (hk : k.Positive) (id : Identity) {n : Nat}
    (hn : n ≠ 0) : Positive (k.insert id n) := by
  intro other
  rw [Std.ExtTreeMap.getElem?_insert]
  split
  · exact fun h => hn (Option.some.inj h)
  · exact hk other

private theorem positive_erase {k : Counts} (hk : k.Positive) (id : Identity) :
    Positive (k.erase id) := by
  intro other
  rw [Std.ExtTreeMap.getElem?_erase]
  split
  · simp
  · exact hk other

/-! ### Without zero entries -/

/-- An identity is in the table as soon as it is counted. -/
theorem getElem?_eq_count {k : Counts} (hk : k.Positive) (id : Identity) :
    k[id]? = if k.count id = 0 then none else some (k.count id) := by
  have h := hk id
  rw [count_eq]
  cases hn : k[id]? with
  | none => simp
  | some n =>
    have h0 : n ≠ 0 := fun he => h (by rw [hn, he])
    simp [h0]

theorem mem_iff_count {k : Counts} (hk : k.Positive) (id : Identity) : id ∈ k ↔ k.count id ≠ 0 := by
  rw [Std.ExtTreeMap.mem_iff_isSome_getElem?, getElem?_eq_count hk]
  split <;> simp_all

theorem ext_of_count {k l : Counts} (hk : k.Positive) (hl : l.Positive)
    (h : ∀ id, k.count id = l.count id) : k = l := by
  apply Std.ExtTreeMap.ext_getElem?
  intro id
  rw [getElem?_eq_count hk, getElem?_eq_count hl, h id]

theorem finite_counted {k : Counts} (hk : k.Positive) : {id | k.count id ≠ 0}.Finite := by
  have hkeys : {id | k.count id ≠ 0} = {id | id ∈ k.keys} := by
    ext id
    rw [Set.mem_ofPred_eq, Set.mem_ofPred_eq, Std.ExtTreeMap.mem_keys, mem_iff_count hk]
  rw [hkeys]
  exact List.finite_toSet k.keys

/-- The number of live identities is the number of those that are counted. -/
theorem live_eq_card {k : Counts} (hk : k.Positive) : k.live = Set.ncard {id | k.count id ≠ 0} := by
  have hd : k.keys.Nodup := by
    refine k.distinct_keys.imp ?_
    rintro a b h rfl
    simp at h
  have hs : {id | k.count id ≠ 0} = (k.keys.toFinset : Set Identity) := by
    ext id
    simp [← mem_iff_count hk]
  rw [hs, Set.ncard_coe_finset, List.toFinset_card_of_nodup hd, Std.ExtTreeMap.length_keys, live]

/-! ### One handle more -/

theorem count_acquire (k : Counts) (id other : Identity) :
    (k.acquire id).count other = k.count other + [id].count other := by
  rw [acquire, count_insert, List.count_singleton]
  by_cases h : id = other
  · simp [h]
  · simp [h]

theorem positive_acquire {k : Counts} (hk : k.Positive) (id : Identity) : (k.acquire id).Positive :=
  positive_insert hk id (by omega)

/-! ### One handle less -/

theorem release_eq {k : Counts} (hk : k.Positive) (id : Identity) :
    k.release id = if k.count id = 0 then (.unknown, k)
      else if k.count id = 1 then (.destroyed, k.erase id)
      else (.decremented (k.count id - 1), k.insert id (k.count id - 1)) := by
  unfold release
  rw [Std.ExtTreeMap.get?_eq_getElem?, getElem?_eq_count hk]
  by_cases h0 : k.count id = 0
  · simp [h0]
  · by_cases h1 : k.count id = 1
    · simp [h1]
    · have h2 : 1 < k.count id := by omega
      simp [h0, h1, h2]

theorem count_release (k : Counts) (id other : Identity) :
    (k.release id).2.count other = k.count other - [id].count other := by
  have hcount := count_eq k id
  rw [List.count_singleton]
  unfold release
  rw [Std.ExtTreeMap.get?_eq_getElem?]
  cases hn : k[id]? with
  | none =>
    by_cases h : id = other
    · subst h
      simp [hcount, hn]
    · simp [h]
  | some n =>
    rw [hn, Option.getD_some] at hcount
    by_cases h : id = other
    · subst h
      by_cases h1 : 1 < n
      · simp [h1, count_insert, hcount]
      · simp only [h1, if_false, count_erase, if_true, hcount, BEq.rfl]
        omega
    · by_cases h1 : 1 < n
      · simp [h1, count_insert, h]
      · simp [h1, count_erase, h]

/-- The last handle of an object is destroyed. -/
theorem release_of_one {k : Counts} {id : Identity} (h : k.count id = 1) : (k.release id).1 = .destroyed := by
  rw [count_eq] at h
  unfold release
  rw [Std.ExtTreeMap.get?_eq_getElem?]
  cases hn : k[id]? with
  | none => rw [hn] at h; cases h
  | some n =>
    rw [hn, Option.getD_some] at h
    subst h
    rfl

theorem release_eq_destroyed_iff {k : Counts} (hk : k.Positive) (id : Identity) :
    (k.release id).1 = .destroyed ↔ k.count id = 1 := by
  refine ⟨fun h => ?_, release_of_one⟩
  rw [release_eq hk] at h
  grind

theorem release_eq_unknown_iff {k : Counts} (hk : k.Positive) (id : Identity) :
    (k.release id).1 = .unknown ↔ k.count id = 0 := by
  rw [release_eq hk]
  grind

/-- No count becomes zero but that of the last handle. -/
theorem count_release_eq_zero_iff (k : Counts) (id other : Identity) :
    (k.release id).2.count other = 0 ↔ k.count other = 0 ∨ id = other ∧ k.count id = 1 := by
  rw [count_release, List.count_singleton]
  by_cases h : id = other
  · subst h
    rw [if_pos BEq.rfl, Nat.sub_eq_zero_iff_le, and_iff_right rfl]
    omega
  · simp [h]

theorem positive_release {k : Counts} (hk : k.Positive) (id : Identity) :
    (k.release id).2.Positive := by
  rw [release_eq hk]
  split
  · exact hk
  · split
    · exact positive_erase hk id
    · exact positive_insert hk id (by omega)

/-- The last handle of an object is what makes one live identity less. -/
theorem live_release {k : Counts} (hk : k.Positive) (id : Identity) :
    (k.release id).2.live + (if (k.release id).1 = .destroyed then 1 else 0) = k.live := by
  rw [release_eq hk]
  by_cases h0 : k.count id = 0
  · simp [h0]
  · have hthere : k.contains id = true := (mem_iff_count hk id).mpr h0
    rw [if_neg h0]
    by_cases h1 : k.count id = 1
    · have hsize : k.size ≠ 0 := by
        intro hsize
        obtain rfl : k = ∅ := Std.ExtTreeMap.eq_empty_iff_size_eq_zero.mpr hsize
        exact h0 rfl
      rw [if_pos h1, if_pos rfl, live, live, Std.ExtTreeMap.size_erase, if_pos hthere]
      omega
    · rw [if_neg h1, if_neg Release.noConfusion, live, live, Std.ExtTreeMap.size_insert, if_pos hthere]
      rfl

end ScriptHost.Counts
