import ScriptHost.Proofs.Value.Built

/-! What order means for maps: collecting pairs keeps the place of the first pair with a key and the value of the last.
Equality does not see places at all: two maps are equal if their entries can be matched. -/
namespace ScriptHost

/-- Whether two entries have equal keys and equal values. -/
def Value.AreEqualEntries [KeyHasher] (entry other : Value × Value) : Prop :=
  (entry.1 == other.1) = true ∧ (entry.2 == other.2) = true

namespace Association
variable [KeyHasher] {S : Value → Prop} {entries pairs : Association} {key value : Value}

/-- The pairs that have no pair with an equal key before them. -/
def firsts : Association → Association
  | [] => []
  | pair :: rest => pair :: (firsts rest).filter fun other => !(pair.1 == other.1)

/-- The value of the last pair with an equal key. -/
def lastValue? (pairs : Association) (key : Value) : Option Value :=
  (pairs.reverse.find? (·.1 == key)).map (·.2)

theorem lastValue?_append_singleton (pairs : Association) (pair : Value × Value) (key : Value) :
    lastValue? (pairs ++ [pair]) key = if pair.1 == key then some pair.2 else lastValue? pairs key := by
  rw [lastValue?, List.reverse_append, List.reverse_singleton, List.singleton_append, List.find?_cons]
  cases pair.1 == key <;> rfl

theorem lastValue?_eq_none (h : ∀ pair ∈ pairs, (pair.1 == key) = false) : lastValue? pairs key = none := by
  rw [lastValue?, Option.map_eq_none_iff, List.find?_eq_none]
  intro pair hpair
  rw [h pair (List.mem_reverse.mp hpair)]
  exact Bool.false_ne_true

theorem firsts_append_singleton (pairs : Association) (pair : Value × Value) :
    firsts (pairs ++ [pair]) = if pairs.any (·.1 == pair.1) then firsts pairs else firsts pairs ++ [pair] := by
  induction pairs with
  | nil => rfl
  | cons first rest ih =>
    rw [List.cons_append, firsts, firsts, ih, List.any_cons]
    cases hfirst : first.1 == pair.1 with
    | true =>
      rw [Bool.true_or, if_pos rfl]
      split
      · rfl
      · rw [List.filter_append, List.filter_cons_of_neg (by simp [hfirst]), List.filter_nil, List.append_nil]
    | false =>
      rw [Bool.false_or]
      split
      · rfl
      · rw [List.filter_append, List.filter_cons_of_pos (by simp [hfirst]), List.filter_nil, List.cons_append]

theorem mem_of_firsts {pair : Value × Value} (h : pair ∈ firsts pairs) : pair ∈ pairs := by
  induction pairs with
  | nil => exact h
  | cons first rest ih =>
    rw [firsts, List.mem_cons] at h
    rcases h with rfl | h
    · exact List.mem_cons_self
    · exact List.mem_cons_of_mem _ (ih (List.mem_of_mem_filter h))

/-- A key that some pair has is the key of a first pair. -/
theorem exists_firsts (hS : Value.EquatesWell S) (hpairs : ∀ pair ∈ pairs, S pair.1) (hkey : S key) :
    (∃ pair ∈ firsts pairs, (pair.1 == key) = true) ↔ ∃ pair ∈ pairs, (pair.1 == key) = true := by
  constructor
  · rintro ⟨pair, hpair, hsame⟩
    exact ⟨pair, mem_of_firsts hpair, hsame⟩
  · rintro ⟨pair, hpair, hsame⟩
    induction pairs with
    | nil => cases hpair
    | cons first rest ih =>
      obtain ⟨hfirst, hrest⟩ := List.forall_mem_cons.mp hpairs
      rw [firsts]
      by_cases hfirstSame : (first.1 == key) = true
      · exact ⟨first, List.mem_cons_self, hfirstSame⟩
      · rcases List.mem_cons.mp hpair with rfl | hpair
        · exact absurd hsame hfirstSame
        · obtain ⟨found, hfound, hfoundSame⟩ := ih hrest hpair
          refine ⟨found, List.mem_cons_of_mem _ (List.mem_filter.mpr ⟨hfound, ?_⟩), hfoundSame⟩
          -- a first pair with the key of `first` would give `first` the key as well
          rw [Bool.not_eq_true', ← Bool.not_eq_true]
          intro hequal
          exact hfirstSame (hS.trans hfirst (hrest found (mem_of_firsts hfound)) hkey hequal hfoundSame)

/-- An insertion under a key that is there changes the value of that key, and of no other. -/
theorem insert_eq_map (hS : Value.EquatesWell S) (hd : Value.AreDistinct entries) (hentries : ∀ entry ∈ entries, S entry.1)
    (hkey : S key) (h : ∃ entry ∈ entries, (entry.1 == key) = true) :
    (entries.insert key value).2 = entries.map fun entry => if entry.1 == key then (entry.1, value) else entry := by
  induction entries with
  | nil => obtain ⟨entry, hentry, -⟩ := h; cases hentry
  | cons first rest ih =>
    obtain ⟨hfirst, hrest⟩ := List.forall_mem_cons.mp hentries
    obtain ⟨hapart, hd⟩ := List.pairwise_cons.mp hd
    rw [insert, List.map_cons]
    by_cases hsame : (first.1 == key) = true
    · have hstay (entry : Value × Value) (hentry : entry ∈ rest) : (entry.1 == key) = false := by
        rw [← Bool.not_eq_true]
        intro hequal
        have := hS.trans hfirst hkey (hrest entry hentry) hsame (hS.symm (hrest entry hentry) hkey hequal)
        rw [hapart entry hentry] at this
        cases this
      have hrestStay : (rest.map fun entry => if entry.1 == key then (entry.1, value) else entry) = rest := by
        conv_rhs => rw [← List.map_id rest]
        apply List.map_congr_left
        intro entry hentry
        rw [hstay entry hentry]
        rfl
      rw [if_pos hsame, if_pos hsame, hrestStay]
    · obtain ⟨entry, hentry, hequal⟩ := h
      rcases List.mem_cons.mp hentry with rfl | hentry
      · exact absurd hequal hsame
      · rw [if_neg hsame, if_neg hsame, ← ih hd hrest ⟨entry, hentry, hequal⟩]

theorem insert_eq_append (h : ¬ ∃ entry ∈ entries, (entry.1 == key) = true) :
    (entries.insert key value).2 = entries ++ [(key, value)] := by
  rw [insert_of_absent]
  rw [List.findIdx?_eq_none_iff]
  intro entry hentry
  rw [← Bool.not_eq_true]
  exact fun hsame => h ⟨entry, hentry, hsame⟩

theorem areDistinct_firsts (pairs : Association) : Value.AreDistinct (firsts pairs) := by
  induction pairs with
  | nil => exact .nil
  | cons first rest ih =>
    rw [firsts]
    apply List.pairwise_cons.mpr
    constructor
    · intro other hother
      simpa using (List.mem_filter.mp hother).2
    · exact ih.filter _

/-- The entries that pairs leave: under each key the value of the last pair, at the place of the first. -/
def collected (pairs : Association) : Association :=
  (firsts pairs).map fun pair => (pair.1, (lastValue? pairs pair.1).getD pair.2)

theorem ofList_eq_collected (hS : Value.EquatesWell S) (hpairs : ∀ pair ∈ pairs, S pair.1) :
    ofList pairs = collected pairs := by
  induction pairs using List.reverseRecOn with
  | nil => rfl
  | append_singleton pairs pair ih =>
    obtain ⟨hpairs, hpair⟩ := List.forall_mem_append.mp hpairs
    have hkey : S pair.1 := hpair pair List.mem_cons_self
    have hstep : ofList (pairs ++ [pair]) = (insert (ofList pairs) pair.1 pair.2).2 := by
      rw [ofList, List.foldl_append]
      rfl
    have hkeys : (∃ entry ∈ collected pairs, (entry.1 == pair.1) = true) ↔
        ∃ other ∈ pairs, (other.1 == pair.1) = true := by
      rw [← exists_firsts hS hpairs hkey, collected]
      simp only [List.mem_map, exists_exists_and_eq_and]
    have hturned (other : Value × Value) (hother : other ∈ firsts pairs) : (pair.1 == other.1) = (other.1 == pair.1) := by
      have hother := hpairs other (mem_of_firsts hother)
      rw [Bool.eq_iff_iff]
      exact ⟨hS.symm hkey hother, hS.symm hother hkey⟩
    rw [hstep, ih hpairs]
    by_cases hthere : ∃ other ∈ pairs, (other.1 == pair.1) = true
    · have hcollected : ∀ entry ∈ collected pairs, S entry.1 := by
        intro entry hentry
        obtain ⟨other, hother, rfl⟩ := List.mem_map.mp hentry
        exact hpairs other (mem_of_firsts hother)
      have hd : Value.AreDistinct (collected pairs) := List.pairwise_map.mpr (areDistinct_firsts pairs)
      rw [insert_eq_map hS hd hcollected hkey (hkeys.mpr hthere), collected, collected, firsts_append_singleton,
        if_pos (List.any_eq_true.mpr hthere), List.map_map]
      apply List.map_congr_left
      intro other hother
      rw [Function.comp_apply, lastValue?_append_singleton, hturned other hother]
      split <;> rfl
    · have hnew : pairs.any (·.1 == pair.1) = false := by
        rw [← Bool.not_eq_true, List.any_eq_true]
        exact hthere
      have hother (other : Value × Value) (hother : other ∈ pairs) : (other.1 == pair.1) = false := by
        rw [← Bool.not_eq_true]
        exact fun hsame => hthere ⟨other, hother, hsame⟩
      have hearlier : (firsts pairs).map (fun other => (other.1, (lastValue? (pairs ++ [pair]) other.1).getD other.2)) =
          collected pairs := by
        apply List.map_congr_left
        intro other hmem
        rw [lastValue?_append_singleton, hturned other hmem, hother other (mem_of_firsts hmem), if_neg Bool.false_ne_true]
      have hlast : (lastValue? (pairs ++ [pair]) pair.1).getD pair.2 = pair.2 := by
        rw [lastValue?_append_singleton, lastValue?_eq_none fun other hmem => hother other hmem]
        split <;> rfl
      rw [insert_eq_append (mt hkeys.mp hthere), collected.eq_def (pairs ++ [pair]), firsts_append_singleton, hnew,
        if_neg Bool.false_ne_true, List.map_append, hearlier, List.map_singleton, hlast]

/-- The value that is found under a key is the one of the last pair with an equal key. -/
theorem get?_collected (hS : Value.EquatesWell S) (hpairs : ∀ pair ∈ pairs, S pair.1) (hkey : S key) :
    get? (collected pairs) key = lastValue? pairs key := by
  have hget : get? (collected pairs) key = ((firsts pairs).find? fun pair => pair.1 == key).map fun pair =>
      (lastValue? pairs pair.1).getD pair.2 := by
    rw [get?, collected, List.find?_map, Option.map_map]
    rfl
  rw [hget]
  cases hfind : (firsts pairs).find? fun pair => pair.1 == key with
  | none =>
    have hnone : ¬ ∃ pair ∈ pairs, (pair.1 == key) = true := by
      rw [← exists_firsts hS hpairs hkey]
      rintro ⟨pair, hpair, hsame⟩
      exact List.find?_eq_none.mp hfind pair hpair hsame
    rw [lastValue?_eq_none fun pair hpair => Bool.eq_false_iff.mpr fun hsame => hnone ⟨pair, hpair, hsame⟩]
    rfl
  | some first =>
    have hfirst := mem_of_firsts (List.mem_of_find?_eq_some hfind)
    have hsame : (first.1 == key) = true := by simpa using List.find?_some hfind
    -- the same pairs have a key equal to the stored one as have a key equal to the wanted one
    have hlast : lastValue? pairs first.1 = lastValue? pairs key := by
      rw [lastValue?, lastValue?, ← List.head?_filter, ← List.head?_filter, List.filter_congr]
      intro pair hpair
      have hpair := hpairs pair (List.mem_reverse.mp hpair)
      rw [Bool.eq_iff_iff]
      constructor
      · exact fun h => hS.trans hpair (hpairs first hfirst) hkey h hsame
      · exact fun h => hS.trans hpair hkey (hpairs first hfirst) h (hS.symm (hpairs first hfirst) hkey hsame)
    obtain ⟨value, hvalue⟩ : ∃ value, lastValue? pairs key = some value := by
      rw [lastValue?, ← Option.isSome_iff_exists, Option.isSome_map, List.find?_isSome]
      exact ⟨first, List.mem_reverse.mpr hfirst, hsame⟩
    rw [Option.map_some, hlast, hvalue, Option.getD_some]

end Association

namespace Value
variable [KeyHasher] {a b : Value} {entries other : Association}

theorem beq_of_hasNaN (ha : a.Built) (hb : b.Built) (h : b.HasNaN) : (a == b) = false := by
  rw [← Bool.not_eq_true]
  intro hsame
  have hself := equatesWell_built.trans hb ha hb (equatesWell_built.symm ha hb hsame) hsame
  exact (beq_self_iff b hb).mp hself h

open scoped Classical in
/-- Pairs under keys with NaN all stay, with their own values. -/
theorem collected_of_hasNaN {pairs : Association} (hpairs : ∀ pair ∈ pairs, pair.1.Built) :
    (Association.collected pairs).filter (fun entry => entry.1.HasNaN) = pairs.filter fun pair => pair.1.HasNaN := by
  have hvalue (pair : Value × Value) (hpair : pair ∈ pairs) (hnan : pair.1.HasNaN) :
      Association.lastValue? pairs pair.1 = none :=
    Association.lastValue?_eq_none fun other hother => beq_of_hasNaN (hpairs other hother) (hpairs pair hpair) hnan
  have hfirsts : (Association.firsts pairs).filter (fun pair => pair.1.HasNaN) = pairs.filter fun pair => pair.1.HasNaN := by
    clear hvalue
    induction pairs with
    | nil => rfl
    | cons first rest ih =>
      obtain ⟨hfirst, hrest⟩ := List.forall_mem_cons.mp hpairs
      have hkeep : ((Association.firsts rest).filter fun other => !(first.1 == other.1)).filter
          (fun pair => pair.1.HasNaN) = rest.filter fun pair => pair.1.HasNaN := by
        rw [← ih hrest, List.filter_filter]
        apply List.filter_congr
        intro other hother
        by_cases hnan : other.1.HasNaN
        · have := beq_of_hasNaN hfirst (hrest other (Association.mem_of_firsts hother)) hnan
          simp [hnan, this]
        · simp [hnan]
      rw [Association.firsts, List.filter_cons, List.filter_cons, hkeep]
  have hkeys : ((fun entry : Value × Value => decide entry.1.HasNaN) ∘ fun pair : Value × Value =>
      (pair.1, (Association.lastValue? pairs pair.1).getD pair.2)) = fun pair => decide pair.1.HasNaN := rfl
  rw [Association.collected, List.filter_map, hkeys, hfirsts]
  conv_rhs => rw [← List.map_id (pairs.filter fun pair => pair.1.HasNaN)]
  apply List.map_congr_left
  intro pair hpair
  obtain ⟨hpair, hnan⟩ := List.mem_filter.mp hpair
  rw [hvalue pair hpair (of_decide_eq_true hnan)]
  rfl

theorem areDistinct_of_perm (hperm : other.Perm entries) (hkeys : ∀ entry ∈ entries, entry.1.Built)
    (hd : AreDistinct entries) : AreDistinct other := by
  have hapart : entries.Pairwise fun entry next => (entry.1 == next.1) = false ∧ (next.1 == entry.1) = false := by
    apply hd.imp_of_mem
    intro entry next hentry hnext hne
    refine ⟨hne, ?_⟩
    rw [← Bool.not_eq_true] at hne ⊢
    exact fun hsame => hne (equatesWell_built.symm (hkeys next hnext) (hkeys entry hentry) hsame)
  exact (hapart.perm hperm.symm fun h => h.symm).imp fun h => h.1

/-- Entries under different keys, as many as others that cover them, can be matched with these. -/
theorem exists_matching {S : Value → Prop} (hS : EquatesWell S) (hlength : entries.length = other.length)
    (hd : AreDistinct entries) (hentries : ∀ entry ∈ entries, S entry.1 ∧ S entry.2)
    (hother : ∀ entry ∈ other, S entry.1 ∧ S entry.2) (h : Covers other entries) :
    ∃ matched, matched.Perm other ∧ List.Forall₂ AreEqualEntries entries matched := by
  induction entries generalizing other with
  | nil => exact ⟨other, .refl _, by rw [List.eq_nil_of_length_eq_zero hlength.symm]; exact .nil⟩
  | cons entry rest ih =>
    obtain ⟨⟨found, hfound, hkey, hvalue⟩, hrest⟩ := List.forall_mem_cons.mp h
    obtain ⟨hentry, hentries⟩ := List.forall_mem_cons.mp hentries
    obtain ⟨hapart, hd⟩ := List.pairwise_cons.mp hd
    obtain ⟨before, after, rfl⟩ := List.append_of_mem hfound
    have hfoundS := hother found hfound
    -- the entry that is matched already has a key unequal to all the others
    have hcovers : Covers (before ++ after) rest := by
      intro next hnext
      obtain ⟨partner, hpartner, hkey', hvalue'⟩ := hrest next hnext
      have hne : partner ≠ found := by
        rintro rfl
        have := hS.trans hentry.1 hfoundS.1 (hentries next hnext).1 (hS.symm hfoundS.1 hentry.1 hkey) hkey'
        rw [hapart next hnext] at this
        cases this
      refine ⟨partner, ?_, hkey', hvalue'⟩
      simpa [hne] using hpartner
    have hlength' : rest.length = (before ++ after).length := by
      simp only [List.length_cons, List.length_append] at hlength ⊢
      omega
    have hleft : ∀ entry ∈ before ++ after, S entry.1 ∧ S entry.2 := by
      intro entry hentry
      exact hother entry (by simp only [List.mem_append, List.mem_cons] at hentry ⊢; tauto)
    obtain ⟨matched, hperm, hmatched⟩ := ih hlength' hd hentries hleft hcovers
    refine ⟨found :: matched, (hperm.cons found).trans List.perm_middle.symm, .cons ?_ hmatched⟩
    exact ⟨hS.symm hfoundS.1 hentry.1 hkey, hS.symm hfoundS.2 hentry.2 hvalue⟩

theorem beq_map_iff {m m' : ValueMap} (hm : m.Orderly) (hm' : m'.Orderly) : (map m == map m') = true ↔
    ∃ matched, matched.Perm m'.toList ∧ List.Forall₂ AreEqualEntries m.toList matched := by
  have hsize (m : ValueMap) : m.size = m.toList.length := rfl
  rw [beq_map, Bool.and_eq_true, beq_iff_eq, equatesWell_built.covers_iff hm' hm'.parts hm.parts, hsize, hsize]
  constructor
  · rintro ⟨hlength, hcovers⟩
    exact exists_matching equatesWell_built hlength hm.distinct hm.parts hm'.parts hcovers
  · rintro ⟨matched, hperm, hmatched⟩
    refine ⟨hmatched.length_eq.trans hperm.length_eq, fun entry hentry => ?_⟩
    obtain ⟨i, hi, rfl⟩ := List.getElem_of_mem hentry
    have hi' : i < matched.length := hmatched.length_eq ▸ hi
    obtain ⟨hkey, hvalue⟩ := hmatched.get hi hi'
    have hfound : matched[i] ∈ m'.toList := hperm.mem_iff.mp (List.getElem_mem hi')
    have hparts := hm.parts _ (List.getElem_mem hi)
    have hparts' := hm'.parts _ hfound
    exact ⟨matched[i], hfound, equatesWell_built.symm hparts.1 hparts'.1 hkey,
      equatesWell_built.symm hparts.2 hparts'.2 hvalue⟩

open scoped Classical in
/-- Order is nothing to maps, but for the places of their entries: pairs under different keys give equal maps in any
order, other pairs leave the last value of each key at its first place, and equal maps are maps with equal entries. -/
theorem maps_blind_to_order {pairs : List (Value × Value)} (hpairs : ∀ pair ∈ pairs, pair.1.Built ∧ pair.2.Built)
    {m m' : ValueMap} (hm : m.Built) (hm' : m'.Built) :
    (AreDistinct pairs → (∀ pair ∈ pairs, ¬ pair.1.HasNaN ∧ ¬ pair.2.HasNaN) → ∀ pairs' : List (Value × Value),
      pairs'.Perm pairs → (map (ValueMap.ofList pairs') == map (ValueMap.ofList pairs)) = true) ∧
    (ValueMap.ofList pairs).toList = (Association.firsts pairs).map (fun pair =>
      (pair.1, (Association.lastValue? pairs pair.1).getD pair.2)) ∧
    (∀ key : Value, key.Built → (ValueMap.ofList pairs).get? key = Association.lastValue? pairs key) ∧
    ((ValueMap.ofList pairs).toList.filter fun entry => entry.1.HasNaN) =
      (pairs.filter fun pair => pair.1.HasNaN) ∧
    ((map m == map m') = true ↔
      ∃ matched, matched.Perm m'.toList ∧ List.Forall₂ AreEqualEntries m.toList matched) := by
  have hkeys (pair : Value × Value) (hpair : pair ∈ pairs) : pair.1.Built := (hpairs pair hpair).1
  have hentries : (ValueMap.ofList pairs).toList = Association.collected pairs :=
    (ValueMap.ofList_eq pairs).2.trans (Association.ofList_eq_collected equatesWell_built hkeys)
  refine ⟨fun hd hnan pairs' hperm => ?_, hentries, fun key hkey => ?_, ?_, beq_map_iff hm.orderly hm'.orderly⟩
  · have hd' : AreDistinct pairs' := areDistinct_of_perm hperm hkeys hd
    have hpairs' : ∀ pair ∈ pairs', pair.1.Built ∧ pair.2.Built := fun pair hpair => hpairs pair (hperm.mem_iff.mp hpair)
    apply (beq_map_iff (ValueMap.Built.ofList hpairs').orderly (ValueMap.Built.ofList hpairs).orderly).mpr
    rw [ValueMap.toList_ofList hd, ValueMap.toList_ofList hd']
    refine ⟨pairs', hperm, List.forall₂_same.mpr fun pair hpair => ?_⟩
    obtain ⟨hkey, hvalue⟩ := hpairs' pair hpair
    obtain ⟨hkeyNaN, hvalueNaN⟩ := hnan pair (hperm.mem_iff.mp hpair)
    exact ⟨(beq_self_iff _ hkey).mpr hkeyNaN, (beq_self_iff _ hvalue).mpr hvalueNaN⟩
  · rw [ValueMap.get?_eq (ValueMap.ofList_eq pairs).1, hentries, Association.get?_collected equatesWell_built hkeys hkey]
  · rw [hentries, collected_of_hasNaN hkeys]

omit [KeyHasher] in
/-- Pairs under both zeros, under NaN twice and under a map built in two orders, and two maps with the same entries in
different orders, where all keys collide. -/
theorem maps_blind_to_order_of_collisions :
    let _ : KeyHasher := ⟨fun _ => 0⟩
    let inner := map (ValueMap.ofList [(.int 1, .null), (.string "a", .null)])
    let turned := map (ValueMap.ofList [(.string "a", .null), (.int 1, .null)])
    let pairs : List (Value × Value) := [(inner, .int 1), (.float .zero, .int 2), (.float .nan, .int 3), (.list [], .int 4),
      (.float .nan, .int 5), (.float (.negate .zero), .int 6), (turned, .int 7)]
    let apart : List (Value × Value) := [(inner, .int 1), (.float .zero, .int 2), (.list [], .int 4)]
    let apart' : List (Value × Value) := [(.list [], .int 4), (inner, .int 1), (.float .zero, .int 2)]
    (ValueMap.ofList pairs).values.map Value.asInt = [some 7, some 6, some 3, some 4, some 5] ∧
      ((ValueMap.ofList pairs).get? turned).map Value.asInt = some (some 7) ∧
      (map (ValueMap.ofList apart') == map (ValueMap.ofList apart)) = true ∧
      ∃ matched, matched.Perm (ValueMap.ofList apart).toList ∧
        List.Forall₂ AreEqualEntries (ValueMap.ofList apart').toList matched := by
  intro _ inner turned pairs apart apart'
  have hleaf (v : Value) (h : v.isLeaf = true := by rfl) : v.Built := .leaf h
  have hinner : inner.Built := .map (.ofList (by simpa using ⟨⟨hleaf (.int 1), hleaf .null⟩, hleaf (.string "a"), hleaf .null⟩))
  have hturned : turned.Built := .map (.ofList (by simpa using ⟨⟨hleaf (.string "a"), hleaf .null⟩, hleaf (.int 1), hleaf .null⟩))
  have hlist : (Value.list []).Built := .list (List.forall_mem_nil _)
  have hpairs : ∀ pair ∈ pairs, pair.1.Built ∧ pair.2.Built := by
    simp only [pairs, List.forall_mem_cons]
    exact ⟨⟨hinner, hleaf _⟩, ⟨hleaf _, hleaf _⟩, ⟨hleaf _, hleaf _⟩, ⟨hlist, hleaf _⟩, ⟨hleaf _, hleaf _⟩,
      ⟨hleaf _, hleaf _⟩, ⟨hturned, hleaf _⟩, List.forall_mem_nil _⟩
  have hapart : ∀ pair ∈ apart, pair.1.Built ∧ pair.2.Built := by
    simp only [apart, List.forall_mem_cons]
    exact ⟨⟨hinner, hleaf _⟩, ⟨hleaf _, hleaf _⟩, ⟨hlist, hleaf _⟩, List.forall_mem_nil _⟩
  have hperm : apart'.Perm apart := (List.perm_append_singleton _ [(inner, int 1), (float .zero, int 2)]).symm
  have hmap : (ValueMap.ofList apart).Built := .ofList hapart
  have hmap' : (ValueMap.ofList apart').Built := .ofList fun pair hpair => hapart pair (hperm.mem_iff.mp hpair)
  obtain ⟨-, hentries, hget, -, -⟩ := maps_blind_to_order hpairs hmap' hmap
  obtain ⟨horder, -, -, -, hmatch⟩ := maps_blind_to_order hapart hmap' hmap
  have hfree : ∀ pair ∈ apart, ¬ pair.1.HasNaN ∧ ¬ pair.2.HasNaN := by
    intro pair hpair
    rw [← beq_self_iff _ (hapart pair hpair).1, ← beq_self_iff _ (hapart pair hpair).2]
    revert pair
    decide +kernel
  have hequal := horder (by decide +kernel) hfree apart' hperm
  refine ⟨?_, ?_, hequal, hmatch.mp hequal⟩
  · rw [ValueMap.values, hentries]
    decide +kernel
  · rw [hget turned hturned]
    decide +kernel

end Value
end ScriptHost
