import ScriptHost.Proofs.Value.Extraction
import ScriptHost.Proofs.Value.Plain

/-! Taking a value as a type and making a value of typed data are inverse to each other, in whatever order the maps
of the data are walked. -/
namespace ScriptHost.Target

/-- Whether null is a value of a type's data. -/
def hasNull : Target → Bool
  | .value | .option _ => true
  | _ => false

/-- Whether no option is of a type that has null already. -/
def TellsNone : Target → Prop
  | .option item => item.hasNull = false ∧ item.TellsNone
  | .list item | .map item => item.TellsNone
  | _ => True

/-- Whether a type asks for floats nowhere. -/
def IsFloatFree : Target → Prop
  | .float => False
  | .list item | .option item | .map item => item.IsFloatFree
  | _ => True

/-- A value is written of typed data: the entries of each map come in any order. -/
def Written : (t : Target) → t.Denote → Value → Prop
  | .list item, xs, v => ∃ vs, List.Forall₂ item.Written xs vs ∧ v = .list vs
  | .option item, x, v => x.elim (v = .null) (item.Written · v)
  | .map item, xs, v => ∃ (entries : List (String × item.Denote)) (pairs : List (Value × Value)),
      entries.Perm xs.toList ∧
      List.Forall₂ (fun entry pair => pair.1 = .string entry.1 ∧ item.Written entry.2 pair.2) entries pairs ∧
      v = .map (ValueMap.ofList pairs)
  | t, x, v => v = t.toValue x

/-! ### Items and entries -/

section
variable {α : Type} {item : Value → Except ConversionError α}

/-- Items are extracted one by one. -/
theorem extractItems_ok_iff {index : Nat} {vs : List Value} {xs : List α} :
    extractItems item index vs = .ok xs ↔ List.Forall₂ (fun x v => item v = .ok x) xs vs := by
  induction vs generalizing index xs with
  | nil => cases xs <;> simp [extractItems]
  | cons v vs ih =>
    unfold extractItems
    constructor
    · intro h
      split at h
      · cases h
      · next x hx =>
        split at h
        · cases h
        · next rest hrest =>
          cases h
          exact .cons hx (ih.mp hrest)
    · rintro (_ | ⟨hx, hrest⟩)
      rw [hx, ih.mpr hrest]

/-- Entries are extracted one by one and come into the map in their order. -/
theorem extractEntries_ok_iff {pairs : List (Value × Value)} {found m : StringMap α} :
    extractEntries item found pairs = .ok m ↔
      ∃ entries : List (String × α),
        List.Forall₂ (fun entry pair => pair.1 = Value.string entry.1 ∧ item pair.2 = .ok entry.2) entries pairs ∧
        entries.foldl (fun m entry => m.insert entry.1 entry.2) found = m := by
  induction pairs generalizing found with
  | nil => simp [extractEntries, eq_comm]
  | cons pair pairs ih =>
    constructor
    · intro h
      obtain ⟨key, v⟩ := pair
      cases key with
      | string key =>
        unfold extractEntries at h
        split at h
        · cases h
        · next x hx =>
          obtain ⟨entries, hentries, hm⟩ := ih.mp h
          exact ⟨(key, x) :: entries, .cons ⟨rfl, hx⟩ hentries, hm⟩
      | _ => cases h
    · rintro ⟨_, hentries, hm⟩
      cases hentries with
      | @cons entry _ entries _ hpair hentries =>
        obtain ⟨key, v⟩ := pair
        obtain ⟨rfl, hx⟩ := hpair
        rw [extractEntries, hx]
        exact ih.mpr ⟨entries, hentries, hm⟩

/-- Entries under different keys, inserted one after the other. -/
theorem toList_foldl_insert_perm {entries : List (String × α)}
    (hdistinct : entries.Pairwise fun a b => a.1 ≠ b.1) {found : StringMap α}
    (hnew : ∀ entry ∈ entries, found[entry.1]? = none) :
    (entries.foldl (fun m entry => m.insert entry.1 entry.2) found).toList.Perm (found.toList ++ entries) := by
  induction entries generalizing found with
  | nil => simp
  | cons entry entries ih =>
    obtain ⟨hapart, hothers⟩ := List.pairwise_cons.mp hdistinct
    obtain ⟨hfresh, hlater⟩ := List.forall_mem_cons.mp hnew
    have hnext : ∀ other ∈ entries, (found.insert entry.1 entry.2)[other.1]? = none := fun other hmem => by
      rw [Std.ExtTreeMap.getElem?_insert, if_neg fun heq => hapart other hmem (Std.LawfulEqCmp.eq_of_compare heq)]
      exact hlater other hmem
    refine (ih hothers hnext).trans (((toList_insert_perm hfresh entry.2).append_right _).trans ?_)
    rw [List.cons_append]
    exact List.perm_middle.symm

/-- The keys of a map are different. -/
theorem keys_apart (m : StringMap α) : m.toList.Pairwise fun a b => a.1 ≠ b.1 :=
  m.distinct_keys_toList.imp fun hab hsame => hab (Std.LawfulEqCmp.compare_eq_iff_eq.mpr hsame)

/-- The map of a map's entries is that map, in whatever order they are inserted. -/
theorem foldl_insert_of_perm {entries : List (String × α)} {m : StringMap α} (h : entries.Perm m.toList) :
    entries.foldl (fun m entry => m.insert entry.1 entry.2) ∅ = m := by
  have hdistinct := (h.pairwise_iff fun hab => Ne.symm hab).mpr (keys_apart m)
  refine Std.ExtTreeMap.ext_toList ((toList_foldl_insert_perm hdistinct fun _ _ => ?_).trans ?_)
  · exact Std.ExtTreeMap.getElem?_empty
  · rw [Std.ExtTreeMap.toList_eq_nil_iff.mpr rfl, List.nil_append]
    exact h

end

/-- Every element on the right of a relation between lists has one on the left. -/
theorem exists_left {α β : Type} {R : α → β → Prop} {as : List α} {bs : List β} (h : List.Forall₂ R as bs)
    {b : β} (hb : b ∈ bs) : ∃ a ∈ as, R a b := by
  induction h with
  | nil => cases hb
  | cons hab _ ih =>
    rcases List.mem_cons.mp hb with rfl | hb
    · exact ⟨_, .head _, hab⟩
    · obtain ⟨a, ha, hab⟩ := ih hb
      exact ⟨a, .tail _ ha, hab⟩

private theorem exists_right {α β : Type} {R : α → β → Prop} {as : List α} {bs : List β} (h : List.Forall₂ R as bs)
    {a : α} (ha : a ∈ as) : ∃ b ∈ bs, R a b :=
  exists_left (R := flip R) h.flip ha

/-- Pairs under the strings that are the keys of different entries are under different keys. -/
private theorem areDistinct_of_apart {α : Type} {R : α → Value → Prop} {entries : List (String × α)}
    {pairs : List (Value × Value)}
    (hpairs : List.Forall₂ (fun entry pair => pair.1 = Value.string entry.1 ∧ R entry.2 pair.2) entries pairs)
    (hapart : entries.Pairwise fun a b => a.1 ≠ b.1) : Value.AreDistinct pairs := by
  induction hpairs with
  | nil => exact .nil
  | cons hpair hpairs ih =>
    obtain ⟨hfirst, hrest⟩ := List.pairwise_cons.mp hapart
    refine .cons (fun other hother => ?_) (ih hrest)
    obtain ⟨entry, hmem, hkey, -⟩ := exists_left hpairs hother
    rw [hpair.1, hkey, ← Bool.not_eq_true]
    exact fun h => hfirst entry hmem (eq_of_beq h)

private theorem apart_of_areDistinct [KeyHasher] {α : Type} {R : α → Value → Prop} {entries : List (String × α)}
    {pairs : List (Value × Value)}
    (hpairs : List.Forall₂ (fun entry pair => pair.1 = Value.string entry.1 ∧ R entry.2 pair.2) entries pairs)
    (hdistinct : Value.AreDistinct pairs) : entries.Pairwise fun a b => a.1 ≠ b.1 := by
  induction hpairs with
  | nil => exact .nil
  | cons hpair hpairs ih =>
    obtain ⟨hfirst, hrest⟩ := List.pairwise_cons.mp hdistinct
    refine .cons (fun other hother hsame => ?_) (ih hrest)
    obtain ⟨pair, hmem, hkey, -⟩ := exists_right hpairs hother
    have hunequal := hfirst pair hmem
    rw [hpair.1, hkey, hsame, (Value.beq_iff _ _).mpr (.atom rfl)] at hunequal
    cases hunequal

/-- The entries of a map whose keys are different are those of the extracted map, in another order. -/
theorem extractEntries_perm [KeyHasher] {α : Type} {item : Value → Except ConversionError α}
    {pairs : List (Value × Value)} (hdistinct : Value.AreDistinct pairs) {m : StringMap α}
    (h : extractEntries item ∅ pairs = .ok m) :
    ∃ entries : List (String × α),
      List.Forall₂ (fun entry pair => pair.1 = Value.string entry.1 ∧ item pair.2 = .ok entry.2) entries pairs ∧
      m.toList.Perm entries := by
  obtain ⟨entries, hentries, rfl⟩ := extractEntries_ok_iff.mp h
  have hapart := apart_of_areDistinct (R := fun x v => item v = .ok x) hentries hdistinct
  have hperm := toList_foldl_insert_perm hapart fun _ _ => Std.ExtTreeMap.getElem?_empty
  rw [Std.ExtTreeMap.toList_eq_nil_iff.mpr rfl, List.nil_append] at hperm
  exact ⟨entries, hentries, hperm⟩

/-! ### From data to a value and back -/

/-- Among the values written of some data is the one whose maps are walked in the order of their keys. -/
theorem written_toValue (t : Target) (x : t.Denote) : t.Written x (t.toValue x) := by
  induction t with
  | list item ih => exact ⟨_, List.forall₂_map_right_iff.mpr (List.forall₂_same.mpr fun y _ => ih y), rfl⟩
  | option item ih =>
    cases x with
    | none => rfl
    | some y => exact ih y
  | map item ih =>
    refine ⟨x.toList, x.toList.map fun entry => (.string entry.1, item.toValue entry.2), .refl _, ?_, rfl⟩
    exact List.forall₂_map_right_iff.mpr (List.forall₂_same.mpr fun entry _ => ⟨rfl, ih entry.2⟩)
  | _ => rfl

/-- Null is written of data only if the type has it. -/
private theorem Written.ne_null {t : Target} (ht : t.hasNull = false) {x : t.Denote} {v : Value} (h : t.Written x v) :
    v ≠ .null := by
  cases t with
  | value | option => cases ht
  | list =>
    obtain ⟨vs, -, rfl⟩ := h
    simp
  | map =>
    obtain ⟨_, _, -, -, rfl⟩ := h
    simp
  | integer =>
    obtain rfl := h
    rw [toValue, Value.integer]
    split <;> simp
  | _ =>
    obtain rfl := h
    simp [toValue]

private theorem int64_ofInt_int32 (n : Int32) : (Int64.ofInt n.toInt).toInt = n.toInt :=
  Int64.toInt_ofInt_of_le (by have := n.le_toInt; omega) (by have := n.toInt_lt; omega)

private theorem fitsHalfWord_toInt (n : Int32) : FitsHalfWord n.toInt := ⟨n.le_toInt, n.toInt_lt⟩

/-- Data is found again in a value that is written of it. -/
theorem Written.extract {t : Target} (ht : t.TellsNone) {x : t.Denote} {v : Value} (h : t.Written x v) :
    t.extract v = .ok x := by
  induction t generalizing v with
  | list item ih =>
    obtain ⟨vs, hvs, rfl⟩ := h
    exact extractItems_ok_iff.mpr (hvs.imp fun _ _ hitem => ih ht hitem)
  | option item ih =>
    cases x with
    | none =>
      obtain rfl : v = .null := h
      rfl
    | some y =>
      have hnull : v.isNull = false := by
        cases v with
        | null => exact absurd rfl (ne_null ht.1 h)
        | _ => rfl
      rw [extract_option hnull, ih ht.2 h]
      rfl
  | map item ih =>
    obtain ⟨entries, pairs, hperm, hpairs, rfl⟩ := h
    have hapart := (hperm.pairwise_iff fun hab => Ne.symm hab).mpr (keys_apart x)
    rw [Target.extract, ValueMap.toList_ofList (areDistinct_of_apart hpairs hapart)]
    exact extractEntries_ok_iff.mpr
      ⟨entries, hpairs.imp fun _ _ hpair => ⟨hpair.1, ih ht hpair.2⟩, foldl_insert_of_perm hperm⟩
  | int32 =>
    obtain rfl := h
    change extractInt32 _ = _
    rw [toValue, extractInt32, extractInt64]
    simp only [int64_ofInt_int32, if_pos (fitsHalfWord_toInt x), Int32.ofInt_toInt]
  | integer =>
    obtain rfl := h
    rw [toValue, Value.integer]
    split
    · next hfits =>
      obtain ⟨hlow, hhigh⟩ := hfits
      rw [Target.extract, Int64.toInt_ofInt_of_le (by omega) (by omega)]
    · rfl
  | _ =>
    obtain rfl := h
    rfl

/-! ### From a value to data and back -/

/-- No number of a value is NaN, and its big integers are beyond 64 bits. -/
structure IsNormal (v : Value) : Prop where
  built : v.Built
  noNaN : ¬ v.HasNaN
  big : ∀ n, (Value.bigInt n).PartOf v → ¬ FitsWord n

namespace IsNormal

theorem item {items : List Value} (h : IsNormal (.list items)) {item : Value} (hmem : item ∈ items) :
    IsNormal item where
  built := h.built.items item hmem
  noNaN hnan := h.noNaN (.item hmem hnan)
  big n hn := h.big n (.item hmem hn)

theorem value {m : ValueMap} (h : IsNormal (.map m)) {entry : Value × Value} (hmem : entry ∈ m.toList) :
    IsNormal entry.2 where
  built := (h.built.orderly.parts entry hmem).2
  noNaN hnan := h.noNaN (.value hmem hnan)
  big n hn := h.big n (.value hmem hn)

theorem null : IsNormal .null := ⟨.leaf rfl, nofun, nofun⟩

theorem string (s : String) : IsNormal (.string s) := ⟨.leaf rfl, nofun, nofun⟩

theorem bigInt {n : Int} (h : ¬ FitsWord n) : IsNormal (.bigInt n) where
  built := .leaf rfl
  noNaN := nofun
  big
    | _, .whole => h

theorem list {items : List Value} (h : ∀ item ∈ items, IsNormal item) : IsNormal (.list items) where
  built := .list fun item hmem => (h item hmem).built
  noNaN
    | .item hmem hnan => (h _ hmem).noNaN hnan
  big
    | n, .item hmem hn => (h _ hmem).big n hn

theorem ofList {pairs : List (Value × Value)} (hdistinct : Value.AreDistinct pairs)
    (h : ∀ pair ∈ pairs, IsNormal pair.1 ∧ IsNormal pair.2) : IsNormal (.map (ValueMap.ofList pairs)) where
  built := .map (.ofList fun pair hmem => ⟨(h pair hmem).1.built, (h pair hmem).2.built⟩)
  noNaN hnan := by
    have htoList := ValueMap.toList_ofList hdistinct
    cases hnan with
    | key hmem hnan => exact (h _ (htoList ▸ hmem)).1.noNaN hnan
    | value hmem hnan => exact (h _ (htoList ▸ hmem)).2.noNaN hnan
  big n hn := by
    have htoList := ValueMap.toList_ofList hdistinct
    cases hn with
    | key hmem hn => exact (h _ (htoList ▸ hmem)).1.big n hn
    | value hmem hn => exact (h _ (htoList ▸ hmem)).2.big n hn

end IsNormal

private theorem extractInt32_ok {v : Value} {n : Int32} (h : extractInt32 v = .ok n) :
    v = .int (Int64.ofInt n.toInt) := by
  cases v with
  | int wide =>
    unfold extractInt32 at h
    simp only [extractInt64] at h
    split at h
    · next hfits =>
      cases h
      obtain ⟨hlow, hhigh⟩ := hfits
      rw [Int32.toInt_ofInt_of_le (by omega) (by omega), Int64.ofInt_toInt]
    · cases h
  | _ => cases h

section
variable {α : Type} {item : Value → Except ConversionError α} {R : α → Value → Prop}

private theorem list_beq {vs : List Value} {xs : List α}
    (hitem : ∀ v ∈ vs, ∀ x, item v = .ok x → ∀ w, R x w → w.Built ∧ (w == v) = true)
    (hrun : List.Forall₂ (fun x v => item v = .ok x) xs vs) {ws : List Value} (hws : List.Forall₂ R xs ws) :
    (∀ w ∈ ws, w.Built) ∧ List.Forall₂ (fun w v => (w == v) = true) ws vs := by
  induction hrun generalizing ws with
  | nil =>
    cases hws
    exact ⟨List.forall_mem_nil _, .nil⟩
  | cons hx _ ih =>
    obtain ⟨hfirst, hrest⟩ := List.forall_mem_cons.mp hitem
    cases hws with
    | cons hw hws =>
      obtain ⟨hbuilt, hsame⟩ := hfirst _ hx _ hw
      obtain ⟨hallBuilt, hallSame⟩ := ih hrest hws
      exact ⟨List.forall_mem_cons.mpr ⟨hbuilt, hallBuilt⟩, .cons hsame hallSame⟩

/-- A map written of the entries of another one, in any order, equals it: every entry has one under its key. -/
private theorem map_beq {m : ValueMap} (hm : m.Orderly)
    (hitem : ∀ pair ∈ m.toList, ∀ x, item pair.2 = .ok x → ∀ w, R x w → w.Built ∧ (w == pair.2) = true)
    {entries entries' : List (String × α)} {pairs : List (Value × Value)}
    (hrun : List.Forall₂ (fun entry pair => pair.1 = Value.string entry.1 ∧ item pair.2 = .ok entry.2)
      entries m.toList)
    (hperm : entries'.Perm entries)
    (hpairs : List.Forall₂ (fun entry pair => pair.1 = Value.string entry.1 ∧ R entry.2 pair.2) entries' pairs)
    (hdistinct : Value.AreDistinct pairs) :
    (Value.map (ValueMap.ofList pairs)).Built ∧ (Value.map (ValueMap.ofList pairs) == .map m) = true := by
  have hpartner : ∀ pair ∈ pairs, ∃ stored ∈ m.toList, stored.1 = pair.1 ∧ (stored.1 == pair.1) = true ∧
      pair.2.Built ∧ (pair.2 == stored.2) = true := fun pair hpair => by
    obtain ⟨entry, hentry, hkey, hvalue⟩ := exists_left hpairs hpair
    obtain ⟨stored, hmem, hstored, hx⟩ := exists_right hrun (hperm.mem_iff.mp hentry)
    refine ⟨stored, hmem, hstored.trans hkey.symm, ?_, hitem stored hmem _ hx _ hvalue⟩
    rw [hkey, hstored]
    exact (Value.beq_iff _ _).mpr (.atom rfl)
  have hbuilt : ∀ pair ∈ pairs, pair.1.Built ∧ pair.2.Built := fun pair hpair => by
    obtain ⟨stored, hmem, hkey, -, hvalue, -⟩ := hpartner pair hpair
    exact ⟨hkey ▸ (hm.parts stored hmem).1, hvalue⟩
  have htoList := ValueMap.toList_ofList hdistinct
  have hlength : (ValueMap.ofList pairs).toList.length = m.toList.length := by
    rw [htoList, ← hpairs.length_eq, ← hrun.length_eq, hperm.length_eq]
  refine ⟨.map (.ofList hbuilt), (Value.beq_iff _ _).mpr (.map hlength ?_)⟩
  rw [htoList, Value.equatesWell_built.covers_iff hm hm.parts hbuilt]
  intro pair hpair
  obtain ⟨stored, hmem, -, hkey, hvalue, hsame⟩ := hpartner pair hpair
  exact ⟨stored, hmem, hkey, Value.equatesWell_built.symm hvalue (hm.parts stored hmem).2 hsame⟩

end

/-- What is written of the data that a value was taken as equals the value. -/
theorem Written.beq_of_extract {t : Target} (ht : t.IsFloatFree) {v : Value} (hv : IsNormal v) {x : t.Denote}
    (hrun : t.extract v = .ok x) {w : Value} (h : t.Written x w) : w.Built ∧ (w == v) = true := by
  have hself {v : Value} (hv : IsNormal v) : v.Built ∧ (v == v) = true :=
    ⟨hv.built, (Value.beq_self_iff v hv.built).mpr hv.noNaN⟩
  induction t generalizing v w with
  | value =>
    obtain rfl : v = x := Except.ok.inj hrun
    obtain rfl : w = v := h
    exact hself hv
  | list item ih =>
    obtain ⟨ws, hws, rfl⟩ := h
    cases v with
    | list vs =>
      obtain ⟨hbuilt, hsame⟩ := list_beq (fun v hmem x hx w hw => ih ht (hv.item hmem) hx hw)
        (extractItems_ok_iff.mp hrun) hws
      exact ⟨.list hbuilt, (Value.beq_list_iff ws vs).mpr hsame⟩
    | _ => cases hrun
  | option item ih =>
    cases hnull : v.isNull with
    | false =>
      obtain ⟨y, hy, rfl⟩ := extract_option_ok hnull hrun
      exact ih ht hv hy h
    | true =>
      cases v with
      | null =>
        obtain rfl := Except.ok.inj hrun
        obtain rfl : w = .null := h
        exact hself hv
      | _ => cases hnull
  | map item ih =>
    obtain ⟨entries', pairs, hperm, hpairs, rfl⟩ := h
    cases v with
    | map m =>
      have horderly := hv.built.orderly
      obtain ⟨entries, hentries, hfound⟩ := extractEntries_perm horderly.distinct hrun
      have hapart := (hperm.pairwise_iff fun hab => Ne.symm hab).mpr (keys_apart x)
      exact map_beq horderly (fun pair hmem x hx w hw => ih ht (hv.value hmem) hx hw) hentries (hperm.trans hfound)
        hpairs (areDistinct_of_apart hpairs hapart)
    | _ => cases hrun
  | int32 =>
    obtain rfl := extractInt32_ok hrun
    obtain rfl := h
    exact hself hv
  | integer =>
    obtain rfl := h
    cases v with
    | int n =>
      obtain rfl := Except.ok.inj hrun
      rw [toValue, Value.integer_toInt]
      exact hself hv
    | bigInt n =>
      obtain rfl := Except.ok.inj hrun
      rw [toValue, Value.integer_of_big (hv.big _ .whole)]
      exact hself hv
    | _ => cases hrun
  | float => exact ht.elim
  | _ =>
    obtain rfl := h
    cases v <;> cases hrun
    all_goals exact hself hv

/-- Conversions between typed data and values are inverse to each other. Data is found again in whatever is written
of it if no option is of a type that has null already; and what is written of the data that a value was taken as
equals the value if the type asks for no floats, NaN is nowhere in the value and its big integers are beyond 64
bits. -/
theorem written_extract_inverse (t : Target) :
    (t.TellsNone → ∀ x v, t.Written x v → t.extract v = .ok x) ∧
      (t.IsFloatFree → ∀ v, IsNormal v → ∀ x, t.extract v = .ok x → ∀ w, t.Written x w → (w == v) = true) ∧
      ∀ x, t.Written x (t.toValue x) :=
  ⟨fun ht _ _ h => h.extract ht, fun ht _ hv _ hrun _ h => (h.beq_of_extract ht hv hrun).2, t.written_toValue⟩

/-- A map with a list, in which an integer beyond 64 bits and a missing one stand, walked against the order of its
keys. -/
theorem written_extract_inverse_of_map :
    let t : Target := .map (.list (.option .integer))
    let entries : List (String × List (Option Int)) := [("b", []), ("a", [some (2 ^ 64), none])]
    let x : t.Denote := entries.foldl (fun m entry => m.insert entry.1 entry.2) ∅
    let pairs := [(Value.string "b", Value.list []), (.string "a", .list [.bigInt (2 ^ 64), .null])]
    let v := Value.map (ValueMap.ofList pairs)
    t.TellsNone ∧ t.IsFloatFree ∧ IsNormal v ∧ t.Written x v ∧ t.extract v = .ok x ∧ (t.toValue x == v) = true := by
  intro t entries x pairs v
  have hbig : ¬ FitsWord (2 ^ 64) := by decide
  have hv : IsNormal v := by
    have hlist : IsNormal (.list [.bigInt (2 ^ 64), .null]) := .list (by simpa using ⟨.bigInt hbig, .null⟩)
    refine .ofList (by decide +kernel) (List.forall_mem_cons.mpr ⟨⟨.string "b", .list (List.forall_mem_nil _)⟩, ?_⟩)
    exact List.forall_mem_singleton.mpr ⟨.string "a", hlist⟩
  have hwritten : t.Written x v := by
    have hperm := toList_foldl_insert_perm (show entries.Pairwise _ by decide) fun _ _ => Std.ExtTreeMap.getElem?_empty
    refine ⟨entries, pairs, hperm.symm, .cons ⟨rfl, _, .nil, rfl⟩ (.cons ⟨rfl, _, .cons ?_ (.cons rfl .nil), rfl⟩ .nil),
      rfl⟩
    exact (Value.integer_of_big hbig).symm
  have hrun := (written_extract_inverse t).1 ⟨rfl, trivial⟩ x v hwritten
  have hsame := (written_extract_inverse t).2.1 trivial v hv x hrun _ ((written_extract_inverse t).2.2 x)
  exact ⟨⟨rfl, trivial⟩, trivial, hv, hwritten, hrun, hsame⟩

end ScriptHost.Target
