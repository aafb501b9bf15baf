import ScriptHost.Proofs.Value.Built

/-! Histories of a map: whatever is asked of it in whatever order, it answers as the list of its entries would,
and its tables hold every position once. -/
namespace ScriptHost

/-- What can be asked of a map. -/
inductive MapCall where
  | empty
  | withCapacity (capacity : Nat)
  | collect (pairs : List (Value × Value))
  | insert (key value : Value)
  | adding (key value : Value)
  | get (key : Value)
  | getString (key : String)
  | contains (key : Value)
  | size
  | isEmpty
  | keys
  | values
  | entries

/-- What a map answers. -/
inductive MapAnswer where
  | nothing
  | value (v : Option Value)
  | truth (b : Bool)
  | number (n : Nat)
  | values (vs : List Value)
  | entries (es : List (Value × Value))

namespace MapCall
variable [KeyHasher]

/-- Carries out a call on a map. -/
def onMap (m : ValueMap) : MapCall → MapAnswer × ValueMap
  | empty => (.nothing, .empty)
  | withCapacity capacity => (.nothing, Keyed.withCapacity capacity)
  | collect pairs => (.nothing, .ofList pairs)
  | insert key value => let (previous, m) := m.insert key value; (.value previous, m)
  | adding key value => (.nothing, m.adding key value)
  | get key => (.value (m.get? key), m)
  | getString key => (.value (m.getString? key), m)
  | contains key => (.truth (m.contains key), m)
  | size => (.number m.size, m)
  | isEmpty => (.truth m.isEmpty, m)
  | keys => (.values m.keys, m)
  | values => (.values m.values, m)
  | entries => (.entries m.toList, m)

/-- Carries out a call on a list of entries. -/
def onList (l : Association) : MapCall → MapAnswer × Association
  | empty | withCapacity _ => (.nothing, [])
  | collect pairs => (.nothing, .ofList pairs)
  | insert key value => let (previous, l) := l.insert key value; (.value previous, l)
  | adding key value => (.nothing, (l.insert key value).2)
  | get key => (.value (l.get? key), l)
  | getString key => (.value (l.get? (.string key)), l)
  | contains key => (.truth (l.get? key).isSome, l)
  | size => (.number l.length, l)
  | isEmpty => (.truth l.isEmpty, l)
  | keys => (.values (l.map (·.1)), l)
  | values => (.values (l.map (·.2)), l)
  | entries => (.entries l, l)

/-- Carries out calls in order; the result is what was answered, and what there is afterwards. -/
def runAll {σ : Type} (run : σ → MapCall → MapAnswer × σ) (s : σ) : List MapCall → List MapAnswer × σ
  | [] => ([], s)
  | call :: calls =>
    let (answer, s) := run s call
    let (answers, s) := runAll run s calls
    (answer :: answers, s)

omit [KeyHasher] in
theorem runAll_cons {σ : Type} (run : σ → MapCall → MapAnswer × σ) (s : σ) (call : MapCall) (calls : List MapCall) :
    runAll run s (call :: calls) =
      ((run s call).1 :: (runAll run (run s call).2 calls).1, (runAll run (run s call).2 calls).2) := rfl

/-- Whether all maps in the keys and values of a call were built. -/
def Built : MapCall → Prop
  | collect pairs => ∀ pair ∈ pairs, pair.1.Built ∧ pair.2.Built
  | insert key value | adding key value => key.Built ∧ value.Built
  | get key | contains key => key.Built
  | _ => True

end MapCall

/-- How the tables of a map lead to its entries. -/
structure ValueMap.Indexed [KeyHasher] (m : ValueMap) : Prop where
  /-- Every position is filed once, under the hash of its key. -/
  once : ∀ hash p, (m.candidates hash).count p = if (m.entries[p]?).any (·.1.keyHash == hash) then 1 else 0
  /-- No key equals another one. -/
  apart : ∀ i j (hi : i < m.keys.length) (hj : j < m.keys.length), i ≠ j → (m.keys[i] == m.keys[j]) = false
  /-- Exactly the entry with an equal key is found. -/
  found : ∀ key entry, key.Built →
    (m.find? key.keyHash (· == key) = some entry ↔ entry ∈ m.toList ∧ (entry.1 == key) = true)

namespace ValueMap
variable [KeyHasher] {m : ValueMap}

theorem Orderly.indexed (hm : m.Orderly) : m.Indexed where
  once hash p := by
    have hnodup : (m.positions Value.keyHash hash).Nodup := List.nodup_range.filter _
    rw [← Array.count_toList, hm.filed hash, hnodup.count]
    refine if_congr ?_ rfl rfl
    rw [Keyed.positions, List.mem_filter, List.mem_range]
    refine and_iff_right_of_imp fun h => ?_
    obtain ⟨entry, hentry, _⟩ := (Option.any_eq_true _ _).mp h
    exact (Array.getElem?_eq_some_iff.mp hentry).1
  apart i j hi hj hne := by
    simp only [keys, List.length_map, List.getElem_map] at hi hj ⊢
    rw [← Bool.not_eq_true]
    exact fun h => hne (Value.equatesWell_built.index_eq hm.distinct (fun entry hentry => (hm.parts entry hentry).1) h)
  found key entry hkey := by
    rw [find?_eq hm.filed]
    exact Value.equatesWell_built.find?_eq_some_iff hm.distinct
      (fun entry hentry => (hm.parts entry hentry).1) hkey entry

/-- One call: the answer is that of the list, and the map stays in step with it. -/
theorem onMap_eq (hm : m.Built) (call : MapCall) (hcall : call.Built) :
    ((call.onMap m).1, (call.onMap m).2.toList) = call.onList m.toList ∧ (call.onMap m).2.Built := by
  have hfiled := hm.orderly.filed
  cases call with
  | empty => exact ⟨rfl, .empty⟩
  | withCapacity capacity => exact ⟨rfl, .withCapacity capacity⟩
  | collect pairs =>
    refine ⟨?_, .ofList hcall⟩
    exact congrArg (Prod.mk MapAnswer.nothing) (ofList_eq pairs).2
  | insert key value =>
    refine ⟨?_, .insert hm hcall.1 hcall.2⟩
    rw [MapCall.onList, ← insert_eq hfiled]
    rfl
  | adding key value =>
    refine ⟨?_, .insert hm hcall.1 hcall.2⟩
    rw [MapCall.onList, ← insert_eq hfiled]
    rfl
  | get key => exact ⟨by rw [MapCall.onList, ← get?_eq hfiled]; rfl, hm⟩
  | getString key => exact ⟨by rw [MapCall.onList, ← get?_eq hfiled]; rfl, hm⟩
  | contains key => exact ⟨by rw [MapCall.onList, ← get?_eq hfiled]; rfl, hm⟩
  | isEmpty =>
    have hsize : m.isEmpty = m.toList.isEmpty := by
      rw [isEmpty, Keyed.size, Keyed.toList, Bool.eq_iff_iff, beq_iff_eq, List.isEmpty_iff_length_eq_zero]
      rfl
    exact ⟨by rw [MapCall.onList, ← hsize]; rfl, hm⟩
  | _ => exact ⟨rfl, hm⟩

theorem runAll_eq (calls : List MapCall) (hcalls : ∀ call ∈ calls, call.Built) (hm : m.Built) :
    ((MapCall.runAll MapCall.onMap m calls).1, (MapCall.runAll MapCall.onMap m calls).2.toList) =
        MapCall.runAll MapCall.onList m.toList calls ∧
      (MapCall.runAll MapCall.onMap m calls).2.Built := by
  induction calls generalizing m with
  | nil => exact ⟨rfl, hm⟩
  | cons call calls ih =>
    obtain ⟨hcall, hcalls⟩ := List.forall_mem_cons.mp hcalls
    obtain ⟨hstep, hnext⟩ := onMap_eq hm call hcall
    obtain ⟨hrest, hlast⟩ := ih hcalls hnext
    refine ⟨?_, hlast⟩
    rw [MapCall.runAll_cons, MapCall.runAll_cons, ← hstep, ← hrest]

end ValueMap

/-- Whatever is asked of a map, whatever numbers the hasher yields, the answers are those of the list of its
entries, and its tables lead to exactly these entries. -/
theorem MapCall.history_of_empty [KeyHasher] (calls : List MapCall) (hcalls : ∀ call ∈ calls, call.Built) :
    ((runAll onMap .empty calls).1, (runAll onMap .empty calls).2.toList) = runAll onList [] calls ∧
      (runAll onMap .empty calls).2.Indexed := by
  obtain ⟨hanswers, hbuilt⟩ := ValueMap.runAll_eq calls hcalls .empty
  exact ⟨hanswers, hbuilt.orderly.indexed⟩

/-- Lists and maps as keys, both zeros, NaN twice and values replaced, where all keys collide. -/
theorem MapCall.history_of_collisions :
    let _ : KeyHasher := ⟨fun _ => 0⟩
    let inner := Value.map (ValueMap.ofList [(.int 1, .null)])
    let calls := [insert (.list [.int 1]) (.int 1), adding (.float .zero) (.int 2), insert (.float .nan) (.int 3),
      insert inner (.int 4), insert (.float .nan) (.int 5), insert (.list [.int 1]) (.int 6),
      insert (.float (.negate .zero)) (.int 7), get inner, contains (.float .nan)]
    let reached := runAll onMap .empty calls
    reached.2.values.map Value.asInt = [some 6, some 7, some 3, some 4, some 5] ∧ reached.2.Indexed := by
  intro _ inner calls reached
  have hleaf (v : Value) (h : v.isLeaf = true := by rfl) : v.Built := .leaf h
  have hlist : (Value.list [.int 1]).Built := .list (by simpa using hleaf (.int 1))
  have hinner : inner.Built := .map (.ofList (by simpa using ⟨hleaf (.int 1), hleaf .null⟩))
  have hcalls : ∀ call ∈ calls, call.Built := by
    simp only [calls, List.forall_mem_cons, Built]
    exact ⟨⟨hlist, hleaf _⟩, ⟨hleaf _, hleaf _⟩, ⟨hleaf _, hleaf _⟩, ⟨hinner, hleaf _⟩, ⟨hleaf _, hleaf _⟩,
      ⟨hlist, hleaf _⟩, ⟨hleaf _, hleaf _⟩, hinner, hleaf _, List.forall_mem_nil _⟩
  exact ⟨by decide +kernel, (history_of_empty calls hcalls).2⟩

end ScriptHost
