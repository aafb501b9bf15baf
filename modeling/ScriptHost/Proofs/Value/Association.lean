import ScriptHost.Proofs.Value.MapEntries

/-! Maps of values against plain lists of pairs that are searched from the front: each operation of a map
gives the answer of the list and leaves the entries of the list. -/
namespace ScriptHost

/-- Entries in order, with nothing to find them by. -/
abbrev Association := List (Value × Value)

namespace Association
variable [KeyHasher]

/-- Replaces the value of the first equal key and returns it, or adds an entry at the end. -/
def insert : Association → Value → Value → Option Value × Association
  | [], key, value => (none, [(key, value)])
  | entry :: rest, key, value =>
    if entry.1 == key then (some entry.2, (entry.1, value) :: rest)
    else
      let (previous, rest) := insert rest key value
      (previous, entry :: rest)

def get? (entries : Association) (key : Value) : Option Value := (entries.find? (·.1 == key)).map (·.2)

/-- The list of a list of pairs, inserted in order. -/
def ofList (pairs : List (Value × Value)) : Association :=
  pairs.foldl (fun entries pair => (entries.insert pair.1 pair.2).2) []

theorem insert_of_absent {entries : Association} {key : Value}
    (h : entries.findIdx? (·.1 == key) = none) (value : Value) :
    entries.insert key value = (none, entries ++ [(key, value)]) := by
  induction entries with
  | nil => rfl
  | cons entry rest ih =>
    rw [List.findIdx?_cons] at h
    cases hkey : entry.1 == key with
    | true => simp [hkey] at h
    | false =>
      have hrest : rest.findIdx? (·.1 == key) = none := by simpa [hkey] using h
      simp [insert, hkey, ih hrest]

theorem insert_of_present {entries : Association} {key : Value} {p : Nat}
    (h : entries.findIdx? (·.1 == key) = some p) (value : Value) :
    entries.insert key value = ((entries[p]?).map (·.2), entries.modify p fun entry => (entry.1, value)) := by
  induction entries generalizing p with
  | nil => simp at h
  | cons entry rest ih =>
    rw [List.findIdx?_cons] at h
    cases hkey : entry.1 == key with
    | true =>
      obtain rfl : 0 = p := by simpa [hkey] using h
      simp [insert, hkey]
    | false =>
      obtain ⟨q, hq, rfl⟩ : ∃ q, rest.findIdx? (·.1 == key) = some q ∧ q + 1 = p := by simpa [hkey] using h
      simp [insert, hkey, ih hq]

end Association

namespace ValueMap
variable [KeyHasher] {m : ValueMap}

theorem get?_eq (hm : m.Filed Value.keyHash) (key : Value) : m.get? key = Association.get? m.toList key := by
  rw [get?, find?_eq hm, Association.get?]

/-- A map answers an insertion as its entries do, and has the entries that they become. -/
theorem insert_eq (hm : m.Filed Value.keyHash) (key value : Value) :
    ((m.insert key value).1, (m.insert key value).2.toList) = Association.insert m.toList key value := by
  cases hp : m.position key.keyHash (· == key) with
  | none =>
    have habsent := (position_eq hm key).symm.trans hp
    rw [Association.insert_of_absent habsent, insert_of_absent hp, Keyed.toList_push]
  | some p =>
    have hpresent := (position_eq hm key).symm.trans hp
    rw [Association.insert_of_present hpresent, insert_of_present hp]
    simp [Keyed.setValue, Keyed.toList]

theorem ofList_eq (pairs : List (Value × Value)) :
    (ofList pairs).Filed Value.keyHash ∧ (ofList pairs).toList = Association.ofList pairs := by
  suffices hfrom : ∀ m : ValueMap, m.Filed Value.keyHash →
      (pairs.foldl (fun m pair => (m.insert pair.1 pair.2).2) m).Filed Value.keyHash ∧
        (pairs.foldl (fun m pair => (m.insert pair.1 pair.2).2) m).toList =
          pairs.foldl (fun entries pair => (Association.insert entries pair.1 pair.2).2) m.toList by
    exact hfrom {} (Keyed.filed_empty _)
  induction pairs with
  | nil => exact fun m hm => ⟨hm, rfl⟩
  | cons pair pairs ih =>
    intro m hm
    have hstep := congrArg Prod.snd (insert_eq hm pair.1 pair.2)
    rw [List.foldl_cons, List.foldl_cons, ← hstep]
    exact ih _ (filed_insert hm pair.1 pair.2)

end ValueMap
end ScriptHost
