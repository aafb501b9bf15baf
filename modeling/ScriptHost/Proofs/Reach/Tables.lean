import ScriptHost.Proofs.Reach.Spares

/-! Dictionaries and the tables of sets refer to nothing but what was put into them. -/
namespace ScriptHost

variable {P : Identity → Prop} {form : Key} {key value id : Identity}

namespace Dict
variable {d : Dict}

theorem within_find? (hd : Within P d) (form : Key) : Within P (d.find? form) := by
  intro id hid
  obtain ⟨entry, hfound, rfl⟩ := Option.map_eq_some_iff.mp hid
  exact (hd entry (List.mem_of_find?_eq_some hfound)).2.2

grind_pattern within_find? => Within P d, d.find? form

@[grind ←] theorem within_insert (hf : Within P form) (hk : P key) (hv : P value) (hd : Within P d) :
    Within P (d.insert form key value) := by
  induction d with
  | nil => exact (within_cons _ _).mpr ⟨⟨hf, hk, hv⟩, within_nil.mpr trivial⟩
  | cons entry d ih =>
    rw [within_cons] at hd
    rw [Dict.insert]
    split
    · exact (within_cons _ _).mpr ⟨⟨hd.1.1, hd.1.2.1, hv⟩, hd.2⟩
    · exact (within_cons _ _).mpr ⟨hd.1, ih hd.2⟩

@[grind ←] theorem within_erase (form : Key) (hd : Within P d) : Within P (d.erase form) := within_filter _ hd

end Dict

namespace MemberTable
variable {t other : MemberTable}

theorem within_tableToList (ht : Within P t) : Within P t.toList :=
  within_filterMap (l := t.slots.toList) ht fun slot hslot => by
    cases slot with
    | member hash form id => exact (within_some _).mpr hslot
    | free | removed => simp

grind_pattern within_tableToList => Within P t, t.toList

theorem within_ids (ht : Within P t) : Within P t.ids := within_map (within_tableToList ht) fun _ h => h.2

grind_pattern within_ids => Within P t, t.ids

@[grind .] theorem within_emptyTable : Within P empty := within_array_replicate (a := MemberSlot.free) 8 trivial

@[grind ←] theorem within_put (hash : UInt64) (ht : Within P t) (hf : Within P form) (hid : P id) :
    Within P (t.put hash form id) := by
  unfold put
  split
  · exact within_array_set (a := MemberSlot.member hash form id) ht _ ⟨hf, hid⟩
  · exact ht

@[grind ←] theorem within_resize (used : Nat) (ht : Within P t) : Within P (t.resize used) := by
  unfold resize
  refine within_array_foldl ht (within_array_replicate (a := MemberSlot.free) _ trivial) fun made slot hmade hslot => ?_
  cases slot <;> grind

@[grind ←] theorem within_reserve (more : Nat) (ht : Within P t) : Within P (t.reserve more) := by
  unfold reserve
  grind

@[grind ←] theorem within_insertMember (hash : UInt64) (ht : Within P t) (hf : Within P form) (hid : P id) :
    Within P (t.insert hash form id) := by
  unfold insert
  split
  · dsimp only
    split <;> grind
  · exact ht

@[grind ←] theorem within_merge (ht : Within P t) (ho : Within P other) : Within P (t.merge other) := by
  unfold merge
  dsimp only
  split
  · exact ho
  · refine within_array_foldl ho (within_reserve _ ht) fun made slot hmade hslot => ?_
    cases slot with
    | member hash form id => split <;> grind
    | free | removed => exact hmade

@[grind ←] theorem within_eraseMember (form : Key) (ht : Within P t) : Within P (t.erase form) :=
  within_array_map (s := t.slots) ht fun slot hslot => by
    cases slot with
    | member hash key id =>
      dsimp only
      split
      · exact trivial
      · exact hslot
    | free | removed => exact hslot

@[grind ←] theorem within_filterMembers (keeps : Key → Bool) (ht : Within P t) : Within P (t.filter keeps) := by
  unfold filter
  refine within_array_foldl ht within_emptyTable fun made slot hmade hslot => ?_
  cases slot <;> grind

@[grind ←] theorem within_copy (ht : Within P t) : Within P t.copy := within_merge within_emptyTable ht

@[grind ←] theorem within_union (ht : Within P t) (ho : Within P other) : Within P (t.union other) := by
  unfold union
  exact within_merge (within_copy ht) ho

@[grind ←] theorem within_intersection (ht : Within P t) (ho : Within P other) : Within P (t.intersection other) := by
  unfold intersection
  grind

@[grind ←] theorem within_difference (other : MemberTable) (ht : Within P t) : Within P (t.difference other) := by
  unfold difference
  split
  · suffices h : ∀ (l : List (Key × Identity)) (made : MemberTable), Within P made →
        Within P (l.foldl (fun made entry => made.erase entry.1) made) from h _ _ (within_copy ht)
    intro l
    induction l with
    | nil => exact fun _ h => h
    | cons entry l ih => exact fun made h => ih _ (within_eraseMember _ h)
  · exact within_filterMembers _ ht

@[grind ←] theorem within_symmetricDifference (ht : Within P t) (ho : Within P other) :
    Within P (t.symmetricDifference other) := by
  unfold symmetricDifference
  refine within_array_foldl ht (within_copy ho) fun made slot hmade hslot => ?_
  cases slot <;> grind

/-- What lies at a place of the table. -/
theorem within_slot (ht : Within P t) (place : Nat) : Within P (t.slots.getD place .free) := by
  rw [Array.getD_eq_getD_getElem?]
  exact within_optionGetD (within_array_getElem? ht place) trivial

theorem within_nextFrom? (ht : Within P t) (start : Nat) : Within P (t.nextFrom? start) :=
  within_findSome? (within_nowhere _) fun place _ => by
    have hslot := within_slot ht place
    cases h : t.slots.getD place .free <;> grind

grind_pattern within_nextFrom? => Within P t, t.nextFrom? start

theorem within_pop? (ht : Within P t) : Within P t.pop? :=
  within_findSome? (within_nowhere _) fun place _ => by
    have hslot := within_slot ht place
    cases h : t.slots.getD place .free with
    | member hash form id =>
      rw [h] at hslot
      exact (within_some _).mpr ⟨hslot.2, within_eraseMember form ht⟩
    | free | removed => simp

grind_pattern within_pop? => Within P t, t.pop?

end MemberTable
end ScriptHost
