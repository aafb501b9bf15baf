import ScriptHost.Proofs.Handle.Registry
import ScriptHost.Proofs.Guest.Growth

/-! Later states of an interpreter whose namespace keeps the objects of handles: nothing that was there
changes but the entries for handles, so classes still say the same of their objects. -/
namespace ScriptHost

/-- Whether a name is one of those that the registry takes for its entries. -/
def Text.IsEntryName (name : Text) : Prop := name.startsWith (.ofString Identity.keyMark) = true

instance (name : Text) : Decidable name.IsEntryName :=
  inferInstanceAs (Decidable (name.startsWith (.ofString Identity.keyMark) = true))

theorem Identity.isEntryName (id : Identity) : id.entryName.IsEntryName := id.startsWith_entryName

/-- The object that a function just returns. -/
def Function.returned? : Function → Option Identity
  | .feature _ _ (.reply (.returns object)) => some object
  | .renamed _ _ f => f.returned?
  | _ => none

/-- The objects that data refers to, as far as conversions follow them. -/
def Body.references : Body → List Identity
  | .list items | .tuple items => items.toList
  | .dict entries => entries.flatMap fun entry => [entry.key, entry.value]
  | .classObject made => made.ancestors
  | .module attributes => [attributes]
  | .function f _ => f.returned?.toList
  | _ => []

/-- The objects that an object refers to, as far as conversions follow them. -/
def Object.references (o : Object) : List Identity :=
  o.home.toList ++ o.attributes.toList ++ o.body.references

namespace Guest
variable {n id : Identity} {g g' g'' : Guest}

/-- No object refers to one that is not there. -/
def Grounded (g : Guest) : Prop := ∀ id ref, ref ∈ (g.object id).references → g.Holds ref

namespace Grounded

theorem home (hg : g.Grounded) {home : Identity} (h : g.home? id = some home) : g.Holds home :=
  hg id home (by simp [Object.references, show (g.object id).home = some home from h])

theorem attributes (hg : g.Grounded) {d : Identity} (h : g.ownAttributes? id = some d) : g.Holds d := by
  unfold ownAttributes? at h
  split at h
  · next d' hb =>
    cases h
    exact hg id d (by simp [Object.references, show (g.object id).body = _ from hb, Body.references])
  · exact hg id d (by simp [Object.references, h])

theorem value (hg : g.Grounded) {d v : Identity} {name : Text} (h : g.lookup d name = some v) :
    g.Holds v := by
  unfold lookup entries at h
  split at h
  · next entries hb =>
    unfold Dict.find? at h
    obtain ⟨entry, hfound, rfl⟩ := Option.map_eq_some_iff.mp h
    refine hg d entry.value ?_
    simp only [Object.references, show (g.object d).body = _ from hb, Body.references,
      List.mem_append, List.mem_flatMap]
    exact .inr ⟨entry, List.mem_of_find?_eq_some hfound, by simp⟩
  · simp [Dict.find?_nil] at h

theorem ancestors (hg : g.Grounded) {made : ScriptClass} (h : g.body id = .classObject made) :
    ∀ ancestor ∈ made.ancestors, g.Holds ancestor := fun ancestor hmem =>
  hg id ancestor (by simp [Object.references, show (g.object id).body = _ from h, Body.references, hmem])

private theorem entry?_ne_scripted (own key : String) (value : Identity) :
    Builtin.entry? own key ≠ some (.scripted value) := by
  intro h
  unfold Builtin.entry? at h
  split at h
  · cases h
  · split at h
    · cases h
    · obtain ⟨found, _, hfound⟩ := Option.map_eq_some_iff.mp h
      cases hfound

private theorem entryOfOne (hg : g.Grounded) {class? value : Identity} {name : Text} {key : String}
    (h : g.entryOfOne name key class? = some (.scripted value)) : g.Holds value := by
  have hown : ∀ found, g.ownAttribute? class? name = some found → g.Holds found := by
    intro found hfound
    obtain ⟨d, _, hfound⟩ := Option.bind_eq_some_iff.mp hfound
    exact hg.value hfound
  unfold Guest.entryOfOne at h
  split at h
  · exact absurd h (entry?_ne_scripted _ _ _)
  · obtain ⟨found, hfound, hvalue⟩ := Option.map_eq_some_iff.mp h
    split at hvalue
    · split at hvalue <;> cases hvalue
      exact hown _ hfound
    · cases hvalue
      exact hown _ hfound

/-- What a class holds is there. -/
theorem entryIn (hg : g.Grounded) {class? value : Identity} {name : Text}
    (h : g.entryIn class? name = some (.scripted value)) : g.Holds value := by
  unfold Guest.entryIn at h
  split at h
  · obtain ⟨owner, _, howner⟩ := List.exists_of_findSome?_eq_some h
    exact absurd howner (entry?_ne_scripted _ _ _)
  · obtain ⟨owner, _, howner⟩ := List.exists_of_findSome?_eq_some h
    exact hg.entryOfOne howner
  · cases h

theorem special (hg : g.Grounded) {value : Identity} {name : String} (h : g.special? id name = some value) :
    g.Holds value := by
  unfold Guest.special? at h
  split at h
  · next found hfound =>
    cases h
    obtain ⟨home, _, hentry⟩ := Option.bind_eq_some_iff.mp hfound
    exact hg.entryIn hentry
  · cases h

end Grounded

/-- A later state: only the namespace has changed among the objects that were there, and of its names
only those of handles. -/
structure Later (n : Identity) (g g' : Guest) : Prop where
  size_le : g.heap.size ≤ g'.heap.size
  object : ∀ id, g.Holds id → id ≠ n → g'.object id = g.object id
  home : g'.home? n = g.home? n
  attributes : (g'.object n).attributes = (g.object n).attributes
  isDict : (∃ d, g.body n = .dict d) → ∃ d, g'.body n = .dict d
  lookup : ∀ name : Text, ¬ name.IsEntryName → g'.lookup n name = g.lookup n name
  halted : g'.halted = g.halted
  bare : g.Bare → g'.Bare

namespace Later

theorem refl (n : Identity) (g : Guest) : g.Later n g :=
  ⟨Nat.le_refl _, fun _ _ _ => rfl, rfl, rfl, fun hd => hd, fun _ _ => rfl, rfl, fun hb => hb⟩

theorem holds (h : g.Later n g') (hid : g.Holds id) : g'.Holds id := Nat.lt_of_lt_of_le hid h.size_le

theorem trans (h : g.Later n g') (h' : g'.Later n g'') : g.Later n g'' where
  size_le := Nat.le_trans h.size_le h'.size_le
  object id hid hne := (h'.object id (h.holds hid) hne).trans (h.object id hid hne)
  home := h'.home.trans h.home
  attributes := h'.attributes.trans h.attributes
  isDict hd := h'.isDict (h.isDict hd)
  lookup name hname := (h'.lookup name hname).trans (h.lookup name hname)
  halted := h'.halted.trans h.halted
  bare hb := h'.bare (h.bare hb)

end Later

theorem Grows.later (h : g.Grows g') (hn : g.Holds n) : g.Later n g' where
  size_le := h.size_le
  object id hid _ := h.object id hid
  home := by rw [home?, h.object n hn, home?]
  attributes := by rw [h.object n hn]
  isDict hd := by rwa [body, h.object n hn]
  lookup name _ := by
    simp only [Guest.lookup, entries, body, h.object n hn]
  halted := h.halted
  bare := h.bare

theorem later_noted (r : Record) : g.Later n (g.noted r) :=
  ⟨Nat.le_refl _, fun _ _ _ => rfl, rfl, rfl, fun hd => hd, fun _ _ => rfl, rfl, fun hb => hb⟩

/-- A namespace with other entries, of which only those of handles differ. -/
private theorem later_withBody {d : Dict} (hn : g.Holds n) (hlookup : ∀ name : Text, ¬ name.IsEntryName →
    (g.withBody n (.dict d)).lookup n name = g.lookup n name) : g.Later n (g.withBody n (.dict d)) where
  size_le := by simp
  object id _ hne := object_withBody_of_ne g hne _
  home := by simp [home?, object_withBody hn]
  attributes := by simp [object_withBody hn]
  isDict _ := ⟨d, by rw [body_withBody_dict, if_pos hn]⟩
  lookup := hlookup
  halted := rfl
  bare hb := GuestM.bare_withBody hb n d

theorem later_parked (hn : g.Holds n) (id : Identity) : g.Later n (g.parked n id) := by
  obtain ⟨key, g', hadds, he⟩ := g.parked_eq n id
  rw [he]
  refine (hadds.grows.later hn).trans (later_withBody (hadds.holds hn) fun name hname => ?_)
  have hne : id.entryName ≠ name := fun hne => hname (hne ▸ id.isEntryName)
  rw [lookup_insert (hadds.holds hn) (.refl g'), if_neg hne]

theorem later_dropped (hn : g.Holds n) (id : Identity) : g.Later n (g.dropped n id) := by
  rw [dropped_eq]
  refine later_withBody hn fun name hname => ?_
  have hne : id.entryName ≠ name := fun hne => hname (hne ▸ id.isEntryName)
  rw [lookup_erase hn, if_neg hne]

/-- A state of an interpreter to start from: the namespace is a dictionary that is there, no object refers
to one that is not, no integer carries attributes, and the operators' module can be imported. -/
structure WellKept (n : Identity) (g : Guest) : Prop where
  holds : g.Holds n
  isDict : ∃ d, g.body n = .dict d
  grounded : g.Grounded
  bare : g.Bare
  operators : "builtins" ∉ g.halted ∧ "operator" ∉ g.halted

/-! ### What classes say of their objects -/

private theorem findSome?_congr {α β : Type} {items : List α} {f f' : α → Option β}
    (h : ∀ item ∈ items, f' item = f item) : items.findSome? f' = items.findSome? f := by
  induction items with
  | nil => rfl
  | cons item items ih =>
    obtain ⟨hitem, hitems⟩ := List.forall_mem_cons.mp h
    rw [List.findSome?_cons, List.findSome?_cons, hitem, ih hitems]

private theorem any_congr {α : Type} {items : List α} {f f' : α → Bool}
    (h : ∀ item ∈ items, f' item = f item) : items.any f' = items.any f := by
  induction items with
  | nil => rfl
  | cons item items ih =>
    obtain ⟨hitem, hitems⟩ := List.forall_mem_cons.mp h
    rw [List.any_cons, List.any_cons, hitem, ih hitems]

namespace Later
variable {name : Text} {class? value : Identity}

theorem body_eq (h : g.Later n g') (hid : g.Holds id) (hne : id ≠ n) : g'.body id = g.body id := by
  rw [body, h.object id hid hne, body]

/-- The namespace is still a dictionary, and every other object holds what it held. -/
theorem body_cases (h : g.Later n g') (hk : g.WellKept n) (hid : g.Holds id) :
    g'.body id = g.body id ∨ ∃ d d', g.body id = .dict d ∧ g'.body id = .dict d' := by
  by_cases hne : id = n
  · subst hne
    obtain ⟨d, hd⟩ := hk.isDict
    obtain ⟨d', hd'⟩ := h.isDict ⟨d, hd⟩
    exact .inr ⟨d, d', hd, hd'⟩
  · exact .inl (h.body_eq hid hne)

/-- What is no dictionary is no namespace, and still holds what it held. -/
theorem body_of_ne_dict (h : g.Later n g') (hk : g.WellKept n) (hid : g.Holds id) {b : Body}
    (hb : g.body id = b) (hne : ∀ d, b ≠ .dict d) : g'.body id = b := by
  rcases h.body_cases hk hid with he | ⟨d, _, hd, _⟩
  · rw [he, hb]
  · exact absurd (hb.symm.trans hd) (hne d)

theorem home?_eq (h : g.Later n g') (hid : g.Holds id) : g'.home? id = g.home? id := by
  by_cases hne : id = n
  · rw [hne, h.home]
  · rw [home?, h.object id hid hne, home?]

theorem lookup_eq (h : g.Later n g') (hid : g.Holds id) (hname : ¬ name.IsEntryName) :
    g'.lookup id name = g.lookup id name := by
  by_cases hne : id = n
  · rw [hne, h.lookup name hname]
  · rw [Guest.lookup, entries, h.body_eq hid hne, Guest.lookup, entries]

theorem ownAttributes?_eq (h : g.Later n g') (hk : g.WellKept n) (hid : g.Holds id) :
    g'.ownAttributes? id = g.ownAttributes? id := by
  by_cases hne : id = n
  · subst hne
    obtain ⟨d, hd⟩ := hk.isDict
    obtain ⟨d', hd'⟩ := h.isDict ⟨d, hd⟩
    simp only [ownAttributes?, hd, hd', h.attributes]
  · rw [ownAttributes?, h.body_eq hid hne, h.object id hid hne, ownAttributes?]

theorem ownAttribute?_eq (h : g.Later n g') (hk : g.WellKept n) (hid : g.Holds id)
    (hname : ¬ name.IsEntryName) : g'.ownAttribute? id name = g.ownAttribute? id name := by
  rw [ownAttribute?, h.ownAttributes?_eq hk hid, ownAttribute?]
  cases hd : g.ownAttributes? id with
  | none => rfl
  | some d => exact h.lookup_eq (hk.grounded.attributes hd) hname

/-- What is made of an attribute that was there stays the same if its data decides about it. -/
private theorem map_ownAttribute?_eq {β : Type} (h : g.Later n g') (hk : g.WellKept n) (hid : g.Holds id)
    (hname : ¬ name.IsEntryName) {f f' : Identity → β}
    (hf : ∀ value, (g'.body value = g.body value ∨ ∃ d d', g.body value = .dict d ∧ g'.body value = .dict d') →
      f' value = f value) : (g'.ownAttribute? id name).map f' = (g.ownAttribute? id name).map f := by
  rw [h.ownAttribute?_eq hk hid hname]
  cases hv : g.ownAttribute? id name with
  | none => rfl
  | some value =>
    obtain ⟨d, _, hfound⟩ := Option.bind_eq_some_iff.mp hv
    rw [Option.map_some, Option.map_some, hf value (h.body_cases hk (hk.grounded.value hfound))]

theorem entryOfOne_eq (h : g.Later n g') (hk : g.WellKept n) (hid : g.Holds class?)
    (hname : ¬ name.IsEntryName) (key : String) :
    g'.entryOfOne name key class? = g.entryOfOne name key class? := by
  rcases h.body_cases hk hid with he | ⟨d, d', hd, hd'⟩
  · rw [entryOfOne, entryOfOne, he]
    split
    · rfl
    · refine h.map_ownAttribute?_eq hk hid hname fun value hvalue => ?_
      rcases hvalue with he | ⟨d, d', hd, hd'⟩
      · rw [he]
      · simp only [hd, hd']
  · rw [entryOfOne, entryOfOne, hd, hd']
    refine h.map_ownAttribute?_eq hk hid hname fun value hvalue => ?_
    rcases hvalue with he | ⟨d, d', hd, hd'⟩
    · rw [he]
    · simp only [hd, hd']

theorem entryIn_eq (h : g.Later n g') (hk : g.WellKept n) (hid : g.Holds class?)
    (hname : ¬ name.IsEntryName) : g'.entryIn class? name = g.entryIn class? name := by
  rcases h.body_cases hk hid with he | ⟨d, d', hd, hd'⟩
  · rw [entryIn, entryIn, he]
    cases hb : g.body class? with
    | classObject made =>
      refine findSome?_congr fun ancestor ha => ?_
      rcases List.mem_cons.mp ha with rfl | ha
      · exact h.entryOfOne_eq hk hid hname _
      · exact h.entryOfOne_eq hk (hk.grounded.ancestors hb ancestor ha) hname _
    | _ => rfl
  · rw [entryIn, entryIn, hd, hd']

theorem special?_eq (h : g.Later n g') (hk : g.WellKept n) (hid : g.Holds id) {key : String}
    (hname : ¬ (Text.ofString key).IsEntryName) : g'.special? id key = g.special? id key := by
  rw [special?, h.home?_eq hid, special?]
  cases hc : g.home? id with
  | none => rfl
  | some home =>
    rw [Option.bind_some, Option.bind_some, h.entryIn_eq hk (hk.grounded.home hc) hname]

theorem extendsOwn_eq (h : g.Later n g') (hk : g.WellKept n) (hid : g.Holds class?) (own : String) :
    g'.extendsOwn class? own = g.extendsOwn class? own := by
  rcases h.body_cases hk hid with he | ⟨d, d', hd, hd'⟩
  · rw [extendsOwn, extendsOwn, he]
    cases hb : g.body class? with
    | classObject made =>
      refine any_congr fun ancestor ha => ?_
      rcases h.body_cases hk (hk.grounded.ancestors hb ancestor ha) with he | ⟨d, d', hd, hd'⟩
      · rw [he]
      · rw [hd, hd']
    | _ => rfl
  · rw [extendsOwn, extendsOwn, hd, hd']

theorem isMappingClass_eq (h : g.Later n g') (hk : g.WellKept n) (hid : g.Holds class?) :
    g'.isMappingClass class? = g.isMappingClass class? := by
  simp only [isMappingClass, List.any_cons, List.any_nil, h.extendsOwn_eq hk hid]

end Later

end Guest
end ScriptHost
