import ScriptHost.Guest.Hashing
import ScriptHost.Proofs.Stepping

/-! Namespaces of the interpreter: what a write under one name does to the heap, and that it leaves
every other name and every other object as they were. -/
namespace ScriptHost

namespace Dict

theorem find?_nil (form : Key) : find? [] form = none := rfl

theorem find?_cons (entry : DictEntry) (d : Dict) (form : Key) :
    find? (entry :: d) form = if entry.form = form then some entry.value else find? d form := by
  unfold find?
  rw [List.find?_cons]
  by_cases h : entry.form = form
  · simp [h]
  · simp [h, beq_eq_false_iff_ne.mpr h]

theorem find?_insert (d : Dict) (form other : Key) (key value : Identity) :
    find? (insert form key value d) other = if form = other then some value else find? d other := by
  induction d with
  | nil => simp [insert, find?_cons, find?_nil]
  | cons entry d ih =>
    by_cases h : entry.form = form
    · subst h
      rw [insert, if_pos rfl, find?_cons, find?_cons]
      split <;> rfl
    · rw [insert, if_neg h, find?_cons, find?_cons, ih]
      by_cases hf : form = other
      · simp [hf, hf ▸ h]
      · simp [hf]

theorem find?_erase (d : Dict) (form other : Key) :
    find? (erase d form) other = if form = other then none else find? d other := by
  induction d with
  | nil => simp [erase, find?_nil]
  | cons entry d ih =>
    unfold erase at ih ⊢
    rw [List.filter_cons]
    by_cases h : entry.form = form
    · simp only [h, bne_self_eq_false, Bool.false_eq_true, ↓reduceIte, ih, find?_cons]
      split <;> simp_all
    · simp only [bne_iff_ne, ne_eq, h, not_false_eq_true, ↓reduceIte, find?_cons, ih]
      by_cases hf : form = other
      · simp [hf, hf ▸ h]
      · simp [hf]

end Dict

namespace Guest

/-- Whether an identity stands for an object that there is. -/
def Holds (g : Guest) (id : Identity) : Prop := id.index < g.heap.size

instance (g : Guest) (id : Identity) : Decidable (g.Holds id) :=
  inferInstanceAs (Decidable (id.index < g.heap.size))

theorem object_withBody_of_ne {id other : Identity} (g : Guest) (hne : other ≠ id) (body : Body) :
    (g.withBody id body).object other = g.object other := by
  have hi : id.index ≠ other.index := by
    intro hi
    cases other; cases id
    simp_all
  simp [object, withBody, Array.getD_eq_getD_getElem?, Array.getElem?_modify, hi]

theorem object_withBody {g : Guest} {id : Identity} (h : g.Holds id) (body : Body)
    (other : Identity) :
    (g.withBody id body).object other = if other = id then { g.object id with body } else g.object other := by
  by_cases he : other = id
  · subst he
    unfold Holds at h
    simp [object, withBody, Array.getElem_modify, Array.getD_eq_getD_getElem?, h]
  · rw [object_withBody_of_ne g he, if_neg he]

@[simp] theorem size_withBody (g : Guest) (id : Identity) (body : Body) :
    (g.withBody id body).heap.size = g.heap.size := by
  simp [withBody]

theorem body_withBody_dict (g : Guest) (id : Identity) (d : Dict) :
    (g.withBody id (.dict d)).body id = if g.Holds id then .dict d else .none := by
  by_cases h : g.Holds id
  · rw [body, object_withBody h, if_pos rfl, if_pos h]
  · rw [if_neg h]
    unfold Holds at h
    have hnone : g.heap[id.index]? = none := Array.getElem?_eq_none (Nat.le_of_not_lt h)
    simp [body, object, withBody, Array.getD_eq_getD_getElem?, Array.getElem?_modify, hnone, default]

theorem entries_withBody {g : Guest} {id : Identity} (h : g.Holds id) (d : Dict) :
    (g.withBody id (.dict d)).entries id = d := by
  simp [entries, body, object_withBody h]

/-- The interpreter with some objects more, none of which belongs to a class of a script or has
attributes of its own. -/
def Adds (g g' : Guest) : Prop :=
  ∃ (bodies : List Body) (constants : Std.HashMap (Nat × Constant) Identity),
    g' = { g with heap := g.heap ++ (bodies.map fun body => { body : Object }).toArray, constants }

namespace Adds
variable {g g' g'' : Guest}

theorem refl (g : Guest) : Adds g g := ⟨[], g.constants, by simp⟩

theorem trans (h : Adds g g') (h' : Adds g' g'') : Adds g g'' := by
  obtain ⟨bodies, constants, rfl⟩ := h
  obtain ⟨bodies', constants', rfl⟩ := h'
  exact ⟨bodies ++ bodies', constants', by simp⟩

theorem size_le (h : Adds g g') : g.heap.size ≤ g'.heap.size := by
  obtain ⟨bodies, constants, rfl⟩ := h
  simp

theorem holds (h : Adds g g') {id : Identity} (hid : g.Holds id) : g'.Holds id :=
  Nat.lt_of_lt_of_le hid h.size_le

theorem object_eq (h : Adds g g') {id : Identity} (hid : g.Holds id) : g'.object id = g.object id := by
  obtain ⟨bodies, constants, rfl⟩ := h
  unfold Holds at hid
  simp [object, Array.getD_eq_getD_getElem?, Array.getElem?_append, hid]

theorem entries_eq (h : Adds g g') {id : Identity} (hid : g.Holds id) :
    g'.entries id = g.entries id := by
  simp [entries, body, h.object_eq hid]

theorem fresh (h : Adds g g') {id : Identity} (hid : ¬ g.Holds id) :
    (g'.object id).home = none ∧ (g'.object id).attributes = none := by
  obtain ⟨bodies, constants, rfl⟩ := h
  unfold Holds at hid
  simp only [object, Array.getD_eq_getD_getElem?, Array.getElem?_append, hid, ↓reduceIte]
  cases hb : bodies[id.index - g.heap.size]? with
  | none => simp [hb, default]
  | some body => simp [hb]

theorem push (g : Guest) (body : Body) : Adds g (g.adding { body }) :=
  ⟨[body], g.constants, by simp [adding]⟩

end Adds

theorem object_adding (g : Guest) (o : Object) : (g.adding o).object g.next = o := by
  simp [object, adding, next, Array.getD_eq_getD_getElem?]

theorem body_of_constant? {b : Body} {c : Constant} (h : b.constant? = some c) : b = c.body := by
  cases b <;> simp only [Body.constant?, Option.some.injEq, reduceCtorEq] at h
  case tuple items =>
    split at h
    · cases h
      simp_all [Constant.body]
    · cases h
  all_goals subst h; rfl

theorem constant?_eq_some {g : Guest} {id : Identity} {c : Constant} (h : g.constant? id = some c) :
    g.Holds id ∧ g.isExact id = true ∧ g.body id = c.body := by
  unfold constant? at h
  obtain ⟨o, ho, hc⟩ := Option.bind_eq_some_iff.mp h
  have hid : g.object id = o := by simp [object, Array.getD_eq_getD_getElem?, ho]
  obtain ⟨hlt, _⟩ := Array.getElem?_eq_some_iff.mp ho
  split at hc
  · cases hc
  · next hhome =>
    refine ⟨hlt, ?_, ?_⟩
    · simpa [isExact, home?, hid] using hhome
    · rw [body, hid]
      exact body_of_constant? hc

end Guest

namespace GuestM
open Stepping

/-- A constant is an exact object of its body, new or met before. -/
theorem internIn_run (script : Nat) (c : Constant) (context : Context) (g : Guest) :
    ∃ id g', internIn script c context g = .ok id g' ∧ g.Adds g' ∧
      g'.Holds id ∧ g'.isExact id = true ∧ g'.body id = c.body := by
  unfold internIn
  rw [reader_modifyGet_run]
  cases hc : (g.constants[(script, c)]?).filter fun id => g.constant? id == some c with
  | some id =>
    have hid : g.constant? id = some c := by
      obtain ⟨_, hb⟩ := Option.filter_eq_some_iff.mp hc
      simpa using hb
    exact ⟨id, g, rfl, .refl g, Guest.constant?_eq_some hid⟩
  | none =>
    refine ⟨_, _, rfl, ⟨[c.body], _, by simp; rfl⟩, ?_, ?_, ?_⟩
    · simp [Guest.Holds, Guest.next]
    · simp [Guest.isExact, Guest.home?, Guest.object, Guest.next, Array.getD_eq_getD_getElem?]
    · simp [Guest.body, Guest.object, Guest.next, Array.getD_eq_getD_getElem?]

theorem allocate_run (body : Body) (context : Context) (g : Guest) :
    allocate body Option.none context g = .ok g.next (g.adding { body }) := rfl

theorem name_run (t : Text) (context : Context) (g : Guest) :
    ∃ id g', name t context g = .ok id g' ∧ g.Adds g' ∧ g'.body id = .text t := by
  unfold name
  split
  · obtain ⟨id, g', hrun, hadds, _, _, hbody⟩ := internIn_run 0 (.text t) context g
    exact ⟨id, g', hrun, hadds, hbody⟩
  · exact ⟨_, _, rfl, .push g _, by simp [Guest.body, Guest.object_adding]⟩

theorem setName_run (namespaceDict : Identity) (t : Text) (value : Identity) (context : Context)
    (g : Guest) : ∃ key g', g.Adds g' ∧ setName namespaceDict t value context g =
      .ok ⟨⟩ (g'.withBody namespaceDict
        (.dict ((g'.entries namespaceDict).insert [.text t] key value))) := by
  obtain ⟨key, g', hrun, hadds, _⟩ := name_run t context g
  exact ⟨key, g', hadds, by simp [setName, hrun]⟩

end GuestM

namespace Guest

theorem lookup_insert {g g' : Guest} {n : Identity} (hn : g.Holds n) (h : g.Adds g') (t other : Text)
    (key value : Identity) :
    (g'.withBody n (.dict ((g'.entries n).insert [.text t] key value))).lookup n other =
      if t = other then some value else g.lookup n other := by
  rw [lookup, entries_withBody (h.holds hn), Dict.find?_insert, h.entries_eq hn]
  simp [lookup]

theorem lookup_erase {g : Guest} {n : Identity} (hn : g.Holds n) (t other : Text) :
    (g.withBody n (.dict ((g.entries n).erase [.text t]))).lookup n other =
      if t = other then none else g.lookup n other := by
  rw [lookup, entries_withBody hn, Dict.find?_erase]
  simp [lookup]

end Guest
end ScriptHost
