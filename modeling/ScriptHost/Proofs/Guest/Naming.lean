import ScriptHost.Proofs.Guest.Proceeding

/-! A namespace that comes up in an interpreter: a dictionary of its own, in which names are bound one after the other,
each under a key that is its text. -/
namespace ScriptHost

namespace Dict

/-- An insertion keeps the keys that are there, and adds none but its own. -/
theorem key_of_mem_insert {d : Dict} {form : Key} {key value : Identity} {entry : DictEntry}
    (h : entry ∈ d.insert form key value) :
    entry.form = form ∧ entry.key = key ∨ ∃ old ∈ d, entry.form = old.form ∧ entry.key = old.key := by
  induction d with
  | nil =>
    obtain rfl := List.mem_singleton.mp h
    exact .inl ⟨rfl, rfl⟩
  | cons first d ih =>
    rw [insert] at h
    split at h
    · rcases List.mem_cons.mp h with rfl | hrest
      · exact .inr ⟨first, List.mem_cons_self, rfl, rfl⟩
      · exact .inr ⟨entry, List.mem_cons_of_mem _ hrest, rfl, rfl⟩
    · rcases List.mem_cons.mp h with rfl | hrest
      · exact .inr ⟨entry, List.mem_cons_self, rfl, rfl⟩
      · rcases ih hrest with hnew | ⟨old, hold, hsame⟩
        · exact .inl hnew
        · exact .inr ⟨old, List.mem_cons_of_mem _ hold, hsame⟩

end Dict

namespace Guest
variable {W : Identity → Prop} {g g' : Guest} {n d id : Identity} {names : Text → Option Identity}

theorem holds_of_text {t : Text} (h : g.body id = .text t) : g.Holds id := by
  by_contra hout
  have hnone : g.heap[id.index]? = none := Array.getElem?_eq_none (Nat.le_of_not_lt hout)
  rw [body, object, Array.getD_eq_getD_getElem?, hnone] at h
  cases h

theorem text_ne_dict {t : Text} (h : g.body id = .text t) (hd : g.isDict d = true) : id ≠ d := by
  rintro rfl
  rw [isDict, h] at hd
  cases hd

/-- Every key of a dictionary is the text that it is held under. -/
def HasTextKeys (g : Guest) (d : Identity) : Prop :=
  ∀ entry ∈ g.entries d, ∃ t, entry.form = [.text t] ∧ g.body entry.key = .text t

/-- A dictionary of the interpreter's own class, where names stand for objects. -/
structure IsNamespace (g : Guest) (n : Identity) (names : Text → Option Identity) : Prop where
  held : g.Holds n
  dict : g.isDict n = true
  own : g.home? n = none
  keys : g.HasTextKeys n
  lookup : ∀ t, g.lookup n t = names t

namespace IsNamespace

/-- Other dictionaries are written. -/
theorem beside (h : g.IsNamespace n names) (hproceeds : g.Proceeds W g') (hn : ¬ W n)
    (hdict : ∀ id, W id → g.isDict id = true) : g'.IsNamespace n names where
  held := hproceeds.holds h.held
  dict := hproceeds.dict n h.held h.dict
  own := by rw [home?, hproceeds.object n h.held hn, ← home?, h.own]
  keys := fun entry hentry => by
    rw [entries, hproceeds.body_eq h.held hn, ← entries] at hentry
    obtain ⟨t, hform, hbody⟩ := h.keys entry hentry
    have hkey : ¬ W entry.key := fun hw => text_ne_dict hbody (hdict _ hw) rfl
    exact ⟨t, hform, (hproceeds.body_eq (holds_of_text hbody) hkey).trans hbody⟩
  lookup t := (hproceeds.lookup_eq h.held hn t).trans (h.lookup t)

theorem kept (h : g.IsNamespace n names) (hproceeds : g.Proceeds (fun _ => False) g') : g'.IsNamespace n names :=
  h.beside hproceeds not_false nofun

/-- A dictionary comes up without names. -/
theorem adding (g : Guest) : (g.adding { body := .dict [] }).IsNamespace g.next fun _ => none where
  held := by simp [Holds, next, Guest.adding]
  dict := by rw [isDict, body, object_adding]
  own := by rw [home?, object_adding]
  keys := fun entry hentry => by
    rw [entries, body, object_adding] at hentry
    cases hentry
  lookup t := by
    rw [Guest.lookup, entries, body, object_adding]
    rfl

/-- An entry is inserted under a key that is its text. -/
theorem insert (h : g.IsNamespace n names) {t : Text} {key : Identity} (hkey : g.body key = .text t)
    (value : Identity) : (g.withBody n (.dict ((g.entries n).insert [.text t] key value))).IsNamespace n
      fun other => if t = other then some value else names other := by
  have hwritten := proceeds_withBody h.held ((g.entries n).insert [.text t] key value)
  have hbody (id : Identity) (t' : Text) (hid : g.body id = .text t') :
      (g.withBody n (.dict ((g.entries n).insert [.text t] key value))).body id = .text t' :=
    (hwritten.body_eq (holds_of_text hid) (text_ne_dict hid h.dict)).trans hid
  refine ⟨hwritten.holds h.held, hwritten.dict n h.held h.dict, ?_, fun entry hentry => ?_, fun other => ?_⟩
  · rw [home?, object_withBody h.held, if_pos rfl]
    exact h.own
  · rw [entries_withBody h.held] at hentry
    rcases Dict.key_of_mem_insert hentry with ⟨hform, hsame⟩ | ⟨old, hold, hform, hsame⟩
    · exact ⟨t, hform, hsame ▸ hbody key t hkey⟩
    · obtain ⟨t', hform', hkey'⟩ := h.keys old hold
      exact ⟨t', hform.trans hform', hsame ▸ hbody old.key t' hkey'⟩
  · rw [lookup_insert h.held (.refl g), h.lookup]

end IsNamespace
end Guest

namespace GuestM
open Stepping Guest
variable {g : Guest} {n : Identity} {names : Text → Option Identity}

/-- A name of the namespace is bound. -/
theorem setName_isNamespace (h : g.IsNamespace n names) (t : Text) (value : Identity) (context : Context) :
    ∃ g', setName n t value context g = .ok ⟨⟩ g' ∧ g.Proceeds (· = n) g' ∧
      g'.IsNamespace n fun other => if t = other then some value else names other := by
  obtain ⟨key, g₁, hname, hadds, hkey⟩ := name_run t context g
  exact ⟨_, by simp [setName, hname], hadds.proceeds.trans (proceeds_withBody (hadds.holds h.held) _),
    (h.kept hadds.proceeds).insert hkey value⟩

end GuestM
end ScriptHost
