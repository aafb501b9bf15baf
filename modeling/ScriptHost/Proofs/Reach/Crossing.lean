import ScriptHost.Proofs.Handle.Registry
import ScriptHost.Proofs.Reach.Execution

/-! Crossings stay within a set of objects: the namespace that keeps the objects of handles may be outside of it, and
then nothing but its entries for handles changes. -/
namespace ScriptHost
open Stepping

variable {P : Identity → Prop} {α β : Type} [Refers α] [Refers β] {id n : Identity} {g g' g'' : Guest}

/-- Whether an entry of a namespace has a name of those that the registry takes for its entries. -/
def DictEntry.isParked (entry : DictEntry) : Bool :=
  match entry.form with
  | [.text name] => name.startsWith (.ofString Identity.keyMark)
  | _ => false

namespace Dict

/-- The entries but for those that keep the objects of handles. -/
def names (d : Dict) : Dict := d.filter fun entry => !entry.isParked

theorem isParked_of_form {entry : DictEntry} (h : entry.form = [.text id.entryName]) : entry.isParked = true := by
  rw [DictEntry.isParked, h]
  exact id.startsWith_entryName

theorem names_insert (d : Dict) (id key value : Identity) :
    names (d.insert [.text id.entryName] key value) = d.names := by
  induction d with
  | nil => simp [insert, names, show DictEntry.isParked ⟨[.text id.entryName], key, value⟩ = true from isParked_of_form rfl]
  | cons entry d ih =>
    rw [insert]
    split
    · next hform =>
      have hparked : DictEntry.isParked { entry with value } = true := isParked_of_form hform
      simp [names, hparked, isParked_of_form hform]
    · unfold names at ih ⊢
      rw [List.filter_cons, List.filter_cons, ih]

theorem names_erase (d : Dict) (id : Identity) : names (d.erase [.text id.entryName]) = d.names := by
  unfold names erase
  rw [List.filter_filter]
  refine List.filter_congr fun entry _ => ?_
  by_cases hform : entry.form = [.text id.entryName]
  · simp [isParked_of_form hform]
  · simp [hform]

/-- What stands under a key that is none of the registry's stands there without its entries. -/
theorem find?_names (d : Dict) {form : Key}
    (hform : ∀ t : Text, form = [.text t] → t.startsWith (.ofString Identity.keyMark) = false) :
    find? d.names form = d.find? form := by
  simp only [names, find?, ← List.head?_filter, List.filter_filter]
  rw [List.filter_congr fun entry _ => ?_]
  by_cases h : entry.form = form
  · have hparked : entry.isParked = false := by
      unfold DictEntry.isParked
      split
      · next t ht => exact hform t (h.symm.trans ht)
      · rfl
    simp [h, hparked]
  · simp [h]

end Dict

namespace Guest

/-- The entries of a namespace but for those that keep the objects of handles. -/
def names (g : Guest) (n : Identity) : Dict := (g.entries n).names

theorem lookup_eq_of_names {g g' : Guest} {n : Identity} {name : Text} (h : g'.names n = g.names n)
    (hname : name.startsWith (.ofString Identity.keyMark) = false) : g'.lookup n name = g.lookup n name := by
  have hform (t : Text) (ht : ([.text name] : Key) = [.text t]) : t.startsWith (.ofString Identity.keyMark) = false := by
    obtain rfl : name = t := by simpa using ht
    exact hname
  rw [lookup, lookup, ← Dict.find?_names _ hform, ← Dict.find?_names (g.entries n) hform]
  exact congrArg (Dict.find? · [.text name]) h

/-- Nothing but objects of a set have changed and, in the namespace of the handles, the entries that keep their objects.
All that the namespace holds is in the set. -/
structure CrossesWithin (P : Identity → Prop) (n : Identity) (g g' : Guest) : Prop where
  closed : Within P g'
  kept : Within P (g'.entries n)
  object : ∀ id, ¬ P id → id ≠ n → g'.object id = g.object id
  names : ¬ P n → g'.names n = g.names n
  system : g'.system = g.system
  builtins : g'.builtins = g.builtins
  modules : g'.modules = g.modules
  prints : g.Prints g'

theorem ChangesWithin.entries_eq (h : g.ChangesWithin P g') (hid : ¬ P id) : g'.entries id = g.entries id := by
  rw [entries, body, h.object id hid, entries, body]

theorem ChangesWithin.crosses (h : g.ChangesWithin P g') (hkept : Within P (g.entries n)) : g.CrossesWithin P n g' where
  closed := h.closed
  kept := by
    by_cases hn : P n
    · exact within_entries h.closed hn
    · rwa [h.entries_eq hn]
  object := fun id hid _ => h.object id hid
  names := fun hn => by rw [names, h.entries_eq hn, names]
  system := h.system
  builtins := h.builtins
  modules := h.modules
  prints := h.prints

namespace CrossesWithin

theorem refl (h : Within P g) (hkept : Within P (g.entries n)) : g.CrossesWithin P n g :=
  (ChangesWithin.refl h).crosses hkept

theorem trans (h : g.CrossesWithin P n g') (h' : g'.CrossesWithin P n g'') : g.CrossesWithin P n g'' where
  closed := h'.closed
  kept := h'.kept
  object := fun id hid hne => (h'.object id hid hne).trans (h.object id hid hne)
  names := fun hn => (h'.names hn).trans (h.names hn)
  system := h'.system.trans h.system
  builtins := h'.builtins.trans h.builtins
  modules := h'.modules.trans h.modules
  prints := h.prints.trans h'.prints

end CrossesWithin

/-- What a dictionary outside of the set holds is of no concern to the set. -/
theorem closed_withDict (h : g.IsClosed P) (hn : ¬ P n) (d : Dict) : (g.withBody n (.dict d)).IsClosed P where
  outside := fun id hid => (congrArg (id.index < ·) (size_withBody g n _)).mpr (h.outside id hid)
  classes := fun id made hmade => by
    by_cases hne : id = n
    · rw [hne, body_withBody_dict, if_pos (h.outside n hn)] at hmade
      cases hmade
    · rw [body, object_withBody_of_ne g hne] at hmade
      exact h.classes id made hmade
  default := h.default
  object := fun id hid => by
    have hne : id ≠ n := fun he => hn (he ▸ hid)
    rw [object_withBody_of_ne g hne]
    exact h.object id hid
  system := h.system
  builtins := h.builtins
  modules := h.modules
  standardModules := h.standardModules
  constants := h.constants

/-- The namespace gets other entries, of which only those for handles differ. -/
theorem crosses_withBody {d : Dict} (h : Within P g) (hd : Within P d) (hnames : d.names = g.names n) :
    g.CrossesWithin P n (g.withBody n (.dict d)) := by
  by_cases hn : P n
  · have hbody : Within P (Body.dict d) := by simpa using hd
    have hchanges := changesWithin_withBody h hn hbody
    exact hchanges.crosses (within_entries h hn)
  have hentries : (g.withBody n (.dict d)).entries n = d := entries_withBody (h.outside n hn) d
  exact
    { closed := closed_withDict h hn d
      kept := by rwa [hentries]
      object := fun id _ hne => object_withBody_of_ne g hne _
      names := fun _ => by rw [names, hentries, hnames]
      system := rfl
      builtins := rfl
      modules := rfl
      prints := .of_same (Nat.le_of_eq (size_withBody g n _).symm) rfl rfl rfl }

end Guest

/-! ### Crossings -/

instance : Inert Release := ⟨⟩

instance : Inert Level := ⟨⟩

namespace Transfer
variable {t t' t'' : Transfer}

/-- A crossing whose interpreter keeps to a set, with a namespace that holds nothing but objects of it. -/
structure IsWithin (P : Identity → Prop) (t : Transfer) : Prop where
  guest : Within P t.guest
  kept : Within P (t.guest.entries t.namespaceDict)

instance : Refers Transfer := ⟨IsWithin⟩

theorem within_guest (h : Within P t) : Within P t.guest := IsWithin.guest h

grind_pattern within_guest => Within P t, t.guest

/-- A crossing goes on with the same namespace, and changes nothing but objects of a set. Hooks are told of nothing but
lines. -/
structure CrossesWithin (P : Identity → Prop) (t t' : Transfer) : Prop where
  namespaceDict : t'.namespaceDict = t.namespaceDict
  guest : t.guest.CrossesWithin P t.namespaceDict t'.guest
  notices : t'.guest.notices = t.guest.notices

namespace CrossesWithin

theorem within (h : t.CrossesWithin P t') : Within P t' := ⟨h.guest.closed, h.namespaceDict ▸ h.guest.kept⟩

theorem refl (h : Within P t) : t.CrossesWithin P t := ⟨rfl, .refl h.guest h.kept, rfl⟩

theorem trans (h : t.CrossesWithin P t') (h' : t'.CrossesWithin P t'') : t.CrossesWithin P t'' :=
  ⟨h'.namespaceDict.trans h.namespaceDict, h.guest.trans (h.namespaceDict ▸ h'.guest), h'.notices.trans h.notices⟩

end CrossesWithin
end Transfer

namespace TransferM

/-- A crossing that spares what is outside of a set, and answers with nothing from there. -/
def Spares (P : Identity → Prop) (run : TransferM α) : Prop :=
  ∀ t, Within P t → Ends run t fun answer t' => t.CrossesWithin P t' ∧ Within P answer

namespace Spares

@[grind ←] protected theorem pure {a : α} (h : Within P a) : Spares P (Pure.pure a : TransferM α) :=
  fun _ ht => .of_ok rfl ⟨.refl ht, by simpa using h⟩

@[grind ←] protected theorem throw (f : Fault) : Spares P (throw f : TransferM α) :=
  fun _ ht => .of_error rfl ⟨.refl ht, by simp⟩

@[grind ←] protected theorem bind {m : TransferM α} {f : α → TransferM β} (h : m.Spares P)
    (hf : ∀ a, Within P a → (f a).Spares P) : Spares P (m >>= f) := fun t ht => by
  refine (h t ht).bind (fun a t' ht' => ?_) fun e t' ht' => ⟨ht'.1, by simp⟩
  exact (hf a (by simpa using ht'.2) t' ht'.1.within).mono fun r t'' ht'' => ⟨ht'.1.trans ht''.1, ht''.2⟩

@[grind ←] protected theorem map {m : TransferM α} {f : α → β} (h : m.Spares P)
    (hf : ∀ a, Within P a → Within P (f a)) : Spares P (f <$> m) := .bind h fun a ha => .pure (hf a ha)

@[grind ←] protected theorem discard {m : TransferM α} (h : m.Spares P) : Spares P (discard m) :=
  .map h fun _ _ => trivial

@[grind ←] protected theorem get : Spares P (MonadState.get : TransferM Transfer) :=
  fun _ ht => .of_ok rfl ⟨.refl ht, by simpa using ht⟩

@[grind ←] protected theorem tryCatch {m : TransferM α} {f : Fault → TransferM α} (h : m.Spares P)
    (hf : ∀ e, (f e).Spares P) : Spares P (tryCatch m f) := fun t ht => by
  have hm := h t ht
  cases hrun : m t with
  | ok a t' => exact .of_ok (by rw [tryCatch_run, hrun]) (hm.at_ok hrun)
  | error e t' =>
    obtain ⟨hcrosses, -⟩ := hm.at_error hrun
    have hafter := (hf e t' hcrosses.within).mono fun r t'' h =>
      show t.CrossesWithin P t'' ∧ Within P r from ⟨hcrosses.trans h.1, h.2⟩
    unfold Ends at hafter ⊢
    rwa [tryCatch_run, hrun]

@[grind ←] protected theorem attempt {m : TransferM α} (h : m.Spares P) : Spares P (attempt m) :=
  .tryCatch (.map h fun a ha => (within_ok a).mpr ha) fun e => .pure (by simp)

/-- What a crossing notes beside the interpreter changes. -/
protected theorem modify {f : Transfer → Transfer} (hguest : ∀ t, (f t).guest = t.guest)
    (hnamespace : ∀ t, (f t).namespaceDict = t.namespaceDict) : Spares P (modify f : TransferM PUnit) := fun t ht =>
  .of_ok rfl ⟨⟨hnamespace t, (hguest t).symm ▸ .refl ht.guest ht.kept, congrArg Guest.notices (hguest t)⟩, by simp⟩

@[grind ←] protected theorem guest {run : GuestM α} (h : run.Spares P) : Spares P (TransferM.guest run) := fun t ht => by
  have hrun := GuestM.atTop_spares h ht.guest
  have hguest := guest_run run t
  cases hended : GuestM.atTop run t.guest with
  | ok a g =>
    rw [hended] at hguest
    obtain ⟨hchanges, ha⟩ := hrun.at_ok hended
    exact .of_ok hguest ⟨⟨rfl, hchanges.crosses ht.kept, hchanges.notices⟩, ha⟩
  | error f g =>
    rw [hended] at hguest
    obtain ⟨hchanges, ha⟩ := hrun.at_error hended
    exact .of_error hguest ⟨⟨rfl, hchanges.crosses ht.kept, hchanges.notices⟩, ha⟩

end Spares

@[grind ←] theorem spares_record (level : Level) (source : Source) (message : String) :
    Spares P (record level source message) := .guest (GuestM.spares_record level source message)

/-! ### Handles -/

/-- An entry for a handle is written. -/
private theorem setName_crosses {t : Transfer} (ht : Within P t) (hid : P id) :
    Ends (guest (GuestM.setName t.namespaceDict id.entryName id)) t fun answer t' =>
      t.CrossesWithin P t' ∧ Within P answer := by
  obtain ⟨key, g, hname, -⟩ := GuestM.name_run id.entryName t.guest.topContext t.guest
  have hrun : GuestM.atTop (GuestM.setName t.namespaceDict id.entryName id) t.guest = .ok ⟨⟩
      (g.withBody t.namespaceDict (.dict ((g.entries t.namespaceDict).insert [.text id.entryName] key id))) := by
    simp [GuestM.atTop_eq, GuestM.setName, hname]
  obtain ⟨hchanges, hkey⟩ := (GuestM.atTop_spares (GuestM.spares_name (P := P) id.entryName) ht.guest).at_ok hname
  have hcrosses := hchanges.crosses ht.kept
  have hguest := guest_run (GuestM.setName t.namespaceDict id.entryName id) t
  rw [hrun] at hguest
  refine .of_ok hguest ⟨⟨rfl, hcrosses.trans (Guest.crosses_withBody hcrosses.closed ?_ ?_), hchanges.notices⟩, by simp⟩
  · exact Dict.within_insert (by simp) ((within_ok _).mp hkey) hid hcrosses.kept
  · exact Dict.names_insert _ _ _ _

@[grind ←] theorem spares_acquire (hid : P id) : Spares P (acquire id) := fun t ht => by
  unfold acquire
  refine .bind_of_ok (get_run t) ?_
  refine (setName_crosses ht hid).bind (fun _ t' ht' => ?_) fun e t' ht' => ⟨ht'.1, by simp⟩
  have hrest : Spares P (do
      modify fun t => { t with counts := t.counts.acquire id }
      let count := (← MonadState.get).counts.count id
      record .trace .handle ("[Handles] acquire " ++ toString id ++ " -> " ++ toString count)) :=
    .bind (.modify (fun _ => rfl) fun _ => rfl) fun _ _ => .bind .get fun _ _ => spares_record _ _ _
  exact (hrest t' ht'.1.within).mono fun r t'' h => ⟨ht'.1.trans h.1, h.2⟩

@[grind ←] theorem spares_retain (id : Identity) : Spares P (retain id) := by
  unfold retain
  refine .bind .get fun t _ => ?_
  split
  · exact .pure (by simp)
  · exact .bind (.modify (fun _ => rfl) fun _ => rfl) fun _ _ => .bind (spares_record _ _ _) fun _ _ => .pure (by simp)

/-- The entry for a handle is taken out. -/
@[grind ←] theorem spares_erase (id : Identity) : Spares P (erase id) := fun t ht => by
  unfold erase
  refine .bind_of_ok (get_run t) (.bind_of_ok (get_run t) ?_)
  split
  · have hcrosses := Guest.crosses_withBody ht.guest (Dict.within_erase _ ht.kept) (Dict.names_erase _ id)
    exact .of_ok rfl ⟨⟨rfl, hcrosses, rfl⟩, by simp⟩
  · exact spares_record _ _ _ t ht

@[grind ←] theorem spares_release (id : Identity) : Spares P (release id) := by
  unfold release
  refine .bind .get fun t _ => ?_
  dsimp only
  refine .bind (.modify (fun _ => rfl) fun _ => rfl) fun _ _ => ?_
  split <;> repeat' first | with_reducible refine .bind ?_ fun _ _ => ?_
  all_goals grind

@[grind ←] theorem spares_releaseAll (ids : List Identity) : Spares P (releaseAll ids) := by
  induction ids with
  | nil => exact .pure trivial
  | cons id ids ih =>
    unfold releaseAll
    exact .bind (spares_release id) fun _ _ => .bind ih fun _ _ => .pure trivial

/-- What the namespace keeps for a handle is in the set. -/
@[grind ←] theorem spares_resolve (id : Identity) : Spares P (resolve id) :=
  .bind .get fun _ ht => .pure (Dict.within_find? ht.kept _)

end TransferM
end ScriptHost
