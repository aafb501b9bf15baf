import ScriptHost.Evaluator.Evaluation
import ScriptHost.Proofs.Guest.Proceeding

/-! Attributes of the system module, and the module search path among them: what it is when it has been reset, and
what leaves it as it is. -/
namespace ScriptHost
open Stepping

namespace Guest
variable {W : Identity → Prop} {g g' : Guest} {path : List String}

/-- A list of texts, in the interpreter. -/
structure IsTextList (g : Guest) (id : Identity) (texts : List String) : Prop where
  holds : g.Holds id
  exact : g.isExact id = true
  items : ∃ items, g.body id = .list items ∧ (∀ item ∈ items.toList, g.Holds item) ∧
    items.toList.map g.text? = texts.map fun text => some (.ofString text)

/-- What is no dictionary is not written where nothing but dictionaries is. -/
private theorem not_written {id : Identity} (hdict : ∀ id, W id → g.isDict id = true) (h : g.isDict id = false) :
    ¬ W id := fun hw => by rw [hdict id hw] at h; cases h

theorem IsTextList.proceeds {id : Identity} {texts : List String} (hlist : g.IsTextList id texts)
    (h : g.Proceeds W g') (hdict : ∀ id, W id → g.isDict id = true) : g'.IsTextList id texts := by
  obtain ⟨hid, hexact, items, hbody, hitems, htexts⟩ := hlist
  have hw : ¬ W id := not_written hdict (by rw [isDict, hbody])
  refine ⟨h.holds hid, ?_, items, by rw [h.body_eq hid hw, hbody], fun item hi => h.holds (hitems item hi), ?_⟩
  · rw [isExact, home?, h.object id hid hw]
    exact hexact
  · rw [← htexts]
    refine List.map_congr_left fun item hi => ?_
    have hmem : g.text? item ∈ texts.map fun text => some (Text.ofString text) :=
      htexts ▸ List.mem_map_of_mem hi
    obtain ⟨text, _, htext⟩ := List.mem_map.mp hmem
    have hw : ¬ W item := not_written hdict <| by
      rw [text?] at htext
      rw [isDict]
      cases hb : g.body item <;> simp_all
    rw [text?, h.body_eq (hitems item hi) hw, text?]

/-- An interpreter with its system module in place, whose search path is a list of texts. -/
structure HasPath (g : Guest) (path : List String) : Prop extends g.HasSystem where
  found : ∃ id, g.lookup g.system (.ofString "path") = some id ∧ g.IsTextList id path

/-- The search path stays as it is where nothing is written but dictionaries, and not its name. -/
theorem HasPath.proceeds (hg : g.HasPath path) (h : g.Proceeds W g') (hdict : ∀ id, W id → g.isDict id = true)
    (hkept : g'.lookup g.system (.ofString "path") = g.lookup g.system (.ofString "path")) : g'.HasPath path where
  toHasSystem := hg.toHasSystem.proceeds h hdict
  found := by
    obtain ⟨id, hlookup, hlist⟩ := hg.found
    exact ⟨id, by rw [h.system, hkept, hlookup], hlist.proceeds h hdict⟩

/-- A namespace apart from the attributes of the system module is written without a change to the search path. -/
theorem HasPath.written {d : Identity} (hg : g.HasPath path) (h : g.Proceeds (· = d) g') (hd : g.isDict d = true)
    (hne : d ≠ g.system) : g'.HasPath path :=
  hg.proceeds h (fun _ hid => hid ▸ hd) (h.lookup_eq hg.system.1 (Ne.symm hne) _)

/-- Nothing that was there is written. -/
theorem HasPath.kept (hg : g.HasPath path) (h : g.Proceeds (fun _ => False) g') : g'.HasPath path :=
  hg.proceeds h (fun _ hid => hid.elim) (h.lookup_eq hg.system.1 id _)

end Guest

namespace GuestM
open Guest
variable {g : Guest} {module : Identity} {path : List String}

/-- An attribute of the system module is set under its name and under no other. -/
theorem setAttribute_of_hasSystem (hg : g.HasSystem) (hfiled : g.standardModules.lookup "sys" = some module)
    {name : String} (hname : name ≠ "__dict__") (value : Identity) (context : Context) :
    ∃ g', setAttribute module name value context g = .ok ⟨⟩ g' ∧ g.Proceeds (· = g.system) g' ∧
      ∀ other : String, g'.lookup g.system (.ofString other) =
        if name = other then some value else g.lookup g.system (.ofString other) := by
  obtain ⟨found, hfound, _, hhome, hbody⟩ := hg.module
  obtain rfl : found = module := Option.some.inj (hfound.symm.trans hfiled)
  obtain ⟨g', hrun, hproceeds, hlookup⟩ := setName_proceeds hg.system.1 (.ofString name) value context
  refine ⟨g', by rw [setAttribute_of_module hhome hbody hname, hrun], hproceeds, fun other => ?_⟩
  rw [hlookup]
  simp [Text.ofString_injective.eq_iff]

/-- A list of texts is made. -/
theorem texts_run (texts : List String) (context : Context) (g : Guest) : ∃ ids id g₁ g',
    texts.mapM string context g = .ok ids g₁ ∧ list ids context g₁ = .ok id g' ∧ g.Adds g' ∧
      g'.IsTextList id texts := by
  obtain ⟨ids, g₁, hrun, hadds, hids, htexts⟩ := strings_run texts context g
  have hpush := Adds.push g₁ (.list ids.toArray)
  refine ⟨ids, g₁.next, g₁, _, hrun, allocate_run _ context g₁, hadds.trans hpush, ?_, ?_, ids.toArray, ?_, ?_, ?_⟩
  · simp [Guest.Holds, Guest.next, Guest.adding]
  · rw [Guest.isExact, Guest.home?, object_adding]
    rfl
  · rw [body, object_adding]
  · exact fun item hi => hpush.holds (hids item hi)
  · rw [← htexts, List.toList_toArray]
    refine List.map_congr_left fun item hi => ?_
    rw [text?, body, hpush.object_eq (hids item hi), ← body, ← text?]

/-- A search path that has been reset is the one that was asked for, whatever stood in its place. -/
theorem resetSearchPath_of_hasSystem (hg : g.HasSystem) (path : List String) (context : Context) :
    ∃ g', resetSearchPath path context g = .ok ⟨⟩ g' ∧ g.Proceeds (· = g.system) g' ∧ g'.HasPath path ∧
      ∀ name, name ≠ "path" → g'.lookup g.system (.ofString name) = g.lookup g.system (.ofString name) := by
  obtain ⟨module, hfiled, _⟩ := hg.module
  obtain ⟨ids, id, g₁, g₂, hrun₁, hrun₂, hadds, hlist⟩ := texts_run path context g
  have hproceeds₂ := hadds.proceeds (W := fun _ => False)
  have hfiled₂ : g₂.standardModules.lookup "sys" = some module := by rw [hproceeds₂.standardModules, hfiled]
  have hg₂ := hg.proceeds hproceeds₂ fun _ hid => hid.elim
  obtain ⟨g₃, hrun₃, hproceeds₃, hlookup₃⟩ :=
    setAttribute_of_hasSystem hg₂ hfiled₂ (show "path" ≠ "__dict__" by decide) id context
  have hdict : ∀ id, id = g₂.system → g₂.isDict id = true := fun id hid => hid ▸ hg₂.system.2
  refine ⟨g₃, ?_, ?_, ⟨hg₂.proceeds hproceeds₃ hdict, id, ?_, hlist.proceeds hproceeds₃ hdict⟩, fun name hname => ?_⟩
  · unfold resetSearchPath
    simp only [reader_bind_run, hostImport_system hg hfiled, hrun₁, hrun₂, hrun₃]
  · rw [hproceeds₂.system] at hproceeds₃
    exact hproceeds₂.relax.trans hproceeds₃
  · rw [hproceeds₃.system, hlookup₃, if_pos rfl]
  · rw [← hproceeds₂.system, hlookup₃, if_neg hname.symm, hproceeds₂.system]
    exact hproceeds₂.lookup_eq hg.system.1 not_false _

/-- Objects of the class of modules have neither of the two attributes from their class. -/
private theorem inheritedEntry?_module : Builtin.inheritedEntry? "module" "path" = Option.none ∧
    Builtin.inheritedEntry? "module" "stdout" = Option.none := by decide +kernel

/-- What the host reads as standard output. -/
def standardOutput : GuestM Identity := do
  attributeOf (← hostImport "sys") "stdout"

theorem standardOutput_of_hasSystem {found : Identity} (hg : g.HasSystem) (hfound : g.stdout = some found)
    (context : Context) : standardOutput context g = .ok found g := by
  obtain ⟨module, hfiled, -, hhome, hbody⟩ := hg.module
  rw [standardOutput, reader_bind_run, hostImport_system hg hfiled]
  exact attributeOf_of_module hhome hbody inheritedEntry?_module.2 (by decide) hfound context

/-- The output is redirected where the standard output is there, and no other attribute of the system module is
written; a new line writer stands there then. -/
theorem redirectOutput_of_hasSystem {found : Identity} (hg : g.HasSystem) (hfound : g.stdout = some found)
    (label : String) (listeners : Nat) (context : Context) :
    ∃ g', redirectOutput label listeners context g = .ok (found, g.next) g' ∧ g.Proceeds (· = g.system) g' ∧
      g'.stdout = some g.next ∧ g'.body g.next = .output { label } listeners ∧ ∀ name, name ≠ "stdout" →
        g'.lookup g.system (.ofString name) = g.lookup g.system (.ofString name) := by
  obtain ⟨module, hfiled, _, hhome, hbody⟩ := hg.module
  have hget := attributeOf_of_module hhome hbody inheritedEntry?_module.2 (by decide) hfound context
  obtain ⟨g₁, hrun₁, hproceeds₁, hmade⟩ : ∃ g₁,
      (modify fun g' => { g' with writers := g'.writers.insert g.next ({ label }, listeners) } : GuestM PUnit) context
        (g.adding { body := .output { label } listeners }) = .ok ⟨⟩ g₁ ∧ g.Proceeds (fun _ => False) g₁ ∧
      g₁.Holds g.next ∧ g₁.body g.next = .output { label } listeners :=
    ⟨_, rfl, (Adds.push g (.output { label } listeners)).proceeds.trans (proceeds_of_same rfl rfl rfl rfl),
      by simp [Guest.Holds, Guest.next, Guest.adding],
      congrArg Object.body (object_adding g _)⟩
  have hg₁ := hg.proceeds hproceeds₁ fun _ hid => hid.elim
  obtain ⟨g₂, hrun₂, hproceeds₂, hlookup₂⟩ :=
    setAttribute_of_hasSystem hg₁ (hproceeds₁.standardModules ▸ hfiled) (show "stdout" ≠ "__dict__" by decide) g.next
      context
  rw [hproceeds₁.system] at hproceeds₂ hlookup₂
  have hsystem : g.next ≠ g.system := fun he => Nat.lt_irrefl _ (he ▸ hg.system.1)
  refine ⟨g₂, ?_, hproceeds₁.relax.trans hproceeds₂, ?_, (hproceeds₂.body_eq hmade.1 hsystem).trans hmade.2, fun name hname => ?_⟩
  · unfold redirectOutput
    simp only [reader_bind_run, hostImport_system hg hfiled, hget, allocate_run, hrun₁, hrun₂, reader_pure_run]
  · rw [Guest.stdout, Guest.systemAttribute, hproceeds₂.system, hproceeds₁.system]
    exact (hlookup₂ "stdout").trans rfl
  · exact (hlookup₂ name).trans ((if_neg hname.symm).trans (hproceeds₁.lookup_eq hg.system.1 not_false _))

private theorem mapM_texts {f : Identity → GuestM String} {context : Context}
    (hf : ∀ id text, g.text? id = some (.ofString text) → f id context g = .ok text g) {ids : List Identity}
    {texts : List String} (h : ids.map g.text? = texts.map fun text => some (.ofString text)) :
    ids.mapM f context g = .ok texts g := by
  induction ids generalizing texts with
  | nil =>
    rw [List.map_nil, eq_comm, List.map_eq_nil_iff] at h
    rw [h]
    rfl
  | cons id ids ih =>
    obtain ⟨text, texts, rfl⟩ : ∃ text rest, texts = text :: rest := by
      cases texts with
      | nil => cases h
      | cons text texts => exact ⟨text, texts, rfl⟩
    obtain ⟨hid, hids⟩ := List.cons.inj h
    rw [List.mapM_cons]
    simp [hf id text hid, ih hids]

/-- The search path is read as it stands. -/
theorem readSearchPath_of_hasPath (hg : g.HasPath path) (context : Context) :
    readSearchPath context g = .ok path g := by
  obtain ⟨module, hfiled, _, hhome, hbody⟩ := hg.module
  obtain ⟨id, hlookup, _, _, items, hitems, _, htexts⟩ := hg.found
  have hget := attributeOf_of_module hhome hbody inheritedEntry?_module.1 (by decide) hlookup context
  unfold readSearchPath
  simp only [reader_bind_run, hostImport_system hg.toHasSystem hfiled, hget, reader_get_run, hitems]
  refine mapM_texts (fun id text hid => ?_) htexts
  simp only [hid, Text.encode_ofString]
  rfl

end GuestM
end ScriptHost
