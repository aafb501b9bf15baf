import ScriptHost.Convert.Outbound
import ScriptHost.Proofs.Guest.Attributes

/-! How an interpreter proceeds while a host works in it: objects come up, some dictionaries are written, and
everything else stays as it is. -/
namespace ScriptHost

namespace Guest
variable {V W : Identity → Prop} {g g' g'' : Guest} {id d : Identity}

/-- No scalar of the interpreter's own classes carries attributes. -/
def ScalarsBare (g : Guest) : Prop :=
  ∀ id, g.isExact id = true → (g.scalar? id).isSome → (g.object id).attributes = none

/-- An interpreter with more objects, where those that were there are as they were except for the entries of some
dictionaries. -/
structure Proceeds (W : Identity → Prop) (g g' : Guest) : Prop where
  size_le : g.heap.size ≤ g'.heap.size
  object : ∀ id, g.Holds id → ¬ W id → g'.object id = g.object id
  dict : ∀ id, g.Holds id → g.isDict id = true → g'.isDict id = true
  halted : g'.halted = g.halted
  standardModules : g'.standardModules = g.standardModules
  system : g'.system = g.system
  bare : g.ScalarsBare → g'.ScalarsBare

namespace Proceeds

theorem refl (g : Guest) : g.Proceeds W g :=
  ⟨Nat.le_refl _, fun _ _ _ => rfl, fun _ _ h => h, rfl, rfl, rfl, fun h => h⟩

theorem holds (h : g.Proceeds W g') (hid : g.Holds id) : g'.Holds id := Nat.lt_of_lt_of_le hid h.size_le

theorem trans (h : g.Proceeds W g') (h' : g'.Proceeds W g'') : g.Proceeds W g'' where
  size_le := Nat.le_trans h.size_le h'.size_le
  object id hid hw := (h'.object id (h.holds hid) hw).trans (h.object id hid hw)
  dict id hid hd := h'.dict id (h.holds hid) (h.dict id hid hd)
  halted := h'.halted.trans h.halted
  standardModules := h'.standardModules.trans h.standardModules
  system := h'.system.trans h.system
  bare hb := h'.bare (h.bare hb)

theorem mono (h : g.Proceeds W g') (hw : ∀ id, W id → V id) : g.Proceeds V g' where
  size_le := h.size_le
  object id hid hnot := h.object id hid fun h => hnot (hw id h)
  dict := h.dict
  halted := h.halted
  standardModules := h.standardModules
  system := h.system
  bare := h.bare

/-- What else is written was not there before. -/
theorem of_new (h : g.Proceeds W g') (hnew : ∀ id, W id → g.Holds id → V id) : g.Proceeds V g' where
  size_le := h.size_le
  object id hid hv := h.object id hid fun hw => hv (hnew id hw hid)
  dict := h.dict
  halted := h.halted
  standardModules := h.standardModules
  system := h.system
  bare := h.bare

/-- Where nothing is written, nothing else is. -/
theorem relax (h : g.Proceeds (fun _ => False) g') : g.Proceeds W g' := h.mono fun _ hid => hid.elim

theorem body_eq (h : g.Proceeds W g') (hid : g.Holds id) (hw : ¬ W id) : g'.body id = g.body id := by
  rw [body, h.object id hid hw, body]

theorem lookup_eq (h : g.Proceeds W g') (hid : g.Holds id) (hw : ¬ W id) (name : Text) :
    g'.lookup id name = g.lookup id name := by
  rw [lookup, entries, h.body_eq hid hw, lookup, entries]

end Proceeds

theorem Adds.proceeds (h : g.Adds g') : g.Proceeds W g' where
  size_le := h.size_le
  object id hid _ := h.object_eq hid
  dict id hid hd := by rwa [isDict, body, h.object_eq hid]
  halted := by
    obtain ⟨bodies, constants, rfl⟩ := h
    rfl
  standardModules := by
    obtain ⟨bodies, constants, rfl⟩ := h
    rfl
  system := by
    obtain ⟨bodies, constants, rfl⟩ := h
    rfl
  bare hb id hexact hscalar := by
    by_cases hid : g.Holds id
    · rw [isExact, home?, h.object_eq hid] at hexact
      rw [scalar?, body, h.object_eq hid] at hscalar
      rw [h.object_eq hid]
      exact hb id hexact hscalar
    · exact (h.fresh hid).2

/-- A dictionary is written. -/
theorem proceeds_withBody (hd : g.Holds d) (entries : Dict) : g.Proceeds (· = d) (g.withBody d (.dict entries)) where
  size_le := by simp
  object id _ hne := object_withBody_of_ne g hne _
  dict id _ hdict := by
    by_cases he : id = d
    · rw [he, isDict, body_withBody_dict, if_pos hd]
    · rwa [isDict, body, object_withBody_of_ne g he]
  halted := rfl
  standardModules := rfl
  system := rfl
  bare hb id hexact hscalar := by
    by_cases he : id = d
    · rw [he, scalar?, body_withBody_dict, if_pos hd] at hscalar
      cases hscalar
    · rw [isExact, home?, object_withBody_of_ne g he] at hexact
      rw [scalar?, body, object_withBody_of_ne g he] at hscalar
      rw [object_withBody_of_ne g he]
      exact hb id hexact hscalar

/-- A state with the same objects and modules. -/
theorem proceeds_of_same (hheap : g'.heap = g.heap) (hhalted : g'.halted = g.halted)
    (hmodules : g'.standardModules = g.standardModules) (hsystem : g'.system = g.system) : g.Proceeds W g' := by
  have hobject (id : Identity) : g'.object id = g.object id := by rw [object, hheap, object]
  refine ⟨by rw [hheap], fun id _ _ => hobject id, fun id _ hd => ?_, hhalted, hmodules, hsystem, fun hb id => ?_⟩
  · rwa [isDict, body, hobject]
  · rw [isExact, home?, scalar?, body, hobject]
    exact hb id

theorem reporting_unreported (g : Guest) : g.reporting g.unreported = g := by
  simp [reporting, unreported]

theorem proceeds_unreported (g : Guest) : g.Proceeds W g.unreported := proceeds_of_same rfl rfl rfl rfl

theorem proceeds_reporting (before g : Guest) : g.Proceeds W (before.reporting g) := proceeds_of_same rfl rfl rfl rfl

/-- What a computation does without a journal is done with one. -/
theorem Proceeds.reported (h : g.unreported.Proceeds W g') : g.Proceeds W (g.reporting g') :=
  (proceeds_unreported g).trans (h.trans (proceeds_reporting g g'))

theorem proceeds_noted (g : Guest) (r : Record) : g.Proceeds W (g.noted r) :=
  ⟨Nat.le_refl _, fun _ _ _ => rfl, fun _ _ h => h, rfl, rfl, rfl, fun h => h⟩

/-- An interpreter whose module of built-in names is its own and can be imported. -/
structure HasBuiltins (g : Guest) : Prop where
  importable : "builtins" ∉ g.halted
  module : ∃ id, g.standardModules.lookup "builtins" = some id

/-- An interpreter whose system module and module of built-in names are its own and can be imported, and whose system
module is of the class that it was made with. -/
structure HasSystem (g : Guest) : Prop where
  importable : "builtins" ∉ g.halted ∧ "sys" ∉ g.halted
  builtins : ∃ id, g.standardModules.lookup "builtins" = some id
  module : ∃ id, g.standardModules.lookup "sys" = some id ∧ g.Holds id ∧ g.home? id = none ∧
    g.body id = .module g.system
  system : g.Holds g.system ∧ g.isDict g.system = true

theorem HasSystem.hasBuiltins (hg : g.HasSystem) : g.HasBuiltins := ⟨hg.importable.1, hg.builtins⟩

theorem HasSystem.proceeds (hg : g.HasSystem) (h : g.Proceeds W g') (hdict : ∀ id, W id → g.isDict id = true) :
    g'.HasSystem where
  importable := by
    rw [h.halted]
    exact hg.importable
  builtins := by
    rw [h.standardModules]
    exact hg.builtins
  module := by
    obtain ⟨id, hfiled, hid, hhome, hbody⟩ := hg.module
    have hw : ¬ W id := fun hw => by
      have hd := hdict id hw
      rw [isDict, hbody] at hd
      cases hd
    refine ⟨id, by rw [h.standardModules, hfiled], h.holds hid, ?_, ?_⟩
    · rw [home?, h.object id hid hw]
      exact hhome
    · rw [h.body_eq hid hw, h.system, hbody]
  system := by
    rw [h.system]
    exact ⟨h.holds hg.system.1, h.dict _ hg.system.1 hg.system.2⟩

/-- An interpreter whose system module and module of built-in names are its own, can be imported, and are as it
made them. -/
structure IsIntact (g : Guest) : Prop where
  importable : "builtins" ∉ g.halted ∧ "sys" ∉ g.halted
  builtins : ∃ id, g.standardModules.lookup "builtins" = some id
  module : ∃ id, g.standardModules.lookup "sys" = some id ∧ g.Holds id ∧ g.home? id = none ∧
    g.body id = .module g.system
  system : g.Holds g.system ∧ g.isDict g.system = true
  bare : g.ScalarsBare

theorem IsIntact.hasSystem (hg : g.IsIntact) : g.HasSystem := ⟨hg.importable, hg.builtins, hg.module, hg.system⟩

theorem IsIntact.proceeds (hg : g.IsIntact) (h : g.Proceeds W g') (hdict : ∀ id, W id → g.isDict id = true) :
    g'.IsIntact := by
  obtain ⟨himportable, hbuiltins, hmodule, hsystem⟩ := hg.hasSystem.proceeds h hdict
  exact ⟨himportable, hbuiltins, hmodule, hsystem, h.bare hg.bare⟩

theorem IsIntact.unreported (hg : g.IsIntact) : g.unreported.IsIntact :=
  hg.proceeds (W := fun _ => False) (proceeds_unreported g) nofun

theorem scalarsBare_of_all (h : ∀ o ∈ g.heap, o.attributes = none) : g.ScalarsBare := fun id _ _ => by
  rw [object, Array.getD_eq_getD_getElem?]
  cases hget : g.heap[id.index]? with
  | none => rfl
  | some o => exact h o (Array.mem_of_getElem? hget)

/-- An interpreter with nothing but its system module, where standard output is, its module of built-in names, and a
namespace. -/
def minimal : Guest where
  heap := #[{ body := .dict [⟨[.text (.ofString "stdout")], ⟨5⟩, ⟨6⟩⟩] }, { body := .module ⟨0⟩ }, { body := .dict [] },
    { body := .module ⟨2⟩ }, { body := .dict [] }, { body := .text (.ofString "stdout") }, { body := .stream }]
  system := ⟨0⟩
  builtins := ⟨2⟩
  standardModules := [("sys", ⟨1⟩), ("builtins", ⟨3⟩)]

/-- The namespace of the smallest interpreter. -/
def minimalNamespace : Identity := ⟨4⟩

theorem isIntact_minimal : minimal.IsIntact where
  importable := ⟨List.not_mem_nil, List.not_mem_nil⟩
  builtins := ⟨⟨3⟩, rfl⟩
  module := ⟨⟨1⟩, rfl, by decide, rfl, rfl⟩
  system := ⟨by decide, rfl⟩
  bare := scalarsBare_of_all (by simp [minimal])

end Guest

namespace GuestM
open Stepping Guest
variable {g : Guest} {id d value : Identity}

/-! ### Objects -/

theorem string_run (s : String) (context : Context) (g : Guest) : ∃ id g', string s context g = .ok id g' ∧
    g.Adds g' ∧ g'.Holds id ∧ g'.isExact id = true ∧ g'.body id = .text (.ofString s) := by
  unfold string text
  split
  · exact internIn_run 0 (.text _) context g
  · refine ⟨_, _, allocate_run _ context g, .push g _, ?_, ?_, ?_⟩
    · simp [Guest.Holds, Guest.next, Guest.adding]
    · simp [Guest.isExact, Guest.home?, Guest.object_adding]
    · simp [Guest.body, Guest.object_adding]

theorem strings_run (texts : List String) (context : Context) (g : Guest) :
    ∃ ids g', texts.mapM string context g = .ok ids g' ∧ g.Adds g' ∧ (∀ id ∈ ids, g'.Holds id) ∧
      ids.map g'.text? = texts.map fun s => some (.ofString s) := by
  induction texts generalizing g with
  | nil => exact ⟨[], g, rfl, .refl g, nofun, rfl⟩
  | cons s texts ih =>
    obtain ⟨id, g₁, hrun, hadds, hid, _, hbody⟩ := string_run s context g
    obtain ⟨ids, g₂, hrun', hadds', hids, htexts⟩ := ih g₁
    refine ⟨id :: ids, g₂, ?_, hadds.trans hadds', List.forall_mem_cons.mpr ⟨hadds'.holds hid, hids⟩, ?_⟩
    · rw [List.mapM_cons]
      simp [hrun, hrun']
    · rw [List.map_cons, List.map_cons, htexts, text?, body, hadds'.object_eq hid, ← body, hbody]

/-- A name is set: nothing but the dictionary is written, and no other name of it. -/
theorem setName_proceeds (hd : g.Holds d) (t : Text) (value : Identity) (context : Context) :
    ∃ g', setName d t value context g = .ok ⟨⟩ g' ∧ g.Proceeds (· = d) g' ∧
      ∀ other, g'.lookup d other = if t = other then some value else g.lookup d other := by
  obtain ⟨key, g₁, hadds, hrun⟩ := setName_run d t value context g
  exact ⟨_, hrun, hadds.proceeds.trans (proceeds_withBody (hadds.holds hd) _), fun other =>
    lookup_insert hd hadds t other key value⟩

/-! ### Modules of the interpreter's own -/

private theorem refuseHalted_of_not_mem {name : String} (h : name ∉ g.halted) (context : Context) :
    refuseHalted name context g = .ok ⟨⟩ g := by
  simp [refuseHalted, h]

/-- A module that is in place is given without a change. -/
theorem hostImport_run {name : String} (hbuiltins : "builtins" ∉ g.halted) (hname : name ∉ g.halted)
    (hwhole : name.splitOn "." = [name]) (htrue : Standard.trueName name = name)
    (hfiled : g.standardModules.lookup name = some id) (context : Context) :
    hostImport name context g = .ok id g := by
  have hmodule : standardModule name context g = .ok id g := by
    simp only [standardModule, htrue, reader_bind_run, reader_get_run, hfiled]
    rfl
  simp only [hostImport, hwhole, List.headD_cons, reader_bind_run, refuseHalted_of_not_mem hbuiltins,
    refuseHalted_of_not_mem hname, hmodule]

theorem splitOn_system : "sys".splitOn "." = ["sys"] := splitOn_of_not_mem (c := '.') (by decide)

private theorem splitOn_builtins : "builtins".splitOn "." = ["builtins"] := splitOn_of_not_mem (c := '.') (by decide)

theorem hostImport_system (hg : g.HasSystem) (hfiled : g.standardModules.lookup "sys" = some id)
    (context : Context) : hostImport "sys" context g = .ok id g :=
  hostImport_run hg.importable.1 hg.importable.2 splitOn_system (by decide) hfiled context

theorem hostImport_system_halted (hbuiltins : "builtins" ∉ g.halted) (hhalted : "sys" ∈ g.halted) (context : Context) :
    ∃ f, hostImport "sys" context g = .error f g := by
  have hcontains : g.halted.contains "sys" = true := List.contains_iff_mem.mpr hhalted
  obtain ⟨f, hrefused⟩ : ∃ f, refuseHalted "sys" context g = .error f g := by
    unfold refuseHalted
    rw [reader_bind_run, reader_get_run]
    dsimp only
    rw [if_pos hcontains]
    exact ⟨_, rfl⟩
  refine ⟨f, ?_⟩
  unfold hostImport
  rw [reader_bind_run, refuseHalted_of_not_mem hbuiltins]
  dsimp only
  rw [reader_bind_run, hrefused]

theorem hostImport_builtins (hg : g.HasBuiltins) (hfiled : g.standardModules.lookup "builtins" = some id)
    (context : Context) : hostImport "builtins" context g = .ok id g :=
  hostImport_run hg.importable hg.importable splitOn_builtins (by decide) hfiled context

/-- What is set on a module of the interpreter's own class is what it answers with. -/
theorem attributeOf_of_module {name : String} (hhome : g.home? id = Option.none) (hbody : g.body id = .module d)
    (hfree : Builtin.inheritedEntry? "module" name = Option.none) (hname : name ≠ "__dict__")
    (hfound : g.lookup d (.ofString name) = some value) (context : Context) :
    attributeOf id name context g = .ok value g := by
  have hspecial (key : String) : g.special? id key = Option.none := by rw [special?, hhome]; rfl
  have hentry : g.entryOf id (.ofString name) = Option.none := by
    rw [entryOf, hhome, hbody, Text.toString?_ofString]
    exact hfree
  have hne : Text.ofString name ≠ Text.ofString "__dict__" := fun he => hname (Text.ofString_injective he)
  have hown : g.ownAttribute? id (.ofString name) = some value := by
    rw [ownAttribute?, ownAttributes?, hbody]
    exact hfound
  have hclass : g.isClassObject id = false := by rw [isClassObject, hbody]
  simp [attributeOf, attributeNamed, hspecial, attributeByDefault, hclass, hbody, hne, objectAttribute, hentry, hown]

/-- An attribute of such a module is set in its namespace. -/
theorem setAttribute_of_module {name : String} (hhome : g.home? id = Option.none) (hbody : g.body id = .module d)
    (hname : name ≠ "__dict__") (value : Identity) (context : Context) :
    setAttribute id name value context g = setName d (.ofString name) value context g := by
  have hspecial : g.special? id "__setattr__" = Option.none := by rw [special?, hhome]; rfl
  have hne : Text.ofString name ≠ Text.ofString "__dict__" := fun he => hname (Text.ofString_injective he)
  simp [setAttribute, setAttributeNamed, hspecial, setAttributeByDefault, hbody, hne]

end GuestM
end ScriptHost
