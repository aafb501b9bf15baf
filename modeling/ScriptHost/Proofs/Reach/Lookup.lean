import ScriptHost.Proofs.Reach.Tables

/-! What is found in classes and namespaces, and how it is bound and called, stays within what a computation was
given. -/
namespace ScriptHost

variable {P : Identity → Prop} {α β : Type} [Refers α] [Refers β]

namespace Guest
variable {g : Guest} {id : Identity}

theorem within_entries (h : Within P g) (hid : P id) : Within P (g.entries id) := by
  unfold entries
  grind

grind_pattern within_entries => Within P g, g.entries id

theorem within_lookup (h : Within P g) (hid : P id) (name : Text) : Within P (g.lookup id name) :=
  Dict.within_find? (within_entries h hid) _

grind_pattern within_lookup => Within P g, g.lookup id name

theorem within_systemAttribute (h : Within P g) (name : String) : Within P (g.systemAttribute name) :=
  within_lookup h (within_system h) _

theorem within_shownModules (h : Within P g) : P g.shownModules :=
  within_optionGetD (within_systemAttribute h _) (within_modules h)

grind_pattern within_shownModules => Within P g, g.shownModules

theorem within_stdout (h : Within P g) : Within P g.stdout := within_systemAttribute h _

grind_pattern within_stdout => Within P g, g.stdout

theorem within_ownAttributes? (h : Within P g) (hid : P id) : Within P (g.ownAttributes? id) := by
  have := (h.object id hid).2.2.1
  unfold ownAttributes?
  grind

grind_pattern within_ownAttributes? => Within P g, g.ownAttributes? id

theorem within_ownAttribute? (h : Within P g) (hid : P id) (name : Text) : Within P (g.ownAttribute? id name) := by
  unfold ownAttribute?
  grind

grind_pattern within_ownAttribute? => Within P g, g.ownAttribute? id name

theorem within_builtinEntry? (own key : String) : Within P (Builtin.entry? own key) := by
  unfold Builtin.entry?
  split
  · simp
  · split
    · simp
    · intro entry hentry
      obtain ⟨found, -, rfl⟩ := Option.map_eq_some_iff.mp hentry
      simp

@[grind .] theorem within_inheritedEntry? (own key : String) : Within P (Builtin.inheritedEntry? own key) :=
  within_findSome? (within_nowhere _) fun _ _ => within_builtinEntry? _ _

theorem within_entryOfOne (h : Within P g) (hid : P id) (name : Text) (key : String) :
    Within P (g.entryOfOne name key id) := by
  unfold entryOfOne
  split
  · exact within_builtinEntry? _ _
  · refine within_optionMap (within_ownAttribute? h hid name) fun value hvalue => ?_
    split
    · split <;> grind
    · grind

theorem within_entryAmong {classes : List Identity} (h : Within P g) (hc : Within P classes) (name : Text) :
    Within P (g.entryAmong classes name) :=
  within_findSome? hc fun _ hclass => within_entryOfOne h hclass name _

grind_pattern within_entryAmong => Within P g, g.entryAmong classes name

theorem within_entryIn (h : Within P g) (hid : P id) (name : Text) : Within P (g.entryIn id name) := by
  unfold entryIn
  split <;> grind

grind_pattern within_entryIn => Within P g, g.entryIn id name

theorem within_entryOf (h : Within P g) (hid : P id) (name : Text) : Within P (g.entryOf id name) := by
  unfold entryOf
  split <;> grind

grind_pattern within_entryOf => Within P g, g.entryOf id name

theorem within_special? (h : Within P g) (hid : P id) (name : String) : Within P (g.special? id name) := by
  unfold special?
  have := within_home h hid
  cases hh : g.home? id <;> grind

grind_pattern within_special? => Within P g, g.special? id name

end Guest

namespace GuestM
variable {id value target : Identity} {arguments : List Identity}

@[grind ←] theorem spares_typeError (text : String) : Spares P (typeError text : GuestM α) := .raise _

@[grind ←] theorem spares_valueError (text : String) : Spares P (valueError text : GuestM α) := .raise _

@[grind ←] theorem spares_classLabel (id : Identity) : Spares P (classLabel id) := by
  unfold classLabel
  grind

@[grind ←] theorem spares_classOf (hid : P id) : Spares P (classOf id) := by
  unfold classOf builtin intern
  grind

@[grind ←] theorem spares_attributeErrorOf (parts : List Text) : Spares P (attributeErrorOf parts : GuestM α) := .raise _

@[grind ←] theorem spares_orderOf (hid : P id) : Spares P (orderOf id) := by
  unfold orderOf
  grind

@[grind ←] theorem spares_refuseForeign (owner name : String) (id : Identity) :
    Spares P (refuseForeign owner name id : GuestM α) := by
  unfold refuseForeign
  grind

@[grind ←] theorem spares_refuseProperty (name : Option Text) (what : String) :
    Spares P (refuseProperty target name what : GuestM α) := by
  unfold refuseProperty
  grind

@[grind ←] theorem spares_bindFunction (hv : P value) (ht : P target) : Spares P (bindFunction value target) := by
  unfold bindFunction
  grind

@[grind ←] theorem spares_bindFor (hv : P value) (ht : P target) : Spares P (bindFor value target) := by
  unfold bindFor
  refine .bind .get fun g hg => ?_
  split <;> grind

@[grind ←] theorem spares_callFor (hv : P value) (ht : P target) (ha : Within P arguments) :
    Spares P (callFor value target arguments) := by
  unfold callFor
  grind

@[grind ←] theorem spares_callIfGiven? (hv : P value) (ht : P target) (ha : Within P arguments) :
    Spares P (callIfGiven? value target arguments) := by
  unfold callIfGiven?
  repeat' first | with_reducible refine .bind ?_ fun _ _ => ?_ | with_reducible refine .either ?_ ?_ | split
  all_goals grind

@[grind ←] theorem spares_specially? (name : String) (ht : P target) (ha : Within P arguments) :
    Spares P (specially? name target arguments) := by
  unfold specially?
  grind
end GuestM
end ScriptHost
