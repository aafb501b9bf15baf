import ScriptHost.Guest.Method.Objects
import ScriptHost.Proofs.Reach.Making

/-! The methods of objects, classes and iterators, and the functions behind operators, stay within what a computation was given. -/
namespace ScriptHost
open GuestM (Spares)

variable {P : Identity → Prop} {α β : Type} [Refers α] [Refers β]
  {class? classes dict id item key mapping modulus note other pair self target : Identity} {arguments : List Identity}
  {test : Identity → GuestM Bool} {g : Guest}

instance : Inert Operation := ⟨⟩

namespace GuestM

@[grind ←] theorem spares_notApplicable : Spares P (notApplicable) := by
  unfold notApplicable
  grind

@[grind ←] theorem spares_compareSlot (owner : String) (name : String) (htarget : P target) (hother : P other) :
    Spares P (compareSlot target other owner name) := by
  unfold compareSlot
  repeat' first | with_reducible refine .bind ?_ fun _ _ => ?_ | with_reducible refine .either ?_ ?_ | split
  all_goals grind

@[grind ←] theorem spares_operationSlot (owner : String) (op : Operation) (turned : Bool) (htarget : P target)
    (hother : P other) :
    Spares P (operationSlot target other owner op turned) := by
  unfold operationSlot
  repeat' first | with_reducible refine .bind ?_ fun _ _ => ?_ | with_reducible refine .either ?_ ?_ | split
  all_goals grind

@[grind ←] theorem spares_powerSlot (owner : String) (turned : Bool) (htarget : P target) (hother : P other)
    :
    Spares P (powerSlot target other modulus owner turned) := by
  unfold powerSlot
  repeat' first | with_reducible refine .bind ?_ fun _ _ => ?_ | with_reducible refine .either ?_ ?_ | split
  all_goals grind

@[grind ←] theorem spares_updatedSet (method : String) (htarget : P target) (hother : P other) :
    Spares P (updatedSet target other method) := by
  unfold updatedSet
  repeat' first | with_reducible refine .bind ?_ fun _ _ => ?_ | with_reducible refine .either ?_ ?_ | split
  all_goals grind

@[grind ←] theorem within_changeSlot? (name : String) (htarget : P target) (hother : P other) :
    Within P (changeSlot? target other name) := by
  unfold changeSlot?
  split
  all_goals first | exact within_none.mpr trivial | refine (within_some _).mpr (within_run.mpr ?_)
  all_goals repeat' first | with_reducible refine .bind ?_ fun _ _ => ?_ | with_reducible refine .either ?_ ?_ | split
  all_goals grind

@[grind ←] theorem spares_hasEntry (hdict : P dict) (hpair : P pair) : Spares P (hasEntry dict pair) := by
  unfold hasEntry
  refine .bind (spares_bodyOf hpair) fun body hbody => ?_
  split
  case h_1 items =>
    rw [within_body, Body.Within, ← within_toList] at hbody
    repeat' first | with_reducible refine .bind ?_ fun _ _ => ?_ | with_reducible refine .either ?_ ?_ | split
    all_goals grind
  all_goals grind

@[grind ←] theorem spares_holds (htarget : P target) (hitem : P item) : Spares P (holds target item) := by
  unfold holds
  repeat' first | with_reducible refine .bind ?_ fun _ _ => ?_ | with_reducible refine .either ?_ ?_ | split
  all_goals grind

@[grind ←] theorem spares_lengthSlot (htarget : P target) : Spares P (lengthSlot target) := by
  unfold lengthSlot
  repeat' first | with_reducible refine .bind ?_ fun _ _ => ?_ | with_reducible refine .either ?_ ?_ | split
  all_goals grind

@[grind ←] theorem spares_numberSlot (number : Number) (owner : String) (name : String) (htarget : P target) :
    Spares P (numberSlot target number owner name) := by
  unfold numberSlot
  repeat' first | with_reducible refine .bind ?_ fun _ _ => ?_ | with_reducible refine .either ?_ ?_ | split
  all_goals grind

@[grind ←] theorem within_unarySlot? (owner : String) (name : String) (htarget : P target) :
    Within P (unarySlot? target owner name) := by
  unfold unarySlot?
  split
  all_goals first | exact within_none.mpr trivial | refine (within_some _).mpr (within_run.mpr ?_)
  all_goals repeat' first | with_reducible refine .bind ?_ fun _ _ => ?_ | with_reducible refine .either ?_ ?_ | split
  all_goals grind

@[grind ←] theorem spares_nameOf : Spares P (nameOf id) := by
  unfold nameOf
  repeat' first | with_reducible refine .bind ?_ fun _ _ => ?_ | with_reducible refine .either ?_ ?_ | split
  all_goals grind

namespace slotMethod

@[grind ←] theorem spares_checkChangeable (owner : String) (name : String) :
    Spares P (checkChangeable target owner name) := by
  unfold checkChangeable
  repeat' first | with_reducible refine .bind ?_ fun _ _ => ?_ | with_reducible refine .either ?_ ?_ | split
  all_goals grind

@[grind ←] theorem spares_general (owner : String) (name : String) (htarget : P target)
    (harguments : Within P arguments) :
    Spares P (general target owner name arguments) := by
  refine .of_default fun hdefault => ?_
  unfold general
  extract_lets first second
  have hfirst : P first := within_headD harguments hdefault
  have hsecond : P second := within_getD harguments 1 hdefault
  clear_value first second
  cases hrun : changeSlot? target first name
  case some run =>
    exact within_changeSlot? name htarget hfirst run hrun
  repeat' first | with_reducible refine .bind ?_ fun _ _ => ?_ | with_reducible refine .either ?_ ?_ | split
  all_goals grind

end slotMethod

@[grind ←] theorem spares_slotMethod (owner : String) (name : String) (htarget : P target)
    (harguments : Within P arguments) :
    Spares P (slotMethod target owner name arguments) := by
  refine .of_default fun hdefault => ?_
  unfold slotMethod
  extract_lets first
  have hfirst : P first := within_headD harguments hdefault
  have hunary : Within P (unarySlot? target owner name) := within_unarySlot? owner name htarget
  clear_value first
  repeat' first | with_reducible refine .bind ?_ fun _ _ => ?_ | with_reducible refine .either ?_ ?_ | split
  all_goals grind

@[grind ←] theorem spares_belongsTo (hid : P id) : Spares P (belongsTo id class?) := by
  unfold belongsTo
  repeat' first | with_reducible refine .bind ?_ fun _ _ => ?_ | with_reducible refine .either ?_ ?_ | split
  all_goals grind

theorem spares_anyClass_some? {classes : List Identity} (refusal own : String) (depth : Nat)
    (hany : ∀ class?, P class? → Spares P (anyClass refusal own id test depth class?)) (hclasses : Within P classes) :
    Spares P (anyClass.some? refusal own id test depth classes) := by
  induction classes with
  | nil =>
    rw [anyClass.some?]
    exact .pure trivial
  | cons class? rest ih =>
    rw [anyClass.some?]
    repeat' first | with_reducible refine .bind ?_ fun _ _ => ?_ | with_reducible refine .either ?_ ?_ | split
    all_goals grind

@[grind ←] theorem spares_anyClass {x5 : Identity} (refusal : String) (own : String) (x4 : Nat) (hid : P id)
    (htest : ∀ a, P a → Spares P (test a)) (hx5 : P x5) :
    Spares P (anyClass refusal own id test x4 x5) := by
  induction x4 generalizing x5 with
  | zero =>
    rw [anyClass]
    exact .raise _
  | succ depth ih =>
    rw [anyClass]
    refine .bind .get fun g hg => ?_
    split
    · exact spares_anyClass_some? _ _ _ (fun _ h => ih h) (by grind)
    · repeat' first | with_reducible refine .bind ?_ fun _ _ => ?_ | with_reducible refine .either ?_ ?_ | split
      all_goals grind

@[grind ←] theorem spares_isInstanceOf (hid : P id) (hclasses : P classes) : Spares P (isInstanceOf id classes) := by
  unfold isInstanceOf
  repeat' first | with_reducible refine .bind ?_ fun _ _ => ?_ | with_reducible refine .either ?_ ?_ | split
  all_goals grind

@[grind ←] theorem spares_isSubclassOf (hid : P id) (hclasses : P classes) : Spares P (isSubclassOf id classes) := by
  unfold isSubclassOf
  repeat' first | with_reducible refine .bind ?_ fun _ _ => ?_ | with_reducible refine .either ?_ ?_ | split
  all_goals grind

@[grind ←] theorem spares_namesWithin (hclass : P class?) : Spares P (namesWithin class?) := by
  unfold namesWithin
  repeat' first | with_reducible refine .bind ?_ fun _ _ => ?_ | with_reducible refine .either ?_ ?_ | split
  all_goals grind

@[grind ←] theorem spares_attributeNames (hid : P id) : Spares P (attributeNames id) := by
  unfold attributeNames
  repeat' first | with_reducible refine .bind ?_ fun _ _ => ?_ | with_reducible refine .either ?_ ?_ | split
  all_goals grind

@[grind ←] theorem within_subclassesOf (hg : Within P g) : Within P (subclassesOf g class?) := by
  refine within_filterMap (within_nowhere _) fun index _ => ?_
  have hclass := hg.classes ⟨index⟩
  grind

grind_pattern within_subclassesOf => Within P g, subclassesOf g class?

@[grind ←] theorem spares_classMethod (owner : String) (name : String) (hself : P self)
    (harguments : Within P arguments) :
    Spares P (classMethod self owner name arguments) := by
  refine .of_default fun hdefault => ?_
  unfold classMethod
  repeat' first | with_reducible refine .bind ?_ fun _ _ => ?_ | with_reducible refine .either ?_ ?_ | split
  all_goals grind

@[grind ←] theorem spares_typeMethod (name : String) (htarget : P target) (harguments : Within P arguments) :
    Spares P (typeMethod target name arguments) := by
  refine .of_default fun hdefault => ?_
  unfold typeMethod
  repeat' first | with_reducible refine .bind ?_ fun _ _ => ?_ | with_reducible refine .either ?_ ?_ | split
  all_goals grind

@[grind ←] theorem spares_objectMethod (name : String) (htarget : P target) :
    Spares P (objectMethod target name arguments) := by
  unfold objectMethod
  repeat' first | with_reducible refine .bind ?_ fun _ _ => ?_ | with_reducible refine .either ?_ ?_ | split
  all_goals grind

@[grind ←] theorem spares_addNote (htarget : P target) (hnote : P note) : Spares P (addNote target note) := by
  unfold addNote
  repeat' first | with_reducible refine .bind ?_ fun _ _ => ?_ | with_reducible refine .either ?_ ?_ | split
  all_goals grind

@[grind ←] theorem spares_exceptionMethod (name : String) (htarget : P target) (harguments : Within P arguments) :
    Spares P (exceptionMethod target name arguments) := by
  refine .of_default fun hdefault => ?_
  unfold exceptionMethod
  repeat' first | with_reducible refine .bind ?_ fun _ _ => ?_ | with_reducible refine .either ?_ ?_ | split
  all_goals grind

@[grind ←] theorem spares_raiseObject (hid : P id) : Spares P (raiseObject id : GuestM α) := by
  unfold raiseObject
  repeat' first | with_reducible refine .bind ?_ fun _ _ => ?_ | with_reducible refine .either ?_ ?_ | split
  all_goals grind

@[grind ←] theorem spares_generatorMethod (name : String) (htarget : P target) (harguments : Within P arguments) :
    Spares P (generatorMethod target name arguments) := by
  refine .of_default fun hdefault => ?_
  unfold generatorMethod
  extract_lets close
  have hclose : Spares P close := spares_setBody htarget (by simp)
  clear_value close
  repeat' first | with_reducible refine .bind ?_ fun _ _ => ?_ | with_reducible refine .either ?_ ?_ | split
  all_goals grind

@[grind ←] theorem spares_iteratorMethod (name : String) (htarget : P target) :
    Spares P (iteratorMethod target name) := by
  unfold iteratorMethod
  repeat' first | with_reducible refine .bind ?_ fun _ _ => ?_ | with_reducible refine .either ?_ ?_ | split
  all_goals grind

@[grind ←] theorem spares_streamMethod (name : String) (htarget : P target) :
    Spares P (streamMethod target name arguments) := by
  unfold streamMethod
  repeat' first | with_reducible refine .bind ?_ fun _ _ => ?_ | with_reducible refine .either ?_ ?_ | split
  all_goals grind

@[grind ←] theorem spares_found? (hmapping : P mapping) (hkey : P key) : Spares P (found? mapping key) := by
  unfold found?
  grind

@[grind ←] theorem spares_dictOf (hmapping : P mapping) : Spares P (dictOf mapping) := by
  unfold dictOf
  repeat' first | with_reducible refine .bind ?_ fun _ _ => ?_ | with_reducible refine .either ?_ ?_ | split
  all_goals grind

@[grind ←] theorem spares_mappingMethod (name : String) (htarget : P target) (harguments : Within P arguments) :
    Spares P (mappingMethod target name arguments) := by
  refine .of_default fun hdefault => ?_
  unfold mappingMethod
  repeat' first | with_reducible refine .bind ?_ fun _ _ => ?_ | with_reducible refine .either ?_ ?_ | split
  all_goals grind

@[grind ←] theorem spares_propertyMethod (name : String) (htarget : P target) (harguments : Within P arguments) :
    Spares P (propertyMethod target name arguments) := by
  unfold propertyMethod
  repeat' first | with_reducible refine .bind ?_ fun _ _ => ?_ | with_reducible refine .either ?_ ?_ | split
  all_goals grind

@[grind ←] theorem spares_boundMethod (owner : String) (name : String) (htarget : P target)
    (harguments : Within P arguments) :
    Spares P (boundMethod target owner name arguments) := by
  unfold boundMethod
  repeat' first | with_reducible refine .bind ?_ fun _ _ => ?_ | with_reducible refine .either ?_ ?_ | split
  all_goals grind

end GuestM

end ScriptHost
