import ScriptHost.Guest.Truth
import ScriptHost.Proofs.Reach.Keys

/-! The written forms of objects, and whether they count as true, are found within what a computation was given. -/
namespace ScriptHost
open GuestM (Spares)

variable {P : Identity → Prop} {α β : Type} [Refers α] [Refers β] {g : Guest}
  {answer attributes class? id value : Identity} {inner : Identity → GuestM Text} {target : Option Identity}
  {details : List (String × Identity)} {arguments : List Identity} {run : GuestM α}

namespace Guest

theorem within_nameIn (name : String) (hg : Within P g) (hattributes : P attributes) :
    Within P (nameIn g attributes name) := by
  unfold nameIn
  grind

grind_pattern within_nameIn => Within P g, nameIn g attributes name

theorem within_presentIn (name : String) (hg : Within P g) (hattributes : P attributes) :
    Within P (presentIn g attributes name) := by
  unfold presentIn
  grind

grind_pattern within_presentIn => Within P g, presentIn g attributes name

@[grind ←] theorem spares_moduleText (hg : Within P g) (hattributes : P attributes) (hinner : ∀ id, P id → Spares P
    (inner id)) :
    Spares P (moduleText g attributes inner) := by
  unfold moduleText
  repeat' first | with_reducible refine .bind ?_ fun _ _ => ?_ | with_reducible refine .either ?_ ?_ | split
  all_goals grind

@[grind ←] theorem spares_genericText (hg : Within P g) (hid : P id) (hinner : ∀ id, P id → Spares P (inner id)) :
    Spares P (genericText g id inner) := by
  unfold genericText
  extract_lets part held
  have hpart : ∀ id, P id → Spares P (part id) := fun id hid => by
    simp only [part]
    split <;> grind
  have hheld : ∀ name, P (held name) := by grind
  clear_value part held
  repeat' first | with_reducible refine .bind ?_ fun _ _ => ?_ | with_reducible refine .either ?_ ?_ | split
  all_goals grind

@[grind ←] theorem spares_specificationText (hg : Within P g) (hid : P id) (hinner : ∀ id, P id → Spares P (inner id)) :
    Spares P (specificationText g id inner) := by
  unfold specificationText
  extract_lets field present optional
  have hfield : ∀ shown name, Spares P (field shown name) := fun shown name => by
    simp only [field]
    split <;> grind
  have hoptional : ∀ name, Spares P (optional name) := fun name => by
    simp only [optional]
    split <;> grind
  clear_value field present optional
  repeat' first | with_reducible refine .bind ?_ fun _ _ => ?_ | with_reducible refine .either ?_ ?_ | split
  all_goals grind

@[grind ←] theorem spares_standInText (class? : String) (hg : Within P g) (hid : P id) (hinner : ∀ id, P id → Spares P
    (inner id)) :
    Spares P (standInText g id class? inner) := by
  unfold standInText
  repeat' first | with_reducible refine .bind ?_ fun _ _ => ?_ | with_reducible refine .either ?_ ?_ | split
  all_goals grind

@[grind ←] theorem spares_ancestralText (hclass : P class?) (htarget : Within P target)
    (hinner : ∀ id, P id → Spares P (inner id)) :
    Spares P (ancestralText g class? target inner) := by
  unfold ancestralText
  repeat' first | with_reducible refine .bind ?_ fun _ _ => ?_ | with_reducible refine .either ?_ ?_ | split
  all_goals grind

end Guest

namespace GuestM

@[grind ←] theorem spares_ownText (name : String) : Spares P (ownText name answer) := by
  unfold ownText
  repeat' first | with_reducible refine .bind ?_ fun _ _ => ?_ | with_reducible refine .either ?_ ?_ | split
  all_goals grind

@[grind ←] theorem spares_representBody (isInside : Bool) (hinner : ∀ id, P id → Spares P (inner id)) (hid : P id) :
    Spares P (representBody inner isInside id) := by
  unfold representBody
  repeat' first | with_reducible refine .bind ?_ fun _ _ => ?_ | with_reducible refine .either ?_ ?_ | split
  all_goals grind

@[grind ←] theorem spares_answeredForm (asked : String) (hvalue : P value) (hid : P id) :
    Spares P (answeredForm asked value id) := by
  unfold answeredForm
  refine .bind (spares_callIfGiven? hvalue hid (by simp)) fun answer _ => ?_
  split
  · exact spares_ownText asked
  · exact .bind .get fun _ _ => .pure trivial

@[grind ←] theorem spares_representTo (depth : Nat) (active : List Identity) (hid : P id) :
    Spares P (representTo depth active id) := by
  induction depth generalizing active id with
  | zero => exact .raise _
  | succ depth ih =>
    rw [representTo]
    refine .bind .get fun g hg => ?_
    split
    · grind
    · split
      · grind
      · exact spares_representBody _ (fun _ => ih _) hid

@[grind ←] theorem spares_represent (hid : P id) : Spares P (represent id) := spares_representTo _ [] hid

@[grind ←] theorem spares_representData (hid : P id) : Spares P (representData id) :=
  spares_representBody false (fun _ => spares_represent) hid

@[grind ←] theorem spares_representPlain : Spares P (representPlain id) :=
  .bind .get fun _ _ => .pure trivial

end GuestM

namespace Guest

@[grind ←] theorem within_systemErrorText (hinner : ∀ id, P id → Spares P (inner id)) (hdetails : Within P details) :
    Within P (systemErrorText inner details) := by
  unfold systemErrorText
  extract_lets heading
  have hheading : ∀ number reason, P number → P reason → Spares P (heading number reason) := by grind
  clear_value heading
  split
  all_goals simp only [within_some, within_none, GuestM.within_run]
  all_goals grind

@[grind ←] theorem spares_syntaxErrorText (hinner : ∀ id, P id → Spares P (inner id))
    (hdetails : Within P details) :
    Spares P (syntaxErrorText g inner details) := by
  unfold syntaxErrorText
  repeat' first | with_reducible refine .bind ?_ fun _ _ => ?_ | with_reducible refine .either ?_ ?_ | split
  all_goals grind

@[grind ←] theorem spares_groupText (hinner : ∀ id, P id → Spares P (inner id))
    (hdetails : Within P details) :
    Spares P (groupText g inner details) := by
  unfold groupText
  repeat' first | with_reducible refine .bind ?_ fun _ _ => ?_ | with_reducible refine .either ?_ ?_ | split
  all_goals grind

@[grind ←] theorem spares_argumentsText {x2 : List Identity} (type : String) (hinner : ∀ id, P id → Spares P (inner id))
    (hx2 : Within P x2) :
    Spares P (argumentsText inner type x2) := by
  unfold argumentsText
  repeat' first | with_reducible refine .bind ?_ fun _ _ => ?_ | with_reducible refine .either ?_ ?_ | split
  all_goals grind

end Guest

namespace GuestM

@[grind ←] theorem spares_exceptionText (type : String) (hinner : ∀ id, P id → Spares P (inner id))
    (harguments : Within P arguments) (hdetails : Within P details) :
    Spares P (exceptionText inner type arguments details) := by
  unfold exceptionText
  refine .bind .get fun g hg => ?_
  repeat' split
  all_goals grind

@[grind ←] theorem spares_plainTextTo (depth : Nat) (hid : P id) : Spares P (plainTextTo depth id) := by
  induction depth generalizing id with
  | zero => exact .raise _
  | succ depth ih =>
    rw [plainTextTo]
    refine .bind (by grind) fun answer ha => ?_
    split
    · grind
    · refine .bind .get fun g hg => ?_
      extract_lets owner
      split
      · split <;> grind
      all_goals grind

@[grind ←] theorem spares_plainText (hid : P id) : Spares P (plainText id) := spares_plainTextTo _ hid

@[grind ←] theorem spares_plainData (owner : String) (hid : P id) : Spares P (plainData owner id) := by
  unfold plainData
  repeat' first | with_reducible refine .bind ?_ fun _ _ => ?_ | with_reducible refine .either ?_ ?_ | split
  all_goals grind

@[grind ←] theorem spares_succeeded? (hrun : Spares P run) : Spares P (succeeded? run) := by
  unfold succeeded?
  grind

@[grind ←] theorem spares_faultOf (hid : P id) : Spares P (faultOf id) := by
  unfold faultOf
  repeat' first | with_reducible refine .bind ?_ fun _ _ => ?_ | with_reducible refine .either ?_ ?_ | split
  all_goals grind

@[grind ←] theorem spares_indexOf (hid : P id) : Spares P (indexOf id) := by
  unfold indexOf
  repeat' first | with_reducible refine .bind ?_ fun _ _ => ?_ | with_reducible refine .either ?_ ?_ | split
  all_goals grind

@[grind ←] theorem spares_wordOf (overflow : String) (hid : P id) : Spares P (wordOf overflow id) := by
  unfold wordOf
  exact .bind (spares_indexOf hid) fun _ _ => .either (.pure trivial) (.bind (spares_classLabel id) fun _ _ => .raise _)

@[grind ←] theorem spares_sizeFrom (hanswer : P answer) : Spares P (sizeFrom answer) := by
  unfold sizeFrom
  repeat' first | with_reducible refine .bind ?_ fun _ _ => ?_ | with_reducible refine .either ?_ ?_ | split
  all_goals grind

@[grind ←] theorem spares_length? (hid : P id) : Spares P (length? id) := by
  unfold length?
  repeat' first | with_reducible refine .bind ?_ fun _ _ => ?_ | with_reducible refine .either ?_ ?_ | split
  all_goals grind

@[grind ←] theorem spares_truthData : Spares P (truthData id) := by
  unfold truthData
  repeat' first | with_reducible refine .bind ?_ fun _ _ => ?_ | with_reducible refine .either ?_ ?_ | split
  all_goals grind

@[grind ←] theorem spares_truth (hid : P id) : Spares P (truth id) := by
  unfold truth
  repeat' first | with_reducible refine .bind ?_ fun _ _ => ?_ | with_reducible refine .either ?_ ?_ | split
  all_goals grind

end GuestM

end ScriptHost
