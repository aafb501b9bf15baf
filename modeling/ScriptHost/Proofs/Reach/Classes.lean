import ScriptHost.Guest.ClassMaking
import ScriptHost.Proofs.Reach.Strings

/-! Attributes are set and classes are made within what a computation was given. -/
namespace ScriptHost
open GuestM (Spares)

variable {P : Identity → Prop} {α β : Type} [Refers α] [Refers β]
  {attributes base class? maker name new old own place target : Identity} {value : Option Identity} {g : Guest}
  {made : ScriptClass} {f : Function} {home : Place} {wrap : Identity → Body} {ancestors bases : List Identity}

instance : Inert MemberKind := ⟨⟩

instance : Inert (Option GuestM.PlaceNames) := ⟨⟩

namespace GuestM

@[grind ←] theorem spares_refuseChange (name : Text) :
    Spares P (refuseChange target name : GuestM α) := by
  unfold refuseChange
  repeat' first | with_reducible refine .bind ?_ fun _ _ => ?_ | with_reducible refine .either ?_ ?_ | split
  all_goals grind

@[grind ←] theorem spares_refuseClassChange (name : Text) :
    Spares P (refuseClassChange target name : GuestM α) := by
  unfold refuseClassChange
  repeat' first | with_reducible refine .bind ?_ fun _ _ => ?_ | with_reducible refine .either ?_ ?_ | split
  all_goals grind

@[grind ←] theorem spares_setExceptionData (name : String) (htarget : P target) (hvalue : Within P value) :
    Spares P (setExceptionData target name value) := by
  unfold setExceptionData
  repeat' first | with_reducible refine .bind ?_ fun _ _ => ?_ | with_reducible refine .either ?_ ?_ | split
  all_goals grind

@[grind ←] theorem spares_checkLayout (what : String) :
    Spares P (checkLayout what old new) := by
  unfold checkLayout
  repeat' first | with_reducible refine .bind ?_ fun _ _ => ?_ | with_reducible refine .either ?_ ?_ | split
  all_goals grind

@[grind ←] theorem spares_setClass (htarget : P target) (hclass : P class?) : Spares P (setClass target class?) := by
  unfold setClass
  repeat' first | with_reducible refine .bind ?_ fun _ _ => ?_ | with_reducible refine .either ?_ ?_ | split
  all_goals grind

/-- Classes of scripts can be found without a reference, but all of them are in the set. -/
theorem spares_bodyOf_bind {run : Body → GuestM α} (id : Identity)
    (hclass : ∀ made, P id → Within P made → Spares P (run (.classObject made)))
    (hother : ∀ body, (∀ made, body ≠ .classObject made) → Spares P (run body)) : Spares P (bodyOf id >>= run) :=
  fun context g hcontext hg => by
  have hrun : (bodyOf id >>= run) context g = run (g.body id) context g := rfl
  unfold Ends
  rw [hrun]
  cases hbody : g.body id with
  | classObject made =>
    have hid := hg.classes id made hbody
    have hmade := Guest.within_body_of hg hid
    rw [hbody] at hmade
    exact hclass made hid hmade context g hcontext hg
  | _ => exact hother _ (fun _ h => by cases h) context g hcontext hg

@[grind ←] theorem spares_renewHeirs : Spares P (renewHeirs class?) := by
  unfold renewHeirs
  refine .bind .get fun g hg => .bind (.forIn (within_nowhere _) trivial fun index _ _ _ => ?_) fun _ _ => .pure trivial
  refine spares_bodyOf_bind _ (fun made hid hmade => ?_) fun body hbody => ?_
  all_goals repeat' first | with_reducible refine .bind ?_ fun _ _ => ?_ | with_reducible refine .either ?_ ?_ | split
  all_goals grind

@[grind ←] theorem spares_setBases {value : Identity} (htarget : P target) (hvalue : P value) :
    Spares P (setBases target made value) := by
  unfold setBases
  repeat' first | with_reducible refine .bind ?_ fun _ _ => ?_ | with_reducible refine .either ?_ ?_ | split
  all_goals grind

@[grind ←] theorem spares_setClassData {value : Identity} (name : String) (htarget : P target) (hmade : Within P made)
    (hvalue : P value) :
    Spares P (setClassData target made name value) := by
  unfold setClassData
  repeat' first | with_reducible refine .bind ?_ fun _ _ => ?_ | with_reducible refine .either ?_ ?_ | split
  all_goals grind

@[grind ←] theorem spares_keepBeside (name : String) (htarget : P target) (hvalue : Within P value) :
    Spares P (keepBeside target name value) := by
  unfold keepBeside
  repeat' first | with_reducible refine .bind ?_ fun _ _ => ?_ | with_reducible refine .either ?_ ?_ | split
  all_goals grind

@[grind ←] theorem spares_setFunctionData (name : String) (htarget : P target) (hf : Within P f)
    (hhome : Within P home) (hvalue : Within P value) :
    Spares P (setFunctionData target f home name value) := by
  unfold setFunctionData
  refine .bind .get fun g hg => ?_
  extract_lets isNothing insist
  have hinsist : ∀ type what, Spares P (insist type what) := by grind
  clear_value isNothing insist
  repeat' first | with_reducible refine .bind ?_ fun _ _ => ?_ | with_reducible refine .either ?_ ?_ | split
  all_goals grind

@[grind ←] theorem spares_setOwnData (name : String) (htarget : P target) (hvalue : Within P value) :
    Spares P (setOwnData target name value) := by
  unfold setOwnData
  repeat' first | with_reducible refine .bind ?_ fun _ _ => ?_ | with_reducible refine .either ?_ ?_ | split
  all_goals grind

@[grind ←] theorem spares_setAttributes (htarget : P target) (hvalue : Within P value) :
    Spares P (setAttributes target value) := by
  unfold setAttributes
  repeat' first | with_reducible refine .bind ?_ fun _ _ => ?_ | with_reducible refine .either ?_ ?_ | split
  all_goals grind

@[grind ←] theorem spares_keepIn (name : Text) (kind : MemberKind) (hplace : P place) (htarget : P target)
    (hvalue : Within P value) :
    Spares P (keepIn place target class? name kind value) := by
  unfold keepIn
  repeat' first | with_reducible refine .bind ?_ fun _ _ => ?_ | with_reducible refine .either ?_ ?_ | split
  all_goals grind

@[grind ←] theorem spares_changedByClass (name : Text) (htarget : P target) (hvalue : Within P value) :
    Spares P (changedByClass target name value) := by
  unfold changedByClass
  repeat' first | with_reducible refine .bind ?_ fun _ _ => ?_ | with_reducible refine .either ?_ ?_ | split
  all_goals grind

@[grind ←] theorem spares_setAttributeByDefault {value : Identity} (name : Text) (htarget : P target)
    (hvalue : P value) :
    Spares P (setAttributeByDefault target name value) := by
  unfold setAttributeByDefault
  repeat' first | with_reducible refine .bind ?_ fun _ _ => ?_ | with_reducible refine .either ?_ ?_ | split
  all_goals grind

@[grind ←] theorem spares_setAttributeNamed {value : Identity} (name : Text) (htarget : P target) (hvalue : P value) :
    Spares P (setAttributeNamed target name value) := by
  unfold setAttributeNamed
  repeat' first | with_reducible refine .bind ?_ fun _ _ => ?_ | with_reducible refine .either ?_ ?_ | split
  all_goals grind

@[grind ←] theorem spares_setAttribute {value : Identity} (name : String) (htarget : P target) (hvalue : P value) :
    Spares P (setAttribute target name value) := by
  unfold setAttribute
  grind

@[grind ←] theorem spares_deleteAttributeByDefault (name : Text) (htarget : P target) :
    Spares P (deleteAttributeByDefault target name) := by
  unfold deleteAttributeByDefault
  repeat' first | with_reducible refine .bind ?_ fun _ _ => ?_ | with_reducible refine .either ?_ ?_ | split
  all_goals grind

@[grind ←] theorem spares_deleteAttributeNamed (name : Text) (htarget : P target) :
    Spares P (deleteAttributeNamed target name) := by
  unfold deleteAttributeNamed
  repeat' first | with_reducible refine .bind ?_ fun _ _ => ?_ | with_reducible refine .either ?_ ?_ | split
  all_goals grind

@[grind ←] theorem spares_classNameOf (t : Text) : Spares P (classNameOf t) := by
  unfold classNameOf
  repeat' first | with_reducible refine .bind ?_ fun _ _ => ?_ | with_reducible refine .either ?_ ?_ | split
  all_goals grind

@[grind ←] theorem spares_fullNameOf (name : String) :
    Spares P (fullNameOf attributes name) := by
  unfold fullNameOf
  repeat' first | with_reducible refine .bind ?_ fun _ _ => ?_ | with_reducible refine .either ?_ ?_ | split
  all_goals grind

@[grind ←] theorem spares_settleFunction (name : String) (hown : P own) (hwrap : ∀ a, P a → Within P (wrap a)) :
    Spares P (settleFunction own name wrap) := by
  unfold settleFunction
  repeat' first | with_reducible refine .bind ?_ fun _ _ => ?_ | with_reducible refine .either ?_ ?_ | split
  all_goals grind

@[grind ←] theorem spares_placeNames (hasOpenBase : Bool) (hattributes : P attributes) :
    Spares P (placeNames base attributes hasOpenBase) := by
  unfold placeNames
  repeat' first | with_reducible refine .bind ?_ fun _ _ => ?_ | with_reducible refine .either ?_ ?_ | split
  all_goals grind

@[grind ←] theorem spares_complete (layout : String) (places : Option PlaceNames) (hasOpenBase : Bool)
    (hclass : P class?) (hown : P own) :
    Spares P (complete class? own base layout places hasOpenBase) := by
  unfold complete
  extract_lets addMissing
  have haddMissing : ∀ name value, Spares P value → Spares P (addMissing name value) := fun name value hvalue => by
    simp only [addMissing]
    repeat' first | with_reducible refine .bind ?_ fun _ _ => ?_ | with_reducible refine .either ?_ ?_ | split
    all_goals grind
  clear_value addMissing
  repeat' first | with_reducible refine .bind ?_ fun _ _ => ?_ | with_reducible refine .either ?_ ?_ | dsimp only | split
  all_goals grind

@[grind ←] theorem spares_nameEntries (hclass : P class?) (hown : P own) : Spares P (nameEntries class? own) := by
  unfold nameEntries
  refine .bind .get fun g hg => .bind (.forIn (Guest.within_entries hg hown) trivial fun entry _ hentry _ => ?_) fun _ _ =>
    .pure trivial
  repeat' first | with_reducible refine .bind ?_ fun _ _ => ?_ | with_reducible refine .either ?_ ?_ | split
  all_goals grind

@[grind ←] theorem spares_announce (hclass : P class?) (hancestors : Within P ancestors) :
    Spares P (announce class? ancestors) := by
  unfold announce
  repeat' first | with_reducible refine .bind ?_ fun _ _ => ?_ | with_reducible refine .either ?_ ?_ | split
  all_goals grind

@[grind ←] theorem spares_makeClass (name : Text) (hmaker : P maker) (hbases : Within P bases)
    (hattributes : P attributes) :
    Spares P (makeClass maker name bases attributes) := by
  unfold makeClass
  repeat' first | with_reducible refine .bind ?_ fun _ _ => ?_ | with_reducible refine .either ?_ ?_ | split
  all_goals grind

@[grind ←] theorem spares_makeClassFrom {bases : Identity} (hmaker : P maker) (hname : P name) (hbases : P bases)
    (hattributes : P attributes) :
    Spares P (makeClassFrom maker name bases attributes) := by
  unfold makeClassFrom
  repeat' first | with_reducible refine .bind ?_ fun _ _ => ?_ | with_reducible refine .either ?_ ?_ | split
  all_goals grind

end GuestM

end ScriptHost
