import ScriptHost.Guest.Method.Collections
import ScriptHost.Proofs.Reach.Attributes

/-! The functions of lists, dictionaries and sets stay within what a computation was given. -/
namespace ScriptHost
open GuestM (Spares)

variable {P : Identity → Prop} {α β : Type} [Refers α] [Refers β]
  {id item source start step stop target value : Identity} {arguments items : List Identity} {id? : Option Identity}
  {missing : GuestM Fault} {entries : Dict} {table : MemberTable}

namespace GuestM

@[grind ←] theorem spares_gather {x1 : Array Identity} {x2 : Cursor} (x0 : Nat) (hx1 : Within P x1)
    (hx2 : Within P x2) :
    Spares P (gather x0 x1 x2) := by
  induction x0 generalizing x1 x2 with
  | zero => exact .pure (by simp_all)
  | succ fuel ih =>
    rw [gather]
    repeat' first | with_reducible refine .bind ?_ fun _ _ => ?_ | with_reducible refine .either ?_ ?_ | split
    all_goals grind

@[grind ←] theorem spares_extendList (htarget : P target) (hsource : P source) :
    Spares P (extendList target source) := by
  unfold extendList
  repeat' first | with_reducible refine .bind ?_ fun _ _ => ?_ | with_reducible refine .either ?_ ?_ | split
  all_goals grind

end GuestM

namespace GuestM.placeOf?

@[grind ←] theorem spares_find {x2 : List Identity} (x1 : Nat) (hvalue : P value) (hx2 : Within P x2) :
    Spares P (placeOf?.find value x1 x2) := by
  induction x2 generalizing x1 with
  | nil => exact .pure (by simp)
  | cons item rest ih =>
    rw [placeOf?.find]
    repeat' first | with_reducible refine .bind ?_ fun _ _ => ?_ | with_reducible refine .either ?_ ?_ | split
    all_goals grind

end GuestM.placeOf?

namespace GuestM

@[grind ←] theorem spares_placeOf? (hitems : Within P items) (hvalue : P value) : Spares P (placeOf? items value) := by
  unfold placeOf?
  grind

@[grind ←] theorem spares_countOf (hitems : Within P items) (hvalue : P value) : Spares P (countOf items value) := by
  unfold countOf
  repeat' first | with_reducible refine .bind ?_ fun _ _ => ?_ | with_reducible refine .either ?_ ?_ | split
  all_goals grind

@[grind ←] theorem spares_boundOf (default : Int) (hid : Within P id?) : Spares P (boundOf default id?) := by
  unfold boundOf
  repeat' first | with_reducible refine .bind ?_ fun _ _ => ?_ | with_reducible refine .either ?_ ?_ | split
  all_goals grind

@[grind ←] theorem spares_sequenceIndex (hitems : Within P items) (harguments : Within P arguments)
    (hmissing : Spares P missing) :
    Spares P (sequenceIndex items arguments missing) := by
  refine .of_default fun hdefault => ?_
  unfold sequenceIndex
  repeat' first | with_reducible refine .bind ?_ fun _ _ => ?_ | with_reducible refine .either ?_ ?_ | split | dsimp only
  all_goals grind

@[grind ←] theorem spares_reversedData (hid : P id) : Spares P (reversedData id) := by
  unfold reversedData
  repeat' first | with_reducible refine .bind ?_ fun _ _ => ?_ | with_reducible refine .either ?_ ?_ | split
  all_goals grind

@[grind ←] theorem spares_reversed (hid : P id) : Spares P (reversed id) := by
  unfold reversed
  repeat' first | with_reducible refine .bind ?_ fun _ _ => ?_ | with_reducible refine .either ?_ ?_ | split
  all_goals grind

@[grind ←] theorem spares_checkFits (size : Nat) : Spares P (checkFits size) := by
  unfold checkFits
  repeat' first | with_reducible refine .bind ?_ fun _ _ => ?_ | with_reducible refine .either ?_ ?_ | split
  all_goals grind

@[grind ←] theorem spares_listMethod {items : Array Identity} (name : String) (htarget : P target)
    (hitems : Within P items) (harguments : Within P arguments) :
    Spares P (listMethod target items name arguments) := by
  refine .of_default fun hdefault => ?_
  have hfound (n : Int) (place : Nat) (item : Identity)
      (h : ((place? n items.size).bind fun place => (items[place]?).map fun item => (place, item)) = some (place, item)) :
      P item := by
    obtain ⟨_, -, hitem⟩ := Option.bind_eq_some_iff.mp h
    grind
  unfold listMethod
  repeat' first | with_reducible refine .bind ?_ fun _ _ => ?_ | with_reducible refine .either ?_ ?_ | with_reducible refine .discard ?_ | split
  all_goals grind

@[grind ←] theorem spares_tupleMethod {items : Array Identity} (name : String) (hitems : Within P items)
    (harguments : Within P arguments) :
    Spares P (tupleMethod items name arguments) := by
  refine .of_default fun hdefault => ?_
  unfold tupleMethod
  repeat' first | with_reducible refine .bind ?_ fun _ _ => ?_ | with_reducible refine .either ?_ ?_ | split
  all_goals grind

@[grind ←] theorem spares_addPairs (place : Nat) (htarget : P target) (hitem : P item) :
    Spares P (addPairs target place item) := by
  unfold addPairs
  repeat' first | with_reducible refine .bind ?_ fun _ _ => ?_ | with_reducible refine .either ?_ ?_ | split
  all_goals grind

@[grind ←] theorem spares_answeredItems (method : String) (htarget : P target) :
    Spares P (answeredItems target method) := by
  unfold answeredItems
  repeat' first | with_reducible refine .bind ?_ fun _ _ => ?_ | with_reducible refine .either ?_ ?_ | split
  all_goals grind

@[grind ←] theorem spares_updateDict (htarget : P target) (hsource : P source) :
    Spares P (updateDict target source) := by
  unfold updateDict
  refine .bind .get fun g hg => ?_
  extract_lets isOwn old
  clear_value isOwn
  cases isOwn
  all_goals repeat' first | with_reducible refine .bind ?_ fun _ _ => ?_ | with_reducible refine .either ?_ ?_ | split
  all_goals grind

@[grind ←] theorem spares_dictMethod (name : String) (htarget : P target) (hentries : Within P entries)
    (harguments : Within P arguments) :
    Spares P (dictMethod target entries name arguments) := by
  refine .of_default fun hdefault => ?_
  unfold dictMethod
  repeat' first | with_reducible refine .bind ?_ fun _ _ => ?_ | with_reducible refine .either ?_ ?_ | split
  all_goals grind

@[grind ←] theorem spares_fillKeys (htarget : P target) (hsource : P source) (hvalue : P value) :
    Spares P (fillKeys target source value) := by
  unfold fillKeys
  repeat' first | with_reducible refine .bind ?_ fun _ _ => ?_ | with_reducible refine .either ?_ ?_ | split
  all_goals grind

@[grind ←] theorem spares_memberForm (htable : Within P table) (hid : P id) : Spares P (memberForm table id) := by
  unfold memberForm
  repeat' first | with_reducible refine .bind ?_ fun _ _ => ?_ | with_reducible refine .either ?_ ?_ | split
  all_goals grind

@[grind ←] theorem spares_membersOf (hid : P id) : Spares P (membersOf id) := by
  unfold membersOf
  repeat' first | with_reducible refine .bind ?_ fun _ _ => ?_ | with_reducible refine .either ?_ ?_ | split
  all_goals grind

@[grind ←] theorem spares_addMembers (htable : Within P table) (hsource : P source) :
    Spares P (addMembers table source) := by
  unfold addMembers
  repeat' first | with_reducible refine .bind ?_ fun _ _ => ?_ | with_reducible refine .either ?_ ?_ | split
  all_goals grind

@[grind ←] theorem spares_common (htable : Within P table) (hsource : P source) : Spares P (common table source) := by
  unfold common
  repeat' first | with_reducible refine .bind ?_ fun _ _ => ?_ | with_reducible refine .either ?_ ?_ | split
  all_goals grind

@[grind ←] theorem spares_without (htable : Within P table) (hsource : P source) : Spares P (without table source) := by
  unfold without
  repeat' first | with_reducible refine .bind ?_ fun _ _ => ?_ | with_reducible refine .either ?_ ?_ | split
  all_goals grind

@[grind ←] theorem spares_lesser (htable : Within P table) (hsource : P source) : Spares P (lesser table source) := by
  unfold lesser
  repeat' first | with_reducible refine .bind ?_ fun _ _ => ?_ | with_reducible refine .either ?_ ?_ | split
  all_goals grind

@[grind ←] theorem spares_toggled (htable : Within P table) (hsource : P source) : Spares P (toggled table source) := by
  unfold toggled
  repeat' first | with_reducible refine .bind ?_ fun _ _ => ?_ | with_reducible refine .either ?_ ?_ | split
  all_goals grind

@[grind ←] theorem spares_hasCommon (htable : Within P table) (hsource : P source) :
    Spares P (hasCommon table source) := by
  unfold hasCommon
  repeat' first | with_reducible refine .bind ?_ fun _ _ => ?_ | with_reducible refine .either ?_ ?_ | split
  all_goals grind

@[grind ←] theorem spares_holdsAll (htable : Within P table) (hsource : P source) :
    Spares P (holdsAll table source) := by
  unfold holdsAll
  repeat' first | with_reducible refine .bind ?_ fun _ _ => ?_ | with_reducible refine .either ?_ ?_ | split
  all_goals grind

@[grind ←] theorem spares_setQuery (name : String) (htarget : P target) (htable : Within P table)
    (harguments : Within P arguments) :
    Spares P (setQuery target table name arguments) := by
  refine .of_default fun hdefault => ?_
  unfold setQuery
  repeat' first | with_reducible refine .bind ?_ fun _ _ => ?_ | with_reducible refine .either ?_ ?_ | split
  all_goals grind

@[grind ←] theorem spares_setMethod (name : String) (htarget : P target) (htable : Within P table)
    (harguments : Within P arguments) :
    Spares P (setMethod target table name arguments) := by
  refine .of_default fun hdefault => ?_
  unfold setMethod
  repeat' first | with_reducible refine .bind ?_ fun _ _ => ?_ | with_reducible refine .either ?_ ?_ | split
  all_goals grind

@[grind ←] theorem spares_frozenSetMethod (name : String) (htarget : P target) (htable : Within P table)
    (harguments : Within P arguments) :
    Spares P (frozenSetMethod target table name arguments) := by
  unfold frozenSetMethod
  grind

@[grind ←] theorem spares_rangeHolds (start : Int) (stop : Int) (step : Int) (htarget : P target) (hvalue : P value) :
    Spares P (rangeHolds target start stop step value) := by
  unfold rangeHolds
  repeat' first | with_reducible refine .bind ?_ fun _ _ => ?_ | with_reducible refine .either ?_ ?_ | split
  all_goals grind

@[grind ←] theorem spares_rangeMethod (start : Int) (stop : Int) (step : Int) (name : String) (htarget : P target)
    (harguments : Within P arguments) :
    Spares P (rangeMethod target start stop step name arguments) := by
  refine .of_default fun hdefault => ?_
  unfold rangeMethod
  repeat' first | with_reducible refine .bind ?_ fun _ _ => ?_ | with_reducible refine .either ?_ ?_ | split
  all_goals grind

@[grind ←] theorem spares_sliceMethod (name : String) (hstart : P start) (hstop : P stop) (hstep : P step)
    (harguments : Within P arguments) :
    Spares P (sliceMethod start stop step name arguments) := by
  unfold sliceMethod
  repeat' first | with_reducible refine .bind ?_ fun _ _ => ?_ | with_reducible refine .either ?_ ?_ | split
  all_goals grind

@[grind ←] theorem spares_viewOfDictMethod (name : String) (htarget : P target) (harguments : Within P arguments) :
    Spares P (viewOfDictMethod target name arguments) := by
  refine .of_default fun hdefault => ?_
  unfold viewOfDictMethod
  repeat' first | with_reducible refine .bind ?_ fun _ _ => ?_ | with_reducible refine .either ?_ ?_ | split
  all_goals grind

end GuestM

end ScriptHost
