import ScriptHost.Guest.Operators
import ScriptHost.Proofs.Reach.Iteration

/-! Operators on objects, and what collections hold at places and under keys, stay within what a computation was given. -/
namespace ScriptHost
open GuestM (Spares)

variable {P : Identity → Prop} {α β : Type} [Refers α] [Refers β]
  {a b class? count dict id key model sequence source start step stop target value : Identity} {g : Guest}
  {members s t : MemberTable} {data : GuestM (Option Identity)} {items : Array α} {values : List α}

instance : Inert Operation := ⟨⟩

namespace GuestM

@[grind ←] theorem spares_widened (n : Int) : Spares P (widened n) := by
  unfold widened
  repeat' first | with_reducible refine .bind ?_ fun _ _ => ?_ | with_reducible refine .either ?_ ?_ | split
  all_goals grind

@[grind ←] theorem spares_zeroDivision (text : String) : Spares P (zeroDivision text : GuestM α) := by
  unfold zeroDivision
  grind

@[grind ←] theorem spares_divideInts (a : Int) (b : Int) : Spares P (divideInts a b) := by
  unfold divideInts
  repeat' first | with_reducible refine .bind ?_ fun _ _ => ?_ | with_reducible refine .either ?_ ?_ | split
  all_goals grind

@[grind ←] theorem spares_zeroToNegative : Spares P (zeroToNegative : GuestM α) := by
  unfold zeroToNegative
  grind

@[grind ←] theorem spares_complexPower (a : Double × Double) (b : Double × Double) : Spares P (complexPower a b) := by
  unfold complexPower
  repeat' first | with_reducible refine .bind ?_ fun _ _ => ?_ | with_reducible refine .either ?_ ?_ | split
  all_goals grind

@[grind ←] theorem spares_parts (x0 : Number) : Spares P (parts x0) := by
  unfold parts
  repeat' first | with_reducible refine .bind ?_ fun _ _ => ?_ | with_reducible refine .either ?_ ?_ | split
  all_goals grind

@[grind ←] theorem spares_complexOperation (op : Operation) (a : Double × Double) (b : Double × Double) :
    Spares P (complexOperation op a b) := by
  unfold complexOperation
  repeat' first | with_reducible refine .bind ?_ fun _ _ => ?_ | with_reducible refine .either ?_ ?_ | split
  all_goals grind

@[grind ←] theorem spares_floatPower (x : Double) (y : Double) : Spares P (floatPower x y) := by
  unfold floatPower
  repeat' first | with_reducible refine .bind ?_ fun _ _ => ?_ | with_reducible refine .either ?_ ?_ | split
  all_goals grind

@[grind ←] theorem spares_floatOperation (op : Operation) (x : Double) (y : Double) :
    Spares P (floatOperation op x y) := by
  unfold floatOperation
  repeat' first | with_reducible refine .bind ?_ fun _ _ => ?_ | with_reducible refine .either ?_ ?_ | split
  all_goals grind

@[grind ←] theorem spares_shiftBy (a : Int) (b : Int) (left : Bool) : Spares P (shiftBy a b left) := by
  unfold shiftBy
  repeat' first | with_reducible refine .bind ?_ fun _ _ => ?_ | with_reducible refine .either ?_ ?_ | split
  all_goals grind

@[grind ←] theorem spares_intOperation (op : Operation) (a : Int) (b : Int) : Spares P (intOperation op a b) := by
  unfold intOperation
  repeat' first | with_reducible refine .bind ?_ fun _ _ => ?_ | with_reducible refine .either ?_ ?_ | split
  all_goals grind

@[grind ←] theorem spares_calculate (op : Operation) (a : Number) (b : Number) : Spares P (calculate op a b) := by
  unfold calculate
  repeat' first | with_reducible refine .bind ?_ fun _ _ => ?_ | with_reducible refine .either ?_ ?_ | split
  all_goals grind

@[grind ←] theorem spares_modularPower (base : Int) (exponent : Int) (modulus : Int) :
    Spares P (modularPower base exponent modulus) := by
  unfold modularPower
  repeat' first | with_reducible refine .bind ?_ fun _ _ => ?_ | with_reducible refine .either ?_ ?_ | split
  all_goals grind

@[grind ←] theorem spares_negated (x0 : Number) : Spares P (negated x0) := by
  unfold negated
  repeat' first | with_reducible refine .bind ?_ fun _ _ => ?_ | with_reducible refine .either ?_ ?_ | split
  all_goals grind

@[grind ←] theorem spares_magnitude (x0 : Number) : Spares P (magnitude x0) := by
  unfold magnitude
  repeat' first | with_reducible refine .bind ?_ fun _ _ => ?_ | with_reducible refine .either ?_ ?_ | split
  all_goals grind

@[grind ←] theorem spares_notSupported (op : Operation) :
    Spares P (notSupported op a b : GuestM α) := by
  unfold notSupported
  repeat' first | with_reducible refine .bind ?_ fun _ _ => ?_ | with_reducible refine .either ?_ ?_ | split
  all_goals grind

@[grind ←] theorem spares_isExact : Spares P (isExact id) := by
  unfold isExact
  repeat' first | with_reducible refine .bind ?_ fun _ _ => ?_ | with_reducible refine .either ?_ ?_ | split
  all_goals grind

@[grind ←] theorem spares_cannotJoin (kind : String) : Spares P (cannotJoin kind b : GuestM α) := by
  unfold cannotJoin
  repeat' first | with_reducible refine .bind ?_ fun _ _ => ?_ | with_reducible refine .either ?_ ?_ | split
  all_goals grind

@[grind ←] theorem spares_cannotJoinBytes : Spares P (cannotJoinBytes a b : GuestM α) := by
  unfold cannotJoinBytes
  repeat' first | with_reducible refine .bind ?_ fun _ _ => ?_ | with_reducible refine .either ?_ ?_ | split
  all_goals grind

@[grind ←] theorem spares_join? (ha : P a) (hb : P b) : Spares P (join? a b) := by
  unfold join?
  repeat' first | with_reducible refine .bind ?_ fun _ _ => ?_ | with_reducible refine .either ?_ ?_ | split
  all_goals grind

@[grind ←] theorem within_copies {items : List α} (n : Int) (hi : Within P items) : Within P (copies n items) :=
  within_flatten (within_replicate _ hi)

@[grind ←] theorem within_repeated? (n : Int) (hg : Within P g) (hs : P sequence) :
    Within P (repeated? g sequence n) := by
  unfold repeated?
  extract_lets exact checked outOfMemory unchangedOr
  have hchecked : ∀ size tooLong make, Spares P make → Spares P (checked size tooLong make) :=
    fun size tooLong make h => .ite (fun _ => .raise _) fun _ => .ite (fun _ => .raise _) fun _ => h
  have hunchanged : ∀ size make, Spares P make → Spares P (unchangedOr size make) :=
    fun size make h => .ite (fun _ => .pure hs) fun _ => h
  clear_value checked unchangedOr
  split
  all_goals simp only [within_some, within_none, within_run]
  all_goals grind

@[grind ←] theorem spares_repeatSequence (hsequence : P sequence) (hcount : P count) :
    Spares P (repeatSequence sequence count) := by
  unfold repeatSequence
  repeat' first | with_reducible refine .bind ?_ fun _ _ => ?_ | with_reducible refine .either ?_ ?_ | split
  all_goals grind

@[grind ←] theorem within_membersOf? (hg : Within P g) (hid : P id) : Within P (membersOf? g id) := by
  unfold membersOf?
  grind

grind_pattern within_membersOf? => Within P g, membersOf? g id

@[grind ←] theorem spares_setLike (hmodel : P model) (hmembers : Within P members) :
    Spares P (setLike model members) := by
  unfold setLike
  repeat' first | with_reducible refine .bind ?_ fun _ _ => ?_ | with_reducible refine .either ?_ ?_ | split
  all_goals grind

@[grind ←] theorem within_combineSets (op : Operation) (hs : Within P s) (ht : Within P t) :
    Within P (combineSets op s t) := by
  unfold combineSets
  grind

grind_pattern within_combineSets => Within P s, combineSets op s t

@[grind ←] theorem spares_combine? (op : Operation) (ha : P a) (hb : P b) : Spares P (combine? op a b) := by
  unfold combine?
  repeat' first | with_reducible refine .bind ?_ fun _ _ => ?_ | with_reducible refine .either ?_ ?_ | split
  all_goals grind

@[grind ←] theorem spares_merge? (op : Operation) (ha : P a) (hb : P b) : Spares P (merge? op a b) := by
  unfold merge?
  repeat' first | with_reducible refine .bind ?_ fun _ _ => ?_ | with_reducible refine .either ?_ ?_ | split
  all_goals grind

@[grind ←] theorem spares_operateData? (op : Operation) (ha : P a) (hb : P b) : Spares P (operateData? op a b) := by
  unfold operateData?
  repeat' first | with_reducible refine .bind ?_ fun _ _ => ?_ | with_reducible refine .either ?_ ?_ | split
  all_goals grind

@[grind ←] theorem spares_operateBy (name : String) (hdata : Spares P data) (ha : P a) (hb : P b) :
    Spares P (operateBy name data a b) := by
  unfold operateBy
  repeat' first | with_reducible refine .bind ?_ fun _ _ => ?_ | with_reducible refine .either ?_ ?_ | split
  all_goals grind

@[grind ←] theorem spares_operate? (op : Operation) (ha : P a) (hb : P b) : Spares P (operate? op a b) := by
  unfold operate?
  repeat' first | with_reducible refine .bind ?_ fun _ _ => ?_ | with_reducible refine .either ?_ ?_ | split
  all_goals grind

@[grind ←] theorem spares_operate (op : Operation) (ha : P a) (hb : P b) : Spares P (operate op a b) := by
  unfold operate
  repeat' first | with_reducible refine .bind ?_ fun _ _ => ?_ | with_reducible refine .either ?_ ?_ | split
  all_goals grind

@[grind ←] theorem spares_missingKey (hkey : P key) : Spares P (missingKey key : GuestM α) := by
  unfold missingKey
  repeat' first | with_reducible refine .bind ?_ fun _ _ => ?_ | with_reducible refine .either ?_ ?_ | split
  all_goals grind

@[grind ←] theorem spares_valueAt (hdict : P dict) (hkey : P key) : Spares P (valueAt dict key) := by
  unfold valueAt
  repeat' first | with_reducible refine .bind ?_ fun _ _ => ?_ | with_reducible refine .either ?_ ?_ | split
  all_goals grind

@[grind ←] theorem spares_outOfRange (what : String) : Spares P (outOfRange what : GuestM α) := by
  unfold outOfRange
  grind

@[grind ←] theorem spares_indexed (n : Int) (what : String) (hitems : Within P items) :
    Spares P (indexed items n what : GuestM α) := by
  unfold indexed
  have hfound : Within P ((place? n items.size).bind fun place => items[place]?) :=
    within_optionBind (within_nowhere _) fun place _ => within_array_getElem? hitems place
  split <;> grind

@[grind ←] theorem spares_refuseReleased : Spares P (refuseReleased : GuestM α) := by
  unfold refuseReleased
  grind

@[grind ←] theorem spares_itemAt (n : Int) (htarget : P target) : Spares P (itemAt target n) := by
  unfold itemAt
  repeat' first | with_reducible refine .bind ?_ fun _ _ => ?_ | with_reducible refine .either ?_ ?_ | split
  all_goals grind

@[grind ←] theorem spares_sliceOf (htarget : P target) (hstart : P start) (hstop : P stop) (hstep : P step) :
    Spares P (sliceOf target start stop step) := by
  unfold sliceOf
  repeat' first | with_reducible refine .bind ?_ fun _ _ => ?_ | with_reducible refine .either ?_ ?_ | split
  all_goals grind

@[grind ←] theorem spares_wrongPlace :
    Spares P (wrongPlace target key : GuestM α) := by
  unfold wrongPlace
  repeat' first | with_reducible refine .bind ?_ fun _ _ => ?_ | with_reducible refine .either ?_ ?_ | split
  all_goals grind

@[grind ←] theorem spares_genericOf (hclass : P class?) (hkey : P key) : Spares P (genericOf class? key) := by
  unfold genericOf
  repeat' first | with_reducible refine .bind ?_ fun _ _ => ?_ | with_reducible refine .either ?_ ?_ | split
  all_goals grind

@[grind ←] theorem spares_notSubscriptable (class? : String) : Spares P (notSubscriptable class? : GuestM α) := by
  unfold notSubscriptable
  grind

@[grind ←] theorem spares_subscriptOfClass (hclass : P class?) (hkey : P key) :
    Spares P (subscriptOfClass class? key) := by
  unfold subscriptOfClass
  repeat' first | with_reducible refine .bind ?_ fun _ _ => ?_ | with_reducible refine .either ?_ ?_ | split
  all_goals grind

@[grind ←] theorem spares_itemAtKey (htarget : P target) (hkey : P key) : Spares P (itemAtKey target key) := by
  unfold itemAtKey
  repeat' first | with_reducible refine .bind ?_ fun _ _ => ?_ | with_reducible refine .either ?_ ?_ | split
  all_goals grind

@[grind ←] theorem spares_subscriptData (htarget : P target) (hkey : P key) : Spares P (subscriptData target key) := by
  unfold subscriptData
  refine .bind .get fun g hg => ?_
  have hkeys : ∀ items, g.body key = .tuple items → Within P items.toList := by grind
  repeat' first | with_reducible refine .bind ?_ fun _ _ => ?_ | with_reducible refine .either ?_ ?_ | split
  all_goals grind

@[grind ←] theorem spares_subscript (htarget : P target) (hkey : P key) : Spares P (subscript target key) := by
  unfold subscript
  repeat' first | with_reducible refine .bind ?_ fun _ _ => ?_ | with_reducible refine .either ?_ ?_ | split
  all_goals grind

@[grind ←] theorem spares_refuseViewed : Spares P (refuseViewed target) := by
  unfold refuseViewed
  repeat' first | with_reducible refine .bind ?_ fun _ _ => ?_ | with_reducible refine .either ?_ ?_ | split
  all_goals grind

@[grind ←] theorem spares_byteOf (hid : P id) : Spares P (byteOf id) := by
  unfold byteOf
  repeat' first | with_reducible refine .bind ?_ fun _ _ => ?_ | with_reducible refine .either ?_ ?_ | split
  all_goals grind

@[grind ←] theorem spares_replaceSlice (places : Places) (what : String) (hitems : Within P items)
    (hvalues : Within P values) :
    Spares P (replaceSlice items places what values : GuestM (Array α)) := by
  unfold replaceSlice
  repeat' first | with_reducible refine .bind ?_ fun _ _ => ?_ | with_reducible refine .either ?_ ?_ | split
  all_goals grind

@[grind ←] theorem spares_iterableItems (text : String) (hvalue : P value) : Spares P (iterableItems text value) := by
  unfold iterableItems
  repeat' first | with_reducible refine .bind ?_ fun _ _ => ?_ | with_reducible refine .either ?_ ?_ | split
  all_goals grind

@[grind ←] theorem spares_assignedBytes (hvalue : P value) : Spares P (assignedBytes value) := by
  unfold assignedBytes
  repeat' first | with_reducible refine .bind ?_ fun _ _ => ?_ | with_reducible refine .either ?_ ?_ | split
  all_goals grind

@[grind ←] theorem spares_setListSlice {items : Array Identity} (htarget : P target) (hstart : P start)
    (hstop : P stop) (hstep : P step) (hvalue : P value) (hitems : Within P items) :
    Spares P (setListSlice target start stop step value items) := by
  unfold setListSlice
  repeat' first | with_reducible refine .bind ?_ fun _ _ => ?_ | with_reducible refine .either ?_ ?_ | split
  all_goals grind

@[grind ←] theorem spares_setByteSlice (data : List UInt8) (htarget : P target) (hstart : P start) (hstop : P stop)
    (hstep : P step) (hvalue : P value) :
    Spares P (setByteSlice target start stop step value data) := by
  unfold setByteSlice
  repeat' first | with_reducible refine .bind ?_ fun _ _ => ?_ | with_reducible refine .either ?_ ?_ | split
  all_goals grind

@[grind ←] theorem spares_setListItem {items : Array Identity} (htarget : P target) (hkey : P key) (hvalue : P value)
    (hitems : Within P items) :
    Spares P (setListItem target key value items) := by
  unfold setListItem
  repeat' first | with_reducible refine .bind ?_ fun _ _ => ?_ | with_reducible refine .either ?_ ?_ | split
  all_goals grind

@[grind ←] theorem spares_setByte (place : Nat) (b : UInt8) (htarget : P target) :
    Spares P (setByte target place b) := by
  unfold setByte
  repeat' first | with_reducible refine .bind ?_ fun _ _ => ?_ | with_reducible refine .either ?_ ?_ | split
  all_goals grind

@[grind ←] theorem spares_setByteItem (data : List UInt8) (htarget : P target) (hkey : P key) (hvalue : P value) :
    Spares P (setByteItem target key value data) := by
  unfold setByteItem
  repeat' first | with_reducible refine .bind ?_ fun _ _ => ?_ | with_reducible refine .either ?_ ?_ | split
  all_goals grind

@[grind ←] theorem spares_setViewItem (first : Int) (step : Int) (count : Nat) (hsource : P source) (hkey : P key)
    (hvalue : P value) :
    Spares P (setViewItem source key value first step count) := by
  unfold setViewItem
  repeat' first | with_reducible refine .bind ?_ fun _ _ => ?_ | with_reducible refine .either ?_ ?_ | split
  all_goals grind

@[grind ←] theorem spares_setItemData (htarget : P target) (hkey : P key) (hvalue : P value) :
    Spares P (setItemData target key value) := by
  unfold setItemData
  repeat' first | with_reducible refine .bind ?_ fun _ _ => ?_ | with_reducible refine .either ?_ ?_ | split
  all_goals grind

@[grind ←] theorem within_withoutPlaces {items : Array α} (places : Places) (hi : Within P items) :
    Within P (withoutPlaces items places) := by
  unfold withoutPlaces
  exact within_map (within_filter _ (within_zip (within_nowhere _) hi)) fun _ h => h.2

@[grind ←] theorem spares_setItem (htarget : P target) (hkey : P key) (hvalue : P value) :
    Spares P (setItem target key value) := by
  unfold setItem
  repeat' first | with_reducible refine .bind ?_ fun _ _ => ?_ | with_reducible refine .either ?_ ?_ | split
  all_goals grind

@[grind ←] theorem spares_deleteItemData (htarget : P target) (hkey : P key) : Spares P (deleteItemData target key) := by
  unfold deleteItemData
  repeat' first | with_reducible refine .bind ?_ fun _ _ => ?_ | with_reducible refine .either ?_ ?_ | split
  all_goals grind

@[grind ←] theorem spares_deleteItem (htarget : P target) (hkey : P key) : Spares P (deleteItem target key) := by
  unfold deleteItem
  repeat' first | with_reducible refine .bind ?_ fun _ _ => ?_ | with_reducible refine .either ?_ ?_ | split
  all_goals grind

end GuestM

end ScriptHost
