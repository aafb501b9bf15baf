import ScriptHost.Guest.Slice
import ScriptHost.Proofs.Reach.Comparison

/-! Iterators give nothing but what they go through, and slices pick nothing else. -/
namespace ScriptHost
open GuestM (Spares)

variable {P : Identity → Prop} {α σ : Type} [Refers α] [Refers σ] {g : Guest}
  {answer id key mapping source stop : Identity} {entry : DictEntry} {run : GuestM (Option α)}
  {c : Cursor} {item : Option Identity}
  {passes : Identity → GuestM Bool}
  {step : σ → Identity → GuestM (σ × Bool)} {state : σ}

instance : Inert DictPart := ⟨⟩

instance : Inert GuestM.Places := ⟨⟩

namespace Guest

theorem within_openBody (hg : Within P g) (hid : P id) : Within P (openBody g id) := by
  unfold openBody
  split <;> grind

grind_pattern within_openBody => Within P g, openBody g id

end Guest

namespace GuestM

@[grind ←] theorem spares_notIterable : Spares P (notIterable id : GuestM α) := by
  unfold notIterable
  repeat' first | with_reducible refine .bind ?_ fun _ _ => ?_ | with_reducible refine .either ?_ ?_ | split
  all_goals grind

@[grind ←] theorem spares_answeredCursor (hanswer : P answer) : Spares P (answeredCursor answer) := by
  unfold answeredCursor
  repeat' first | with_reducible refine .bind ?_ fun _ _ => ?_ | with_reducible refine .either ?_ ?_ | split
  all_goals grind

@[grind ←] theorem spares_openingOfData (hid : P id) : Spares P (openingOfData id) := by
  unfold openingOfData
  repeat' first | with_reducible refine .bind ?_ fun _ _ => ?_ | with_reducible refine .either ?_ ?_ | split
  all_goals grind

@[grind ←] theorem spares_opening (hid : P id) : Spares P (opening id) := by
  unfold opening
  refine .bind .get fun g hg => ?_
  extract_lets byPlace
  have hbyPlace : Spares P byPlace := by
    simp only [byPlace]
    split <;> grind
  clear_value byPlace
  repeat' first | with_reducible refine .bind ?_ fun _ _ => ?_ | with_reducible refine .either ?_ ?_ | split
  all_goals grind

@[grind .] theorem within_finished : Within P finished := by simp [finished]

@[grind ←] theorem spares_itemAtPlace (place : Nat) (hsource : P source) : Spares P (itemAtPlace source place) := by
  unfold itemAtPlace
  repeat' first | with_reducible refine .bind ?_ fun _ _ => ?_ | with_reducible refine .either ?_ ?_ | split
  all_goals grind

@[grind ←] theorem spares_itemFromEnd (place : Nat) (hsource : P source) : Spares P (itemFromEnd source place) := by
  unfold itemFromEnd
  repeat' first | with_reducible refine .bind ?_ fun _ _ => ?_ | with_reducible refine .either ?_ ?_ | split
  all_goals grind

@[grind ←] theorem spares_entryPart (part : DictPart) (hentry : Within P entry) : Spares P (entryPart part entry) := by
  unfold entryPart
  repeat' first | with_reducible refine .bind ?_ fun _ _ => ?_ | with_reducible refine .either ?_ ?_ | split
  all_goals grind

@[grind ←] theorem spares_untilStop (hrun : Spares P run) : Spares P (untilStop run : GuestM (Option α)) := by
  unfold untilStop
  grind

@[grind ←] theorem spares_untilEnd (hrun : Spares P run) : Spares P (untilEnd run : GuestM (Option α)) := by
  unfold untilEnd
  grind

@[grind ←] theorem spares_looked (part : DictPart) (hmapping : P mapping) (hkey : P key) :
    Spares P (looked mapping part key) := by
  unfold looked
  repeat' first | with_reducible refine .bind ?_ fun _ _ => ?_ | with_reducible refine .either ?_ ?_ | split
  all_goals grind

@[grind ←] theorem within_keep (hc : Within P c) (hitem : Within P item) : Within P (keep c item) := by
  unfold keep
  grind

grind_pattern within_keep => Within P c, keep c item

@[grind ←] theorem spares_oneOfEach {advance : Identity → GuestM (Option Identity)}
    (hadvance : ∀ a, P a → Spares P (advance a)) {sources : List Identity} (hs : Within P sources) : Spares P (oneOfEach advance sources) := by
  induction sources with
  | nil => exact .pure (by simp)
  | cons source sources ih =>
    rw [oneOfEach]
    repeat' first | with_reducible refine .bind ?_ fun _ _ => ?_ | with_reducible refine .either ?_ ?_ | split
    all_goals grind

@[grind ←] theorem spares_firstPassing {advance : GuestM (Option Identity)} (hadvance : Spares P advance)
    (hpasses : ∀ a, P a → Spares P (passes a)) (fuel : Nat) : Spares P (firstPassing advance passes fuel) := by
  induction fuel with
  | zero => exact .pure (by simp)
  | succ fuel ih =>
    rw [firstPassing]
    repeat' first | with_reducible refine .bind ?_ fun _ _ => ?_ | with_reducible refine .either ?_ ?_ | split
    all_goals grind

@[grind ←] theorem spares_sizeChanged (what : String) : Spares P (sizeChanged what : GuestM α) := by
  unfold sizeChanged
  grind

@[grind ←] theorem spares_stepped {advance : GuestM (Option (Identity × Cursor))} (type : String) (c : Cursor)
    (hid : P id) (hadvance : Spares P advance) : Spares P (stepped id type c advance) := by
  unfold stepped
  repeat' first | with_reducible refine .bind ?_ fun _ _ => ?_ | with_reducible refine .either ?_ ?_ | split
  all_goals grind

theorem spares_advanceTo (depth : Nat) (hc : Within P c) : Spares P (advanceTo depth c) := by
  fun_induction advanceTo depth c
  all_goals repeat' first | with_reducible refine .bind ?_ fun _ _ => ?_ | with_reducible refine .either ?_ ?_ | dsimp only | split
  all_goals grind

@[grind ←] theorem spares_advance (hc : Within P c) : Spares P (advance c) :=
  .bind .get fun _ _ => spares_advanceTo _ hc

@[grind ←] theorem spares_nextOfData (hid : P id) : Spares P (nextOfData id) := by
  unfold nextOfData
  refine .bind (spares_bodyOf hid) fun body hbody => ?_
  split
  · exact spares_stepped _ _ hid (spares_advance (by simpa using hbody))
  · exact .pure (by simp)

@[grind ←] theorem spares_cursor (hid : P id) : Spares P (cursor id) :=
  .bind (spares_opening hid) fun _ h => .pure h.2

@[grind ←] theorem spares_cursor? (hid : P id) : Spares P (cursor? id) :=
  .tryCatch (.map (spares_cursor hid) fun _ h => (within_some _).mpr h) fun _ => .either (.pure (by simp)) (.raise _)

@[grind ←] theorem spares_foldUntil (hstep : ∀ a b, Within P a → P b → Spares P (step a b)) (fuel : Nat)
    (hs : Within P state) (hc : Within P c) : Spares P (foldUntil step fuel state c) := by
  induction fuel generalizing state c with
  | zero => exact .pure hs
  | succ fuel ih =>
    rw [foldUntil]
    refine .bind (spares_advance hc) fun next hnext => ?_
    split
    · exact .pure hs
    · next item c =>
      obtain ⟨hitem, hc⟩ := (within_some _).mp hnext
      exact .bind (hstep _ _ hs hitem) fun _ h => .either (.pure h.1) (ih h.1 hc)

@[grind ←] theorem spares_foldItemsUntil (hid : P id) (hs : Within P state)
    (hstep : ∀ a b, Within P a → P b → Spares P (step a b)) :
    Spares P (foldItemsUntil id state step : GuestM σ) := by
  unfold foldItemsUntil
  exact .bind (spares_cursor hid) fun _ hc => spares_foldUntil hstep mostItems hs hc

@[grind ←] theorem spares_foldItems {step : σ → Identity → GuestM σ} (hid : P id) (hs : Within P state)
    (hstep : ∀ a b, Within P a → P b → Spares P (step a b)) :
    Spares P (foldItems id state step : GuestM σ) :=
  spares_foldItemsUntil hid hs fun a b ha hb => .bind (hstep a b ha hb) fun _ h => .pure ⟨h, trivial⟩

theorem within_knownItems? (hg : Within P g) (hid : P id) : Within P (knownItems? g id) := by
  unfold knownItems?
  split <;> grind

grind_pattern within_knownItems? => Within P g, knownItems? g id

@[grind ←] theorem spares_checkHint (c : Cursor) : Spares P (checkHint c) := by
  unfold checkHint
  with_reducible refine .bind .get fun g _ => ?_
  dsimp only
  split
  · exact .raise _
  · split
    · exact .raise _
    · exact .pure trivial

@[grind ←] theorem spares_itemsFrom (hc : Within P c) : Spares P (itemsFrom c) := by
  unfold itemsFrom
  with_reducible refine .bind (spares_checkHint c) fun _ _ => .bind (spares_foldUntil ?_ _ (by simp) hc) fun _ h => ?_
  · exact fun found item hfound hitem => .pure ⟨by grind, trivial⟩
  · exact .pure h

@[grind ←] theorem spares_itemsOf (hid : P id) : Spares P (itemsOf id) := by
  unfold itemsOf
  refine .bind .get fun g hg => ?_
  split
  · next items hitems => exact .pure (by grind)
  · with_reducible exact .bind (spares_cursor hid) fun _ hc => spares_itemsFrom hc

@[grind ←] theorem spares_itemsOf? (hid : P id) : Spares P (itemsOf? id) := by
  unfold itemsOf?
  refine .bind .get fun g hg => ?_
  split
  · next items hitems => exact .pure (by grind)
  · with_reducible exact .bind (spares_cursor? hid) fun _ h => .mapM_option h fun _ hc => spares_itemsFrom hc

@[grind ←] theorem spares_iteratorAt {start : String × Cursor} (hstart : Within P start) :
    Spares P (iteratorAt start) := by
  unfold iteratorAt
  repeat' first | with_reducible refine .bind ?_ fun _ _ => ?_ | with_reducible refine .either ?_ ?_ | split
  all_goals grind

@[grind ←] theorem spares_iterator (hid : P id) : Spares P (iterator id) :=
  .bind (spares_opening hid) fun _ => spares_iteratorAt

@[grind ←] theorem spares_iteratorOfData (hid : P id) : Spares P (iteratorOfData id) :=
  .bind (spares_openingOfData hid) fun _ => spares_iteratorAt

@[grind ←] theorem spares_sliceEnd (hid : P id) : Spares P (sliceEnd id) := by
  unfold sliceEnd
  repeat' first | with_reducible refine .bind ?_ fun _ _ => ?_ | with_reducible refine .either ?_ ?_ | split
  all_goals grind

@[grind ←] theorem within_pick (p : Places) {items : Array α} (hi : Within P items) : Within P (p.pick items) := by
  unfold Places.pick
  split
  · exact within_extract hi _ _
  · exact within_filterMap (within_nowhere _) fun i _ => within_array_getElem? hi _

@[grind ←] theorem spares_placesOf {start : Identity} {step : Identity} (size : Nat) (hstart : P start)
    (hstop : P stop) (hstep : P step) :
    Spares P (placesOf start stop step size) := by
  unfold placesOf
  repeat' first | with_reducible refine .bind ?_ fun _ _ => ?_ | with_reducible refine .either ?_ ?_ | split
  all_goals grind

end GuestM

end ScriptHost
