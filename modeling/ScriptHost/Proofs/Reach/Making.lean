import ScriptHost.Guest.Interpolation
import ScriptHost.Proofs.Reach.Classes

/-! Objects are made, and texts filled in, within what a computation was given. -/
namespace ScriptHost
open GuestM (Spares)

variable {P : Identity → Prop} {α β : Type} [Refers α] [Refers β] {base id source start step stop target : Identity}
  {im? re : Option Identity} {arguments codec : List Identity}

instance : Inert GuestM.Supply := ⟨⟩

instance : Inert (Identity × GuestM.Supply) := ⟨⟩

instance : Inert (List Nat × GuestM.Supply) := ⟨⟩

instance : Inert (Int × GuestM.Supply) := ⟨⟩

instance : Inert GuestM.Layout := ⟨⟩

instance : Inert (GuestM.Layout × List Nat × GuestM.Supply) := ⟨⟩

instance : Refers GuestM.Supply := ⟨fun P s => P s.source ∧ Within P s.rest⟩

@[simp, grind =] theorem within_supply (s : GuestM.Supply) : Within P s ↔ P s.source ∧ Within P s.rest := .rfl

namespace GuestM

@[grind ←] theorem spares_notLiteral (base : Int) (hid : P id) : Spares P (notLiteral base id : GuestM α) := by
  unfold notLiteral
  repeat' first | with_reducible refine .bind ?_ fun _ _ => ?_ | with_reducible refine .either ?_ ?_ | split
  all_goals grind

@[grind ←] theorem spares_tooManyDigits (count : Nat) : Spares P (tooManyDigits count : GuestM α) := by
  unfold tooManyDigits
  grind

@[grind ←] theorem spares_readInt (base : Nat) (points : List Nat) (hid : P id) : Spares P (readInt base points id) := by
  unfold readInt
  repeat' first | with_reducible refine .bind ?_ fun _ _ => ?_ | with_reducible refine .either ?_ ?_ | split
  all_goals grind

@[grind ←] theorem spares_intFrom (hid : P id) : Spares P (intFrom id) := by
  unfold intFrom
  repeat' first | with_reducible refine .bind ?_ fun _ _ => ?_ | with_reducible refine .either ?_ ?_ | split
  all_goals grind

@[grind ←] theorem spares_intWithBase (hid : P id) (hbase : P base) : Spares P (intWithBase id base) := by
  unfold intWithBase
  repeat' first | with_reducible refine .bind ?_ fun _ _ => ?_ | with_reducible refine .either ?_ ?_ | split
  all_goals grind

@[grind ←] theorem spares_unreadable (kind : String) (hid : P id) : Spares P (unreadable kind id : GuestM α) := by
  unfold unreadable
  repeat' first | with_reducible refine .bind ?_ fun _ _ => ?_ | with_reducible refine .either ?_ ?_ | split
  all_goals grind

@[grind ←] theorem spares_floatFrom (refusal : String) (hid : P id) : Spares P (floatFrom refusal id) := by
  unfold floatFrom
  repeat' first | with_reducible refine .bind ?_ fun _ _ => ?_ | with_reducible refine .either ?_ ?_ | split
  all_goals grind

@[grind ←] theorem spares_complexFrom (hre : Within P re) (him : Within P im?) : Spares P (complexFrom re im?) := by
  unfold complexFrom
  repeat' first | with_reducible refine .bind ?_ fun _ _ => ?_ | with_reducible refine .either ?_ ?_ | split
  all_goals grind

@[grind ←] theorem spares_checkCodec (class? : String) (hcodec : Within P codec) :
    Spares P (checkCodec class? codec) := by
  unfold checkCodec
  repeat' first | with_reducible refine .bind ?_ fun _ _ => ?_ | with_reducible refine .either ?_ ?_ | split
  all_goals grind

@[grind ←] theorem spares_textFrom (hid : P id) (hcodec : Within P codec) : Spares P (textFrom id codec) := by
  unfold textFrom
  repeat' first | with_reducible refine .bind ?_ fun _ _ => ?_ | with_reducible refine .either ?_ ?_ | split
  all_goals grind

@[grind ←] theorem spares_zeros (hid : P id) : Spares P (zeros id) := by
  unfold zeros
  repeat' first | with_reducible refine .bind ?_ fun _ _ => ?_ | with_reducible refine .either ?_ ?_ | split
  all_goals grind

@[grind ←] theorem spares_octetsFor (class? : String) (hid : P id) (hcodec : Within P codec) :
    Spares P (octetsFor class? id codec) := by
  unfold octetsFor
  repeat' first | with_reducible refine .bind ?_ fun _ _ => ?_ | with_reducible refine .either ?_ ?_ | split
  all_goals grind

@[grind ←] theorem spares_makeRange (hstart : P start) (hstop : P stop) (hstep : P step) :
    Spares P (makeRange start stop step) := by
  unfold makeRange
  repeat' first | with_reducible refine .bind ?_ fun _ _ => ?_ | with_reducible refine .either ?_ ?_ | split
  all_goals grind

@[grind ←] theorem spares_makeMemoryView (hsource : P source) : Spares P (makeMemoryView source) := by
  unfold makeMemoryView
  repeat' first | with_reducible refine .bind ?_ fun _ _ => ?_ | with_reducible refine .either ?_ ?_ | split
  all_goals grind

@[grind ←] theorem spares_bodyFor (class? : String) (harguments : Within P arguments) :
    Spares P (bodyFor class? arguments) := by
  unfold bodyFor
  repeat' first | with_reducible refine .bind ?_ fun _ _ => ?_ | with_reducible refine .either ?_ ?_ | split
  all_goals grind

@[grind ←] theorem within_withClass {x1 : Body} (class? : String) (hx1 : Within P x1) :
    Within P (withClass class? x1) := by
  unfold withClass
  grind

grind_pattern within_withClass => Within P x1, withClass class? x1

@[grind ←] theorem spares_unstartedBody (class? : String) (isScripted : Bool) (harguments : Within P arguments) :
    Spares P (unstartedBody class? isScripted arguments) := by
  unfold unstartedBody
  refine .either (spares_bodyFor class? (by simp)) (.either (.pure (by simp)) (.either (.pure (by grind)) ?_))
  exact .bind (spares_bodyFor class? harguments) fun _ h => .pure (within_withClass class? h)

@[grind ←] theorem spares_startPlain :
    Spares P (startPlain target arguments) := by
  unfold startPlain
  repeat' first | with_reducible refine .bind ?_ fun _ _ => ?_ | with_reducible refine .either ?_ ?_ | split
  all_goals grind

@[grind ←] theorem spares_startException (owner : String) (htarget : P target) (harguments : Within P arguments) :
    Spares P (startException target owner arguments) := by
  unfold startException
  refine .bind (spares_bodyFor owner harguments) fun given hgiven => .bind (spares_bodyOf htarget) fun body hbody => ?_
  split
  · exact spares_setBody htarget (by grind)
  · exact .pure trivial

@[grind ←] theorem spares_describeProperty (htarget : P target) (harguments : Within P arguments) :
    Spares P (describeProperty target arguments) := by
  unfold describeProperty
  repeat' first | with_reducible refine .bind ?_ fun _ _ => ?_ | with_reducible refine .either ?_ ?_ | split
  all_goals grind

@[grind ←] theorem spares_startAs (owner : String) (htarget : P target) (harguments : Within P arguments) :
    Spares P (startAs owner target arguments) := by
  unfold startAs
  repeat' first | with_reducible refine .bind ?_ fun _ _ => ?_ | with_reducible refine .either ?_ ?_ | split
  all_goals grind

@[grind ←] theorem spares_startData (htarget : P target) (harguments : Within P arguments) :
    Spares P (startData target arguments) := by
  unfold startData
  refine .bind .get fun g hg => ?_
  split
  · exact spares_startAs _ htarget harguments
  · exact .bind .get fun _ _ => spares_startAs _ htarget harguments

@[grind ←] theorem spares_objectFor {x0 : Body} (hx0 : Within P x0) : Spares P (objectFor x0) := by
  unfold objectFor
  repeat' first | with_reducible refine .bind ?_ fun _ _ => ?_ | with_reducible refine .either ?_ ?_ | split
  all_goals grind

@[grind ←] theorem spares_makeSlice (harguments : Within P arguments) : Spares P (makeSlice arguments) := by
  unfold makeSlice
  repeat' first | with_reducible refine .bind ?_ fun _ _ => ?_ | with_reducible refine .either ?_ ?_ | split
  all_goals grind

@[grind ←] theorem spares_makeEnumerate (harguments : Within P arguments) : Spares P (makeEnumerate arguments) := by
  refine .of_default fun hdefault => ?_
  unfold makeEnumerate
  repeat' first | with_reducible refine .bind ?_ fun _ _ => ?_ | with_reducible refine .either ?_ ?_ | split
  all_goals grind

@[grind ←] theorem spares_makeSuper (harguments : Within P arguments) : Spares P (makeSuper arguments) := by
  unfold makeSuper
  refine .bind .get fun g hg => ?_
  split
  case h_3 class? target hother =>
    rw [within_cons] at harguments
    have htarget := within_filter (fun id => !g.isNone id) harguments.2
    repeat' first | with_reducible refine .bind ?_ fun _ _ => ?_ | with_reducible refine .either ?_ ?_ | split
    all_goals grind
  all_goals grind

@[grind ←] theorem spares_construct (class? : String) (harguments : Within P arguments) :
    Spares P (construct class? arguments) := by
  unfold construct
  repeat' first | with_reducible refine .bind ?_ fun _ _ => ?_ | with_reducible refine .either ?_ ?_ | split
  all_goals try simp only [within_cons, within_identity] at harguments
  all_goals first | grind | exact spares_allocate (by simp_all) (by simp)

@[grind ←] theorem spares_takeNext {s : Supply} (hs : Within P s) : Spares P (takeNext s) := by
  unfold takeNext
  repeat' first | with_reducible refine .bind ?_ fun _ _ => ?_ | with_reducible refine .either ?_ ?_ | split
  all_goals grind

@[grind ←] theorem spares_takeKey {s : Supply} (x1 : List Nat) (hs : Within P s) : Spares P (takeKey s x1) := by
  unfold takeKey
  repeat' first | with_reducible refine .bind ?_ fun _ _ => ?_ | with_reducible refine .either ?_ ?_ | split
  all_goals grind

@[grind ←] theorem spares_figures (most : Nat) (tooBig : String) (points : List Nat) :
    Spares P (figures most tooBig points) := by
  unfold figures
  repeat' first | with_reducible refine .bind ?_ fun _ _ => ?_ | with_reducible refine .either ?_ ?_ | split
  all_goals grind

@[grind ←] theorem spares_starOf {s : Supply} (hs : Within P s) : Spares P (starOf s) := by
  unfold starOf
  repeat' first | with_reducible refine .bind ?_ fun _ _ => ?_ | with_reducible refine .either ?_ ?_ | split
  all_goals grind

@[grind ←] theorem spares_takeWidth {s : Supply} (l : Layout) (x2 : List Nat) (hs : Within P s) :
    Spares P (takeWidth s l x2) := by
  unfold takeWidth
  repeat' first | with_reducible refine .bind ?_ fun _ _ => ?_ | with_reducible refine .either ?_ ?_ | split
  all_goals grind

@[grind ←] theorem spares_takePrecision {s : Supply} (l : Layout) (x2 : List Nat) (hs : Within P s) :
    Spares P (takePrecision s l x2) := by
  unfold takePrecision
  repeat' first | with_reducible refine .bind ?_ fun _ _ => ?_ | with_reducible refine .either ?_ ?_ | split
  all_goals grind

@[grind ←] theorem spares_wrongNumber (type : Nat) : Spares P (wrongNumber type id : GuestM α) := by
  unfold wrongNumber
  repeat' first | with_reducible refine .bind ?_ fun _ _ => ?_ | with_reducible refine .either ?_ ?_ | split
  all_goals grind

@[grind ←] theorem spares_wholeOf (type : Nat) (hid : P id) : Spares P (wholeOf type id) := by
  unfold wholeOf
  repeat' first | with_reducible refine .bind ?_ fun _ _ => ?_ | with_reducible refine .either ?_ ?_ | split
  all_goals grind

@[grind ←] theorem spares_intDigits (l : Layout) (type : Nat) (n : Int) : Spares P (intDigits l type n) := by
  unfold intDigits
  repeat' first | with_reducible refine .bind ?_ fun _ _ => ?_ | with_reducible refine .either ?_ ?_ | split
  all_goals grind

@[grind ←] theorem spares_doubleOf (hid : P id) : Spares P (doubleOf id) := by
  unfold doubleOf
  repeat' first | with_reducible refine .bind ?_ fun _ _ => ?_ | with_reducible refine .either ?_ ?_ | split
  all_goals grind

@[grind ←] theorem spares_floatDigits (l : Layout) (type : Nat) (x : Double) :
    Spares P (floatDigits l type x) := by
  unfold floatDigits
  repeat' first | with_reducible refine .bind ?_ fun _ _ => ?_ | with_reducible refine .either ?_ ?_ | split
  all_goals grind

@[grind ←] theorem spares_singlePoint (hid : P id) : Spares P (singlePoint id) := by
  unfold singlePoint
  repeat' first | with_reducible refine .bind ?_ fun _ _ => ?_ | with_reducible refine .either ?_ ?_ | split
  all_goals grind

@[grind ←] theorem spares_convertedTo (l : Layout) (type : Nat) (place : Nat) (hid : P id) :
    Spares P (convertedTo l type place id) := by
  unfold convertedTo
  repeat' first | with_reducible refine .bind ?_ fun _ _ => ?_ | with_reducible refine .either ?_ ?_ | split
  all_goals grind

@[grind ←] theorem spares_fillConversions (size : Nat) (x1 : Nat) {x2 : Supply} (x3 : List Nat) (hx2 : Within P x2) :
    Spares P (fillConversions size x1 x2 x3) := by
  fun_induction fillConversions size x1 x2 x3
  all_goals repeat' first | with_reducible refine .bind ?_ fun _ _ => ?_ | with_reducible refine .either ?_ ?_ | dsimp only | split
  all_goals grind

@[grind ←] theorem spares_interpolated (t : Text) (hsource : P source) : Spares P (interpolated t source) := by
  unfold interpolated
  refine .bind .get fun g hg => ?_
  extract_lets rest supply
  have hbody := Guest.within_body_of hg hsource
  have hsupply : Within P supply := ⟨hsource, by grind⟩
  clear_value supply
  refine .bind (spares_fillConversions _ _ _ hsupply) fun found _ => ?_
  split
  exact .either (.bind (spares_typeError _) fun _ _ => .pure trivial) (.pure trivial)

end GuestM

end ScriptHost
