import ScriptHost.Guest.Method.Bytes
import ScriptHost.Guest.Method.Numbers
import ScriptHost.Proofs.Reach.Collections
import ScriptHost.Proofs.Reach.Printing

/-! The methods of text, bytes and numbers stay within what a computation was given. -/
namespace ScriptHost
open GuestM (Spares)

variable {P : Identity → Prop} {α β : Type} [Refers α] [Refers β] {s : GuestM.Subject} {g : Guest}
  {id object source table target : Identity} {arguments bounds : List Identity} {id? places : Option Identity}

instance : Inert Encoding := ⟨⟩

instance : Inert EncodingDefect := ⟨⟩

instance : Inert (Nat → Nat) := ⟨⟩

instance : Inert (Nat → Bool) := ⟨⟩

instance : Refers GuestM.Subject := ⟨fun P s => P s.target⟩

@[simp, grind =] theorem within_subject (s : GuestM.Subject) : Within P s ↔ P s.target := .rfl

namespace GuestM.Subject

@[grind ←] theorem within_of? (hid : P id) : Within P (of? g id) := by
  unfold of?
  grind

grind_pattern within_of? => Within P g, of? g id

@[grind ←] theorem spares_make (points : List Nat) : Spares P (make s points) := by
  unfold make
  repeat' first | with_reducible refine .bind ?_ fun _ _ => ?_ | with_reducible refine .either ?_ ?_ | split
  all_goals grind

@[grind ←] theorem spares_change (points : List Nat) (hs : Within P s) : Spares P (change s points) := by
  unfold change
  repeat' first | with_reducible refine .bind ?_ fun _ _ => ?_ | with_reducible refine .either ?_ ?_ | split
  all_goals grind

@[grind ←] theorem spares_bytePiece : Spares P (bytePiece id) := by
  unfold bytePiece
  repeat' first | with_reducible refine .bind ?_ fun _ _ => ?_ | with_reducible refine .either ?_ ?_ | split
  all_goals grind

@[grind ←] theorem spares_piece (name : String) : Spares P (piece s name id) := by
  unfold piece
  repeat' first | with_reducible refine .bind ?_ fun _ _ => ?_ | with_reducible refine .either ?_ ?_ | split
  all_goals grind

@[grind ←] theorem spares_wanted (hid : P id) : Spares P (wanted s id) := by
  unfold wanted
  repeat' first | with_reducible refine .bind ?_ fun _ _ => ?_ | with_reducible refine .either ?_ ?_ | split
  all_goals grind

@[grind ←] theorem spares_window? (hbounds : Within P bounds) : Spares P (window? s bounds) := by
  unfold window?
  repeat' first | with_reducible refine .bind ?_ fun _ _ => ?_ | with_reducible refine .either ?_ ?_ | split
  all_goals grind

@[grind ←] theorem spares_found? (search : List Nat → List Nat → Option Nat)
    (harguments : Within P arguments) :
    Spares P (found? s search arguments) := by
  refine .of_default fun hdefault => ?_
  unfold found?
  repeat' first | with_reducible refine .bind ?_ fun _ _ => ?_ | with_reducible refine .either ?_ ?_ | split
  all_goals grind

@[grind ←] theorem spares_findAt (search : List Nat → List Nat → Option Nat)
    (harguments : Within P arguments) :
    Spares P (findAt s search arguments) := by
  refine .of_default fun hdefault => ?_
  unfold findAt
  repeat' first | with_reducible refine .bind ?_ fun _ _ => ?_ | with_reducible refine .either ?_ ?_ | split
  all_goals grind

@[grind ←] theorem spares_indexAt (search : List Nat → List Nat → Option Nat)
    (harguments : Within P arguments) :
    Spares P (indexAt s search arguments) := by
  unfold indexAt
  repeat' first | with_reducible refine .bind ?_ fun _ _ => ?_ | with_reducible refine .either ?_ ?_ | split
  all_goals grind

@[grind ←] theorem spares_anyOf {ids : List Identity} (name : String) (holds : List Nat → Bool)
    (hids : Within P ids) : Spares P (borders.anyOf s name holds ids) := by
  induction ids with
  | nil => exact spares_bool false
  | cons id rest ih =>
    rw [borders.anyOf]
    repeat' first | with_reducible refine .bind ?_ fun _ _ => ?_ | with_reducible refine .either ?_ ?_ | split
    all_goals grind

@[grind ←] theorem spares_borders (name : String) (isAt : List Nat → List Nat → Bool)
    (harguments : Within P arguments) :
    Spares P (borders s name isAt arguments) := by
  refine .of_default fun hdefault => ?_
  unfold borders
  repeat' first | with_reducible refine .bind ?_ fun _ _ => ?_ | with_reducible refine .either ?_ ?_ | dsimp only | split
  all_goals grind

@[grind ←] theorem spares_separator? : Spares P (separator? s id?) := by
  unfold separator?
  repeat' first | with_reducible refine .bind ?_ fun _ _ => ?_ | with_reducible refine .either ?_ ?_ | split
  all_goals grind

@[grind ←] theorem spares_cut (fromBack : Bool) (hs : Within P s) (harguments : Within P arguments) :
    Spares P (cut s fromBack arguments) := by
  unfold cut
  repeat' first | with_reducible refine .bind ?_ fun _ _ => ?_ | with_reducible refine .either ?_ ?_ | split
  all_goals grind

@[grind ←] theorem spares_parted (fromBack : Bool) (hs : Within P s) (hid : P id) :
    Spares P (parted s fromBack id) := by
  unfold parted
  extract_lets rest
  have hrest : ∀ separator, Spares P (rest separator) := fun separator => by
    simp only [rest]
    generalize (if fromBack = true then _ else _) = place?
    repeat' first | with_reducible refine .bind ?_ fun _ _ => ?_ | with_reducible refine .either ?_ ?_ | split
    all_goals grind
  clear_value rest
  repeat' first | with_reducible refine .bind ?_ fun _ _ => ?_ | with_reducible refine .either ?_ ?_ | split
  all_goals grind

@[grind ←] theorem spares_joinItem (place : Nat) : Spares P (joinItem s place id) := by
  unfold joinItem
  repeat' first | with_reducible refine .bind ?_ fun _ _ => ?_ | with_reducible refine .either ?_ ?_ | split
  all_goals grind

@[grind ←] theorem spares_joined (hsource : P source) : Spares P (joined s source) := by
  unfold joined
  repeat' first | with_reducible refine .bind ?_ fun _ _ => ?_ | with_reducible refine .either ?_ ?_ | split
  all_goals grind

@[grind ←] theorem spares_fillPoint (name : String) (hid : Within P id?) : Spares P (fillPoint s name id?) := by
  unfold fillPoint
  repeat' first | with_reducible refine .bind ?_ fun _ _ => ?_ | with_reducible refine .either ?_ ?_ | split
  all_goals grind

@[grind ←] theorem spares_widthOf (hid : P id) : Spares P (widthOf id) := by
  unfold widthOf
  repeat' first | with_reducible refine .bind ?_ fun _ _ => ?_ | with_reducible refine .either ?_ ?_ | split
  all_goals grind

@[grind ←] theorem spares_filled (name : String) (lay : Nat → Nat → List Nat → List Nat) (hs : Within P s)
    (harguments : Within P arguments) :
    Spares P (filled s name lay arguments) := by
  refine .of_default fun hdefault => ?_
  unfold filled
  repeat' first | with_reducible refine .bind ?_ fun _ _ => ?_ | with_reducible refine .either ?_ ?_ | split
  all_goals grind

@[grind ←] theorem spares_trimmed (name : String) (left : Bool) (right : Bool) (hs : Within P s) :
    Spares P (trimmed s name left right id?) := by
  unfold trimmed
  repeat' first | with_reducible refine .bind ?_ fun _ _ => ?_ | with_reducible refine .either ?_ ?_ | split
  all_goals grind

@[grind ←] theorem within_method? (name : String) (hs : Within P s) (harguments : Within P arguments) :
    Within P (method? s name arguments) := by
  refine Spares.within_of_default fun hdefault => ?_
  unfold method?
  split
  all_goals first | exact within_none.mpr trivial | refine (within_some _).mpr (within_run.mpr ?_)
  all_goals repeat' first | with_reducible refine .bind ?_ fun _ _ => ?_ | with_reducible refine .either ?_ ?_ | split
  all_goals grind

grind_pattern within_method? => Within P s, method? s name arguments

end GuestM.Subject

namespace GuestM

@[grind ←] theorem spares_codecNames (function : String) :
    Spares P (codecNames function arguments) := by
  unfold codecNames
  repeat' first | with_reducible refine .bind ?_ fun _ _ => ?_ | with_reducible refine .either ?_ ?_ | split
  all_goals grind

@[grind ←] theorem spares_encodingNamed (name : String) : Spares P (encodingNamed name) := by
  unfold encodingNamed
  repeat' first | with_reducible refine .bind ?_ fun _ _ => ?_ | with_reducible refine .either ?_ ?_ | split
  all_goals grind

@[grind ←] theorem spares_unknownHandler (name : String) : Spares P (unknownHandler name : GuestM α) := by
  unfold unknownHandler
  grind

@[grind ←] theorem spares_raiseDefect (type : String) (e : Encoding) (d : EncodingDefect) (hobject : P object) :
    Spares P (raiseDefect type e object d : GuestM α) := by
  unfold raiseDefect
  repeat' first | with_reducible refine .bind ?_ fun _ _ => ?_ | with_reducible refine .either ?_ ?_ | split
  case refine_2.refine_2.refine_2.refine_2.refine_1 encoding _ start _ stop _ reason _ =>
    have : Within P [encoding, object, start, stop, reason] := by simp_all
    grind
  all_goals grind

@[grind ←] theorem spares_encodeText (function : String) (t : Text) :
    Spares P (encodeText function t arguments) := by
  unfold encodeText
  repeat' first | with_reducible refine .bind ?_ fun _ _ => ?_ | with_reducible refine .either ?_ ?_ | split
  all_goals grind

@[grind ←] theorem spares_decodeOctets (function : String) (data : List UInt8) :
    Spares P (decodeOctets function data arguments) := by
  unfold decodeOctets
  repeat' first | with_reducible refine .bind ?_ fun _ _ => ?_ | with_reducible refine .either ?_ ?_ | split
  all_goals grind

@[grind ←] theorem spares_badReplacement : Spares P (badReplacement : GuestM α) := by
  unfold badReplacement
  grind

@[grind ←] theorem spares_replacement (p : Nat) (htable : P table) : Spares P (replacement table p) := by
  unfold replacement
  repeat' first | with_reducible refine .bind ?_ fun _ _ => ?_ | with_reducible refine .either ?_ ?_ | split
  all_goals grind

@[grind ←] theorem spares_makeTable (harguments : Within P arguments) : Spares P (makeTable arguments) := by
  unfold makeTable
  repeat' first | with_reducible refine .bind ?_ fun _ _ => ?_ | with_reducible refine .either ?_ ?_ | split
  all_goals grind

@[grind ←] theorem spares_textMethod (t : Text) (name : String) (htarget : P target)
    (harguments : Within P arguments) :
    Spares P (textMethod target t name arguments) := by
  refine .of_default fun hdefault => ?_
  unfold textMethod
  refine .bind .get fun g hg => ?_
  extract_lets subject first
  have hsubject : Within P subject := htarget
  have hfirst : P first := within_headD harguments hdefault
  clear_value subject first
  repeat' first | with_reducible refine .bind ?_ fun _ _ => ?_ | with_reducible refine .either ?_ ?_ | split
  all_goals grind

@[grind ←] theorem spares_startsLow (function : String) (hid : Within P id?) : Spares P (startsLow function id?) := by
  unfold startsLow
  repeat' first | with_reducible refine .bind ?_ fun _ _ => ?_ | with_reducible refine .either ?_ ?_ | split
  all_goals grind

@[grind ←] theorem spares_intToBytes (n : Int) (harguments : Within P arguments) :
    Spares P (intToBytes n arguments) := by
  unfold intToBytes
  repeat' first | with_reducible refine .bind ?_ fun _ _ => ?_ | with_reducible refine .either ?_ ?_ | split
  all_goals grind

@[grind ←] theorem spares_octetsFrom (hid : P id) : Spares P (octetsFrom id) := by
  unfold octetsFrom
  repeat' first | with_reducible refine .bind ?_ fun _ _ => ?_ | with_reducible refine .either ?_ ?_ | split
  all_goals grind

@[grind ←] theorem spares_intFromBytes (harguments : Within P arguments) : Spares P (intFromBytes arguments) := by
  refine .of_default fun hdefault => ?_
  unfold intFromBytes
  repeat' first | with_reducible refine .bind ?_ fun _ _ => ?_ | with_reducible refine .either ?_ ?_ | split
  all_goals grind

@[grind ←] theorem spares_refuseUnbounded (x : Double) : Spares P (refuseUnbounded x) := by
  unfold refuseUnbounded
  repeat' first | with_reducible refine .bind ?_ fun _ _ => ?_ | with_reducible refine .either ?_ ?_ | split
  all_goals grind

@[grind ←] theorem spares_roundFloat (x : Double) (places? : Option Int) : Spares P (roundFloat x places?) := by
  unfold roundFloat
  repeat' first | with_reducible refine .bind ?_ fun _ _ => ?_ | with_reducible refine .either ?_ ?_ | split
  all_goals grind

@[grind ←] theorem spares_placesOf? (hid : Within P id?) : Spares P (placesOf? id?) := by
  unfold placesOf?
  repeat' first | with_reducible refine .bind ?_ fun _ _ => ?_ | with_reducible refine .either ?_ ?_ | split
  all_goals grind

@[grind ←] theorem spares_rounded (hplaces : Within P places) : Spares P (rounded id places) := by
  unfold rounded
  repeat' first | with_reducible refine .bind ?_ fun _ _ => ?_ | with_reducible refine .either ?_ ?_ | split
  all_goals grind

@[grind ←] theorem spares_fractionOf (x : Double) : Spares P (fractionOf x) := by
  unfold fractionOf
  repeat' first | with_reducible refine .bind ?_ fun _ _ => ?_ | with_reducible refine .either ?_ ?_ | split
  all_goals grind

@[grind ←] theorem spares_doubleFromHex : Spares P (doubleFromHex id) := by
  unfold doubleFromHex
  repeat' first | with_reducible refine .bind ?_ fun _ _ => ?_ | with_reducible refine .either ?_ ?_ | split
  all_goals grind

@[grind ←] theorem spares_intMethod (n : Int) (name : String) (htarget : P target) (harguments : Within P arguments) :
    Spares P (intMethod target n name arguments) := by
  unfold intMethod
  repeat' first | with_reducible refine .bind ?_ fun _ _ => ?_ | with_reducible refine .either ?_ ?_ | split
  all_goals grind

@[grind ←] theorem spares_floatMethod (x : Double) (name : String) (htarget : P target)
    (harguments : Within P arguments) :
    Spares P (floatMethod target x name arguments) := by
  unfold floatMethod
  repeat' first | with_reducible refine .bind ?_ fun _ _ => ?_ | with_reducible refine .either ?_ ?_ | split
  all_goals grind

@[grind ←] theorem spares_complexMethod (re : Double) (im : Double) (name : String) (htarget : P target) :
    Spares P (complexMethod target re im name arguments) := by
  unfold complexMethod
  repeat' first | with_reducible refine .bind ?_ fun _ _ => ?_ | with_reducible refine .either ?_ ?_ | split
  all_goals grind

@[grind ←] theorem spares_hexText (data : List Nat) (harguments : Within P arguments) :
    Spares P (hexText data arguments) := by
  unfold hexText
  repeat' first | with_reducible refine .bind ?_ fun _ _ => ?_ | with_reducible refine .either ?_ ?_ | split
  all_goals grind

@[grind ←] theorem spares_bytesFromHex : Spares P (bytesFromHex id) := by
  unfold bytesFromHex
  repeat' first | with_reducible refine .bind ?_ fun _ _ => ?_ | with_reducible refine .either ?_ ?_ | split
  all_goals grind

@[grind ←] theorem spares_tableOf : Spares P (tableOf id) := by
  unfold tableOf
  repeat' first | with_reducible refine .bind ?_ fun _ _ => ?_ | with_reducible refine .either ?_ ?_ | split
  all_goals grind

@[grind ←] theorem spares_makeByteTable :
    Spares P (makeByteTable source target) := by
  unfold makeByteTable
  repeat' first | with_reducible refine .bind ?_ fun _ _ => ?_ | with_reducible refine .either ?_ ?_ | split
  all_goals grind

@[grind ←] theorem within_bytesMethod? (name : String) (hs : Within P s) (harguments : Within P arguments) :
    Within P (bytesMethod? s name arguments) := by
  refine Spares.within_of_default fun hdefault => ?_
  unfold bytesMethod?
  split
  · grind
  · grind
  split
  all_goals first | exact within_none.mpr trivial | refine (within_some _).mpr (within_run.mpr ?_)
  all_goals repeat' first | with_reducible refine .bind ?_ fun _ _ => ?_ | with_reducible refine .either ?_ ?_ | split
  all_goals grind

grind_pattern within_bytesMethod? => Within P s, bytesMethod? s name arguments

@[grind ←] theorem spares_addedOctets (kind : String) (hid : P id) : Spares P (addedOctets kind id) := by
  unfold addedOctets
  repeat' first | with_reducible refine .bind ?_ fun _ _ => ?_ | with_reducible refine .either ?_ ?_ | split
  all_goals grind

@[grind ←] theorem spares_resized (data : List UInt8) (htarget : P target) : Spares P (resized target data) := by
  unfold resized
  repeat' first | with_reducible refine .bind ?_ fun _ _ => ?_ | with_reducible refine .either ?_ ?_ | split
  all_goals grind

@[grind ←] theorem within_openBytesMethod? (data : List UInt8) (name : String) (htarget : P target)
    (harguments : Within P arguments) :
    Within P (openBytesMethod? target data name arguments) := by
  refine Spares.within_of_default fun hdefault => ?_
  unfold openBytesMethod?
  split
  all_goals first | exact within_none.mpr trivial | refine (within_some _).mpr (within_run.mpr ?_)
  all_goals repeat' first | with_reducible refine .bind ?_ fun _ _ => ?_ | with_reducible refine .either ?_ ?_ | split
  all_goals grind

grind_pattern within_openBytesMethod? => Within P arguments, openBytesMethod? target data name arguments

@[grind ←] theorem spares_byteMethod (name : String) (htarget : P target) (harguments : Within P arguments) :
    Spares P (byteMethod target name arguments) := by
  unfold byteMethod
  repeat' first | with_reducible refine .bind ?_ fun _ _ => ?_ | with_reducible refine .either ?_ ?_ | split
  all_goals grind

@[grind ←] theorem spares_viewBytes : Spares P (viewBytes target) := by
  unfold viewBytes
  repeat' first | with_reducible refine .bind ?_ fun _ _ => ?_ | with_reducible refine .either ?_ ?_ | split
  all_goals grind

@[grind ←] theorem spares_viewMethod (name : String) (htarget : P target) (harguments : Within P arguments) :
    Spares P (viewMethod target name arguments) := by
  unfold viewMethod
  repeat' first | with_reducible refine .bind ?_ fun _ _ => ?_ | with_reducible refine .either ?_ ?_ | split
  all_goals grind

end GuestM

end ScriptHost
