import ScriptHost.Guest.Standard
import ScriptHost.Guest.Functions
import ScriptHost.Proofs.Reach.Objects

/-! The built-in functions and modules stay within what a computation was given. -/
namespace ScriptHost
open GuestM (Spares)

variable {P : Identity → Prop} {α β : Type} [Refers α] [Refers β]
  {attributes base exponent function id loader modulus operand parts sentinel source : Identity}
  {fallback start : Option Identity} {arguments : List Identity}

instance : Inert Float := ⟨⟩

namespace GuestM

@[grind ←] theorem spares_lengthOf (hid : P id) : Spares P (lengthOf id) := by
  unfold lengthOf
  repeat' first | with_reducible refine .bind ?_ fun _ _ => ?_ | with_reducible refine .either ?_ ?_ | split
  all_goals grind

@[grind ←] theorem spares_sorted (hid : P id) : Spares P (sorted id) := by
  unfold sorted
  repeat' first | with_reducible refine .bind ?_ fun _ _ => ?_ | with_reducible refine .either ?_ ?_ | split
  all_goals grind

@[grind ←] theorem spares_sum (hsource : P source) (hstart : Within P start) : Spares P (sum source start) := by
  unfold sum
  repeat' first | with_reducible refine .bind ?_ fun _ _ => ?_ | with_reducible refine .either ?_ ?_ | split
  all_goals grind

@[grind ←] theorem spares_extreme (name : String) (c : Comparison) (harguments : Within P arguments) :
    Spares P (extreme name c arguments) := by
  unfold extreme
  repeat' first | with_reducible refine .bind ?_ fun _ _ => ?_ | with_reducible refine .either ?_ ?_ | split
  all_goals grind

@[grind ←] theorem spares_next (hid : P id) (hfallback : Within P fallback) : Spares P (next id fallback) := by
  unfold next
  repeat' first | with_reducible refine .bind ?_ fun _ _ => ?_ | with_reducible refine .either ?_ ?_ | split
  all_goals grind

@[grind ←] theorem spares_anyOf (wanted : Bool) (hsource : P source) : Spares P (anyOf source wanted) := by
  unfold anyOf
  repeat' first | with_reducible refine .bind ?_ fun _ _ => ?_ | with_reducible refine .either ?_ ?_ | split
  all_goals grind

@[grind ←] theorem spares_nameArgument : Spares P (nameArgument id) := by
  unfold nameArgument
  repeat' first | with_reducible refine .bind ?_ fun _ _ => ?_ | with_reducible refine .either ?_ ?_ | split
  all_goals grind

@[grind ←] theorem spares_inBase (base : Nat) (letter : String) (hid : P id) : Spares P (inBase base letter id) := by
  unfold inBase
  repeat' first | with_reducible refine .bind ?_ fun _ _ => ?_ | with_reducible refine .either ?_ ?_ | split
  all_goals grind

@[grind ←] theorem spares_pointOf : Spares P (pointOf id) := by
  unfold pointOf
  repeat' first | with_reducible refine .bind ?_ fun _ _ => ?_ | with_reducible refine .either ?_ ?_ | split
  all_goals grind

@[grind ←] theorem spares_character (hid : P id) : Spares P (character id) := by
  unfold character
  repeat' first | with_reducible refine .bind ?_ fun _ _ => ?_ | with_reducible refine .either ?_ ?_ | split
  all_goals grind

@[grind ←] theorem spares_powerBy
    :
    Spares P (powerBy base exponent modulus operand) := by
  unfold powerBy
  repeat' first | with_reducible refine .bind ?_ fun _ _ => ?_ | with_reducible refine .either ?_ ?_ | split
  all_goals grind

@[grind ←] theorem spares_raised (hbase : P base) (hexponent : P exponent) (hmodulus : P modulus) :
    Spares P (raised base exponent modulus) := by
  unfold raised
  repeat' first | with_reducible refine .bind ?_ fun _ _ => ?_ | with_reducible refine .either ?_ ?_ | split
  all_goals grind

@[grind ←] theorem spares_attributesOfObject (hid : P id) : Spares P (attributesOfObject id) := by
  unfold attributesOfObject
  repeat' first | with_reducible refine .bind ?_ fun _ _ => ?_ | with_reducible refine .either ?_ ?_ | split
  all_goals grind

@[grind ←] theorem spares_hashOf (hid : P id) : Spares P (hashOf id) := by
  unfold hashOf
  repeat' first | with_reducible refine .bind ?_ fun _ _ => ?_ | with_reducible refine .either ?_ ?_ | split
  all_goals grind

@[grind ←] theorem spares_magnitudeOf (hid : P id) : Spares P (magnitudeOf id) := by
  unfold magnitudeOf
  repeat' first | with_reducible refine .bind ?_ fun _ _ => ?_ | with_reducible refine .either ?_ ?_ | split
  all_goals grind

@[grind ←] theorem spares_callsUntil (hfunction : P function) (hsentinel : P sentinel) :
    Spares P (callsUntil function sentinel) := by
  unfold callsUntil
  repeat' first | with_reducible refine .bind ?_ fun _ _ => ?_ | with_reducible refine .either ?_ ?_ | split
  all_goals grind

@[grind ←] theorem spares_callFunction (name : String) (harguments : Within P arguments) :
    Spares P (callFunction name arguments) := by
  refine .of_default fun hdefault => ?_
  unfold callFunction
  extract_lets first second third
  have hfirst : P first := within_headD harguments hdefault
  have hsecond : P second := within_getD harguments 1 hdefault
  have hthird : Within P third := within_getElem? harguments 2
  clear_value first second third
  repeat' first | with_reducible refine .bind ?_ fun _ _ => ?_ | with_reducible refine .either ?_ ?_ | split
  all_goals grind

end GuestM

namespace GuestM

@[grind ←] theorem spares_domainError : Spares P (domainError : GuestM α) := by
  unfold domainError
  grind

@[grind ←] theorem spares_rangeError : Spares P (rangeError : GuestM α) := by
  unfold rangeError
  grind

@[grind ←] theorem spares_realOf (hid : P id) : Spares P (realOf id) := by
  unfold realOf
  repeat' first | with_reducible refine .bind ?_ fun _ _ => ?_ | with_reducible refine .either ?_ ?_ | split
  all_goals grind

@[grind ←] theorem spares_checked (arguments : List Double) (result : Double) : Spares P (checked arguments result) := by
  unfold checked
  repeat' first | with_reducible refine .bind ?_ fun _ _ => ?_ | with_reducible refine .either ?_ ?_ | split
  all_goals grind

@[grind ←] theorem spares_logarithm (base : Float) (scale : Float → Float) (hid : P id) :
    Spares P (logarithm base scale id) := by
  unfold logarithm
  repeat' first | with_reducible refine .bind ?_ fun _ _ => ?_ | with_reducible refine .either ?_ ?_ | split
  all_goals grind

@[grind ←] theorem spares_naturalLogarithm (hid : P id) : Spares P (naturalLogarithm id) := by
  unfold naturalLogarithm
  grind

@[grind ←] theorem spares_whole (name : String) (f : Double → Int) (hid : P id) : Spares P (whole name f id) := by
  unfold whole
  repeat' first | with_reducible refine .bind ?_ fun _ _ => ?_ | with_reducible refine .either ?_ ?_ | split
  all_goals grind

@[grind ←] theorem spares_chosen (n : Int) (k : Int) (ordered : Bool) : Spares P (chosen n k ordered) := by
  unfold chosen
  repeat' first | with_reducible refine .bind ?_ fun _ _ => ?_ | with_reducible refine .either ?_ ?_ | split
  all_goals grind

@[grind ←] theorem spares_factorial (n : Int) : Spares P (factorial n) := by
  unfold factorial
  repeat' first | with_reducible refine .bind ?_ fun _ _ => ?_ | with_reducible refine .either ?_ ?_ | split
  all_goals grind

@[grind ←] theorem spares_power (x : Double) (y : Double) : Spares P (power x y) := by
  unfold power
  repeat' first | with_reducible refine .bind ?_ fun _ _ => ?_ | with_reducible refine .either ?_ ?_ | split
  all_goals grind

@[grind ←] theorem spares_split (x : Double) : Spares P (split x) := by
  unfold split
  repeat' first | with_reducible refine .bind ?_ fun _ _ => ?_ | with_reducible refine .either ?_ ?_ | split
  all_goals grind

@[grind ←] theorem spares_scaled (x : Double) (n : Int) : Spares P (scaled x n) := by
  unfold scaled
  repeat' first | with_reducible refine .bind ?_ fun _ _ => ?_ | with_reducible refine .either ?_ ?_ | split
  all_goals grind

@[grind ←] theorem spares_mantissa (x : Double) : Spares P (mantissa x) := by
  unfold mantissa
  repeat' first | with_reducible refine .bind ?_ fun _ _ => ?_ | with_reducible refine .either ?_ ?_ | split
  all_goals grind

@[grind ←] theorem spares_turned (arguments : List Double)
    (f : Float → Float → Float) :
    Spares P (turned arguments f) := by
  unfold turned
  repeat' first | with_reducible refine .bind ?_ fun _ _ => ?_ | with_reducible refine .either ?_ ?_ | split
  all_goals grind

@[grind ←] theorem spares_callMathematics (name : String) (harguments : Within P arguments) :
    Spares P (callMathematics name arguments) := by
  refine .of_default fun hdefault => ?_
  unfold callMathematics
  extract_lets first second real reals
  have hfirst : P first := within_headD harguments hdefault
  have hsecond : P second := within_getD harguments 1 hdefault
  have hreal : ∀ f, (∀ x, Spares P (f x)) → Spares P (real f) := by grind
  have hreals : ∀ f, (∀ x y, Spares P (f x y)) → Spares P (reals f) := by grind
  clear_value first second real reals
  repeat' first | with_reducible refine .bind ?_ fun _ _ => ?_ | with_reducible refine .either ?_ ?_ | split
  all_goals grind

@[grind ←] theorem spares_optionalString (x0 : Option String) : Spares P (optionalString x0) := by
  unfold optionalString
  repeat' first | with_reducible refine .bind ?_ fun _ _ => ?_ | with_reducible refine .either ?_ ?_ | split
  all_goals grind

@[grind ←] theorem spares_specification (name : String) (origin : Option String) (hasFile : Bool) (hloader : P loader)
    (hparts : P parts) :
    Spares P (specification name origin loader parts hasFile) := by
  unfold specification
  refine .bind (spares_allocate trivial (by simp)) fun id hid => ?_
  repeat' first | with_reducible refine .bind ?_ fun _ _ => ?_ | with_reducible refine .either ?_ ?_ | with_reducible refine .forIn ?_ ?_ fun _ _ _ _ => ?_ | split
  all_goals first | grind | simp_all

@[grind ←] theorem spares_mathematicsContents : Spares P (mathematicsContents) := by
  unfold mathematicsContents
  repeat' first | with_reducible refine .bind ?_ fun _ _ => ?_ | with_reducible refine .either ?_ ?_ | split
  all_goals grind

@[grind ←] theorem spares_standardLoader (name : String) : Spares P (standardLoader name) := by
  unfold standardLoader
  repeat' first | with_reducible refine .bind ?_ fun _ _ => ?_ | with_reducible refine .either ?_ ?_ | split
  all_goals grind

@[grind ←] theorem spares_standardParts (name : String) : Spares P (standardParts name) := by
  unfold standardParts
  repeat' first | with_reducible refine .bind ?_ fun _ _ => ?_ | with_reducible refine .either ?_ ?_ | split
  all_goals grind

@[grind ←] theorem spares_presentSource (x2 : Option String) (hattributes : P attributes) (hparts : P parts) :
    Spares P (presentSource attributes parts x2) := by
  unfold presentSource
  repeat' first | with_reducible refine .bind ?_ fun _ _ => ?_ | with_reducible refine .either ?_ ?_ | split
  all_goals grind

@[grind ←] theorem spares_presentStandard (name : String) (hattributes : P attributes) :
    Spares P (presentStandard attributes name) := by
  unfold presentStandard
  repeat' first | with_reducible refine .bind ?_ fun _ _ => ?_ | with_reducible refine .either ?_ ?_ | split
  all_goals grind

theorem spares_keepModule (name : String) (hid : P id) :
    Spares P (modify fun g => { g with standardModules := g.standardModules ++ [(name, id)] }) :=
  .modify fun g hg => Guest.changesWithin_of hg (fun _ _ => rfl) hg.object rfl rfl rfl
    ((within_append _ _).mpr ⟨hg.standardModules, by simpa using hid⟩) hg.constants
    (.of_same (Nat.le_refl _) rfl rfl rfl) rfl

@[grind ←] theorem spares_standardModule (name : String) : Spares P (standardModule name) := by
  unfold standardModule
  extract_lets name
  refine .bind .get fun g hg => ?_
  split
  · grind
  · refine .bind ?_ fun attributes hattributes => .bind ?_ fun _ _ => .bind ?_ fun id hid => ?_
    · grind
    · grind
    · grind
    · exact .bind (spares_keepModule _ hid) fun _ _ => .pure hid

end GuestM

end ScriptHost
