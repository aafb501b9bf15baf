import ScriptHost.Guest.Exceptions
import ScriptHost.Guest.Inheritance
import ScriptHost.Proofs.Reach.Operators

/-! Arguments, attributes and exceptions stay within what a computation was given. -/
namespace ScriptHost
open GuestM (Spares)

variable {P : Identity → Prop} {α β : Type} [Refers α] [Refers β]
  {attributes class? function id maker place self source target value : Identity}
  {arguments bases bounds classes : List Identity} {f : Function} {home : Place}

instance : Inert MemberKind := ⟨⟩

namespace GuestM

@[grind ←] theorem spares_sizeOf (hid : P id) : Spares P (sizeOf id) := by
  unfold sizeOf
  repeat' first | with_reducible refine .bind ?_ fun _ _ => ?_ | with_reducible refine .either ?_ ?_ | split
  all_goals grind

@[grind ←] theorem spares_smallIntOf (hid : P id) : Spares P (smallIntOf id) := by
  unfold smallIntOf
  repeat' first | with_reducible refine .bind ?_ fun _ _ => ?_ | with_reducible refine .either ?_ ?_ | split
  all_goals grind

@[grind ←] theorem spares_sizeOr {x1 : Option Identity} (default : Int) (hx1 : Within P x1) :
    Spares P (sizeOr default x1) := by
  unfold sizeOr
  repeat' first | with_reducible refine .bind ?_ fun _ _ => ?_ | with_reducible refine .either ?_ ?_ | split
  all_goals grind

@[grind ←] theorem spares_textArgument (name : String) : Spares P (textArgument name id) := by
  unfold textArgument
  repeat' first | with_reducible refine .bind ?_ fun _ _ => ?_ | with_reducible refine .either ?_ ?_ | split
  all_goals grind

@[grind ←] theorem spares_octetsOf : Spares P (octetsOf id) := by
  unfold octetsOf
  repeat' first | with_reducible refine .bind ?_ fun _ _ => ?_ | with_reducible refine .either ?_ ?_ | split
  all_goals grind

@[grind ←] theorem spares_windowOf (size : Nat) (hbounds : Within P bounds) : Spares P (windowOf bounds size) := by
  unfold windowOf
  repeat' first | with_reducible refine .bind ?_ fun _ _ => ?_ | with_reducible refine .either ?_ ?_ | split
  all_goals grind

@[grind ←] theorem spares_word (s : String) : Spares P (word s) := spares_name _

@[grind ←] theorem spares_missingAttribute (name : Text) :
    Spares P (missingAttribute target name : GuestM α) := by
  unfold missingAttribute
  exact .bind .get fun g hg => spares_attributeErrorOf _

@[grind ←] theorem spares_classNames (names : List String) : Spares P (classNames names) := by
  unfold classNames
  repeat' first | with_reducible refine .bind ?_ fun _ _ => ?_ | with_reducible refine .either ?_ ?_ | split
  all_goals grind

@[grind ←] theorem spares_classData? (name : String) (hclass : P class?) : Spares P (classData? class? name) := by
  unfold classData?
  refine .bind .get fun g hg => ?_
  extract_lets own made? kept
  have hmade : Within P made? := by
    simp only [made?]
    split <;> grind
  have hkept : Within P kept := Guest.within_ownAttribute? hg hclass _
  clear_value made? kept
  repeat' first | with_reducible refine .bind ?_ fun _ _ => ?_ | with_reducible refine .either ?_ ?_ | split
  all_goals grind

@[grind ←] theorem spares_viewData (step : Int) (count : Nat) (name : String) (hsource : P source) :
    Spares P (viewData source step count name) := by
  unfold viewData
  repeat' first | with_reducible refine .bind ?_ fun _ _ => ?_ | with_reducible refine .either ?_ ?_ | split
  all_goals grind

@[grind ←] theorem spares_functionData (name : String) (hfunction : P function)
    (hhome : Within P home) :
    Spares P (functionData function f home name) := by
  unfold functionData
  repeat' first | with_reducible refine .bind ?_ fun _ _ => ?_ | with_reducible refine .either ?_ ?_ | split
  all_goals grind

@[grind ←] theorem spares_numberData (number : Number) (name : String) (htarget : P target) :
    Spares P (numberData target number name) := by
  unfold numberData
  repeat' first | with_reducible refine .bind ?_ fun _ _ => ?_ | with_reducible refine .either ?_ ?_ | split
  all_goals grind

@[grind ←] theorem spares_dataOf (name : String) (htarget : P target) : Spares P (dataOf target name) := by
  unfold dataOf
  repeat' first | with_reducible refine .bind ?_ fun _ _ => ?_ | with_reducible refine .either ?_ ?_ | split
  all_goals grind

@[grind ←] theorem spares_ownData (name : String) (htarget : P target) : Spares P (ownData target name) := by
  unfold ownData
  exact .either (spares_classOf htarget) (.either (spares_attributesOf htarget) (spares_dataOf name htarget))

@[grind ←] theorem spares_bindMember (owner : String) (name : String) (kind : MemberKind) (htarget : P target) :
    Spares P (bindMember target owner name kind) := by
  unfold bindMember
  repeat' first | with_reducible refine .bind ?_ fun _ _ => ?_ | with_reducible refine .either ?_ ?_ | split
  all_goals grind

@[grind ←] theorem spares_checkOwner (name : Text) (htarget : P target) :
    Spares P (checkOwner target class? name) := by
  unfold checkOwner
  repeat' first | with_reducible refine .bind ?_ fun _ _ => ?_ | with_reducible refine .either ?_ ?_ | split
  all_goals grind

@[grind ←] theorem spares_keptIn (name : Text) (kind : MemberKind) (htarget : P target)
    :
    Spares P (keptIn place target class? name kind) := by
  unfold keptIn
  refine .bind (spares_checkOwner name htarget) fun _ _ => .either ?_ (.bind .get fun g hg => ?_)
  · exact .either (spares_attributesOf htarget) spares_none
  · split
    · next value hvalue => exact .pure (by grind)
    · exact spares_missingAttribute name

@[grind ←] theorem spares_bound (hvalue : P value) (htarget : P target) : Spares P (bound value target) := by
  unfold bound
  refine .bind .get fun g hg => ?_
  split
  · exact .either (spares_bindFor hvalue htarget) (.either (spares_ownData _ htarget) (spares_refuseForeign _ _ _))
  · exact spares_keptIn _ _ htarget
  · exact spares_bindFor hvalue htarget

@[grind ←] theorem spares_entryFor {x2 : ClassEntry} (key : String) (htarget : P target) (hx2 : Within P x2) :
    Spares P (entryFor target key x2) := by
  unfold entryFor
  split
  · exact .either (spares_ownData key htarget) (spares_bindMember _ _ _ htarget)
  · exact spares_none
  · exact spares_bound hx2 htarget

@[grind ←] theorem spares_shownOfFunction? (name : Text) (hfunction : P function) :
    Spares P (shownOfFunction? function name) := by
  unfold shownOfFunction?
  repeat' first | with_reducible refine .bind ?_ fun _ _ => ?_ | with_reducible refine .either ?_ ?_ | split
  all_goals grind

@[grind ←] theorem spares_missingInModule (name : Text) (hattributes : P attributes) :
    Spares P (missingInModule attributes name) := by
  unfold missingInModule
  refine .bind .get fun g hg => ?_
  extract_lets own
  have hown : ∀ key, Within P (own key) := fun key => Guest.within_lookup hg hattributes _
  clear_value own
  repeat' first | with_reducible refine .bind ?_ fun _ _ => ?_ | with_reducible refine .either ?_ ?_ | dsimp only | split
  case h_2.refine_1 =>
    refine .elim ?_ (.pure trivial) fun id hid => spares_truth hid
    grind
  all_goals grind

@[grind ←] theorem spares_outOfClass {x2 : ClassEntry} (key : String) (hclass : P class?) (hx2 : Within P x2) :
    Spares P (outOfClass class? key x2) := by
  unfold outOfClass
  repeat' first | with_reducible refine .bind ?_ fun _ _ => ?_ | with_reducible refine .either ?_ ?_ | split
  all_goals grind

@[grind ←] theorem spares_classAttribute (name : Text) (htarget : P target) : Spares P (classAttribute target name) := by
  unfold classAttribute
  repeat' first | with_reducible refine .bind ?_ fun _ _ => ?_ | with_reducible refine .either ?_ ?_ | split
  all_goals grind

@[grind ←] theorem spares_ancestralAttribute (name : Text) (hself : P self) :
    Spares P (ancestralAttribute target class? self name) := by
  unfold ancestralAttribute
  repeat' first | with_reducible refine .bind ?_ fun _ _ => ?_ | with_reducible refine .either ?_ ?_ | dsimp only | split
  all_goals grind

@[grind ←] theorem spares_objectAttribute (name : Text) (htarget : P target) :
    Spares P (objectAttribute target name) := by
  unfold objectAttribute
  repeat' first | with_reducible refine .bind ?_ fun _ _ => ?_ | with_reducible refine .either ?_ ?_ | split
  all_goals grind

@[grind ←] theorem spares_attributeByDefault (name : Text) (htarget : P target) :
    Spares P (attributeByDefault target name) := by
  unfold attributeByDefault
  refine .bind .get fun g hg => .either (spares_classAttribute name htarget) ?_
  have hbody := Guest.within_body_of hg htarget
  split
  · next attributes hmodule =>
    exact .either (.pure (by simpa [hmodule] using hbody)) (spares_objectAttribute name htarget)
  · next class? self hsuper =>
    refine .either (spares_objectAttribute name htarget) (spares_ancestralAttribute name ?_)
    grind
  · exact spares_objectAttribute name htarget

@[grind ←] theorem spares_attributeNamed (name : Text) (htarget : P target) : Spares P (attributeNamed target name) := by
  unfold attributeNamed
  refine .bind .get fun g hg => ?_
  extract_lets first
  have hfirst : Spares P first := by
    simp only [first]
    split
    · next value hvalue => exact .bind (spares_name _) fun _ hname => spares_callFor (by grind) htarget (by grind)
    · exact spares_attributeByDefault name htarget
  clear_value first
  split
  · exact hfirst
  · next value hvalue =>
    refine .tryCatch hfirst fun f => .either (.bind (spares_name _) fun _ hname => ?_) (.raise _)
    exact spares_callFor (by grind) htarget (by grind)

@[grind ←] theorem spares_attributeOf (name : String) (htarget : P target) : Spares P (attributeOf target name) :=
  spares_attributeNamed _ htarget

@[grind ←] theorem spares_attribute? (name : Text) (htarget : P target) : Spares P (attribute? target name) :=
  .tryCatch (.map (spares_attributeNamed name htarget) fun _ h => (within_some _).mpr h) fun _ =>
    .either (.pure (by simp)) (.raise _)

@[grind ←] theorem spares_nameList : Spares P (nameList classes) := by
  unfold nameList
  repeat' first | with_reducible refine .bind ?_ fun _ _ => ?_ | with_reducible refine .either ?_ ?_ | split
  all_goals grind

theorem within_mergeWithin (fuel : Nat) {orders : List (List Identity)} (ho : Within P orders) :
    Within P (Linearization.mergeWithin fuel orders) := by
  induction fuel generalizing orders with
  | zero => simp [Linearization.mergeWithin]
  | succ fuel ih =>
    have hwithout (class? : Identity) : Within P (Linearization.without class? orders) :=
      within_filter _ (within_map ho fun order horder => by split <;> grind)
    have hnext : Within P (Linearization.next? orders) :=
      within_list_find? _ (within_filterMap ho fun order horder => within_head? horder)
    rw [Linearization.mergeWithin]
    split
    · simp
    · next class? hfound _ =>
      rw [hfound] at hnext
      have hrest := ih (hwithout class?)
      cases hm : Linearization.mergeWithin fuel (Linearization.without class? orders) with
      | error leading => simp [Except.map]
      | ok order =>
        rw [hm] at hrest
        exact (within_ok _).mpr ((within_cons _ _).mpr ⟨(within_some _).mp hnext, (within_ok _).mp hrest⟩)
    · simp

theorem within_merge {orders : List (List Identity)} (ho : Within P orders) : Within P (Linearization.merge orders) :=
  within_mergeWithin _ (within_filter _ ho)

grind_pattern within_merge => Within P orders, Linearization.merge orders

@[grind ←] theorem spares_ancestorsOf (hbases : Within P bases) : Spares P (ancestorsOf bases) := by
  unfold ancestorsOf
  split
  · grind
  · dsimp only
    have horder (orders : List (List Identity)) (ho : Within P orders) :
        Within P (Linearization.merge (orders ++ [bases])) :=
      within_merge ((within_append _ _).mpr ⟨ho, (within_cons _ _).mpr ⟨hbases, within_nil.mpr trivial⟩⟩)
    repeat' first | with_reducible refine .bind ?_ fun _ _ => ?_ | with_reducible refine .either ?_ ?_ | dsimp only | split
    all_goals grind

@[grind ←] theorem spares_solidClass (depth : Nat) (hclass : P class?) : Spares P (solidClass depth class?) := by
  induction depth generalizing class? with
  | zero => exact .pure hclass
  | succ depth ih =>
    rw [solidClass]
    repeat' first | with_reducible refine .bind ?_ fun _ _ => ?_ | with_reducible refine .either ?_ ?_ | split
    all_goals grind

@[grind ←] theorem spares_mainBase (hbases : Within P bases) : Spares P (mainBase bases) := by
  unfold mainBase
  extract_lets better
  have hbetter : ∀ best base, Within P best → P base → Spares P (better best base) := fun best base hbest hbase => by
    simp only [better]
    repeat' first | with_reducible refine .bind ?_ fun _ _ => ?_ | with_reducible refine .either ?_ ?_ | dsimp only | split
    all_goals grind
  clear_value better
  split <;> grind

@[grind ←] theorem spares_makerFor (hmaker : P maker) (hbases : Within P bases) : Spares P (makerFor maker bases) := by
  unfold makerFor
  extract_lets narrower
  have hnarrower : ∀ maker base, P maker → P base → Spares P (narrower maker base) := fun maker base hmaker hbase => by
    simp only [narrower]
    repeat' first | with_reducible refine .bind ?_ fun _ _ => ?_ | with_reducible refine .either ?_ ?_ | dsimp only | split
    all_goals grind
  exact .foldlM hbases hmaker hnarrower

@[grind ←] theorem spares_systemError (type : String) (harguments : Within P arguments) :
    Spares P (systemError type arguments) := by
  unfold systemError
  refine .bind .get fun g hg => ?_
  split
  · next number reason more =>
    rw [within_cons, within_cons] at harguments
    obtain ⟨hnumber, hreason, hmore⟩ := harguments
    have hfile := within_optionFilter (fun id => !g.isNone id) (within_head? hmore)
    repeat' first | with_reducible refine .bind ?_ fun _ _ => ?_ | with_reducible refine .either ?_ ?_ | dsimp only | split
    all_goals grind
  · grind

@[grind ←] theorem spares_syntaxPlace (hid : P id) : Spares P (syntaxPlace id) := by
  unfold syntaxPlace
  repeat' first | with_reducible refine .bind ?_ fun _ _ => ?_ | with_reducible refine .either ?_ ?_ | split
  all_goals grind

@[grind ←] theorem spares_syntaxError (harguments : Within P arguments) : Spares P (syntaxError arguments) := by
  unfold syntaxError
  repeat' first | with_reducible refine .bind ?_ fun _ _ => ?_ | with_reducible refine .either ?_ ?_ | split
  all_goals grind

@[grind ←] theorem spares_textAt (place : Nat) : Spares P (textAt place id) := by
  unfold textAt
  repeat' first | with_reducible refine .bind ?_ fun _ _ => ?_ | with_reducible refine .either ?_ ?_ | split
  all_goals grind

@[grind ←] theorem spares_codingError_wrongNumber (arguments : List Identity) (needed : Nat) :
    Spares P (codingError.wrongNumber arguments needed : GuestM α) := .raise _

@[grind ←] theorem spares_codingError (type : String) (harguments : Within P arguments) :
    Spares P (codingError type arguments) := by
  unfold codingError
  repeat' first | with_reducible refine .bind ?_ fun _ _ => ?_ | with_reducible refine .either ?_ ?_ | dsimp only | split
  all_goals grind

@[grind ←] theorem spares_group (type : String) (harguments : Within P arguments) : Spares P (group type arguments) := by
  unfold group
  split
  · next message members =>
    rw [within_cons, within_cons] at harguments
    obtain ⟨hmessage, hmembers, -⟩ := harguments
    repeat' first | with_reducible refine .bind ?_ fun _ _ => ?_ | with_reducible refine .either ?_ ?_ | dsimp only | split
    all_goals first | grind | exact .pure (by simp_all)
  · grind

@[grind ←] theorem spares_exceptionBody (name : String) (harguments : Within P arguments) :
    Spares P (exceptionBody name arguments) := by
  unfold exceptionBody
  repeat' first | with_reducible refine .bind ?_ fun _ _ => ?_ | with_reducible refine .either ?_ ?_ | dsimp only | split
  all_goals first | grind | exact .pure ⟨‹_›, by grind⟩

@[grind ←] theorem spares_makeException (name : String) (harguments : Within P arguments) :
    Spares P (makeException name arguments) :=
  .bind (spares_exceptionBody name harguments) fun _ h => spares_allocate h (by simp)

end GuestM

end ScriptHost
