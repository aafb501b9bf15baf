import ScriptHost.Guest.Hashing
import ScriptHost.Proofs.Reach.Lookup

/-! The hashes and the forms of keys, and the namespaces that go by them, stay within what a computation was given. -/
namespace ScriptHost

variable {P : Identity → Prop} {α : Type} [Refers α] {id namespaceDict value : Identity}

namespace KeyPart

@[grind ←] theorem within_ofDouble (x : Double) (hid : P id) : Within P (ofDouble id x) := by
  unfold ofDouble
  grind

@[grind ←] theorem within_ofComplex (re im : Double) (hid : P id) : Within P (ofComplex id re im) := by
  unfold ofComplex
  grind

@[grind ←] theorem within_ofRange (start stop step : Int) : Within P (ofRange start stop step) := by
  unfold ofRange
  grind

end KeyPart

namespace GuestM

@[grind ←] theorem spares_liftExcept {x : Except Fault α} (hx : Within P x) : Spares P (liftExcept x) := by
  cases x with
  | ok a => exact .pure ((within_ok a).mp hx)
  | error f => exact .raise f

@[grind ←] theorem spares_unhashable (id : Identity) : Spares P (unhashable id : GuestM α) := by
  unfold unhashable
  grind

@[grind ←] theorem spares_writableView : Spares P (writableView : GuestM α) := .raise _

@[grind ←] theorem spares_ownHash? (hid : P id) : Spares P (ownHash? id) := by
  unfold ownHash?
  repeat' first | with_reducible refine .bind ?_ fun _ _ => ?_ | with_reducible refine .either ?_ ?_ | split
  all_goals grind

section
variable {inner : Identity → GuestM UInt64}

@[grind ←] theorem spares_hashOfBody (hinner : ∀ id, P id → Spares P (inner id)) (hid : P id) :
    Spares P (hashOfBody inner id) := by
  unfold hashOfBody
  repeat' first | with_reducible refine .bind ?_ fun _ _ => ?_ | with_reducible refine .either ?_ ?_ | split
  all_goals grind

end

@[grind ←] theorem spares_hashTo (depth : Nat) (hid : P id) : Spares P (hashTo depth id) := by
  induction depth generalizing id with
  | zero => exact .raise _
  | succ depth ih =>
    rw [hashTo]
    refine .bind .get fun g hg => ?_
    grind

@[grind ←] theorem spares_hash (hid : P id) : Spares P (hash id) := by
  unfold hash
  repeat' first | with_reducible refine .bind ?_ fun _ _ => ?_ | with_reducible refine .either ?_ ?_ | split
  all_goals grind

section
variable {inner : Identity → GuestM Key}

@[grind ←] theorem spares_keyFormOfBody (hinner : ∀ id, P id → Spares P (inner id)) (hid : P id) :
    Spares P (keyFormOfBody inner id) := by
  unfold keyFormOfBody
  repeat' first | with_reducible refine .bind ?_ fun _ _ => ?_ | with_reducible refine .either ?_ ?_ | split
  all_goals grind

end

@[grind ←] theorem spares_keyFormTo (depth : Nat) (hid : P id) : Spares P (keyFormTo depth id) := by
  induction depth generalizing id with
  | zero => exact .raise _
  | succ depth ih =>
    rw [keyFormTo]
    refine .bind .get fun g hg => ?_
    grind

@[grind ←] theorem spares_keyForm (hid : P id) : Spares P (keyForm id) := by
  unfold keyForm
  grind

@[grind ←] theorem spares_setName (name : Text) (hd : P namespaceDict) (hv : P value) :
    Spares P (setName namespaceDict name value) := by
  unfold setName
  refine .bind (spares_name name) fun key hkey => .modify fun g hg => ?_
  grind

@[grind ←] theorem spares_eraseName (name : Text) (hd : P namespaceDict) :
    Spares P (eraseName namespaceDict name) := by
  unfold eraseName
  grind

@[grind ←] theorem spares_setSystem (name : String) (hv : P value) : Spares P (setSystem name value) := by
  unfold setSystem
  grind

@[grind ←] theorem spares_attributesOf (hid : P id) : Spares P (attributesOf id) := by
  unfold attributesOf
  refine .bind .get fun g hg => ?_
  split
  · grind
  · refine .bind (by grind) fun attributes ha => .bind (.modify fun g hg => Guest.changesWithin_modify hg hid ?_) ?_ <;> grind

end GuestM
end ScriptHost
