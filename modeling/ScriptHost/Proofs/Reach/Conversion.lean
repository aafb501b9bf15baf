import ScriptHost.Convert.Recipe
import ScriptHost.Proofs.Reach.Crossing

/-! Conversions stay within what a crossing was given, in both directions, if the conversions of users do; the ready-made
ones do. -/
namespace ScriptHost
open TransferM (Spares)

variable {P : Identity → Prop} {α : Type} {id : Identity}

instance : Refers MappingItem := ⟨fun P item => match item with
  | .pair key value => P key ∧ P value
  | .object id => P id⟩

@[simp, grind =] theorem within_pair (key value : Identity) : Within P (MappingItem.pair key value) ↔ P key ∧ P value := .rfl

@[simp, grind =] theorem within_mappingObject (id : Identity) : Within P (MappingItem.object id) ↔ P id := .rfl

instance : Refers GuestM.Unwrapped := ⟨fun P found => match found with
  | .other id => P id
  | .native _ | .unchanged => True⟩

@[simp, grind =] theorem within_other (id : Identity) : Within P (GuestM.Unwrapped.other id) ↔ P id := .rfl

@[simp, grind =] theorem within_native (v : Value) : Within P (GuestM.Unwrapped.native v) ↔ True := .rfl

@[simp, grind =] theorem within_unchanged : Within P GuestM.Unwrapped.unchanged ↔ True := .rfl

/-! ### The conversions of users -/

/-- A user's conversion of a value that spares what is outside of a set: each of its computations does, and it ends with
no object from there. -/
@[simp] def InboundPlan.Spares (P : Identity → Prop) : InboundPlan → Prop
  | .done obj => P obj
  | .fail _ => True
  | .build run next => run.Spares P ∧ ∀ answer, Within P answer → (next answer).Spares P
  | .marshal _ next => ∀ answer, Within P answer → (next answer).Spares P
  | .marshalOrPassthrough _ next => ∀ obj, P obj → (next obj).Spares P
  | .passthrough _ next => ∀ obj, P obj → (next obj).Spares P
  | .structural _ next => ∀ obj, Within P obj → (next obj).Spares P
  | .handleCount next => ∀ n, (next n).Spares P

/-- A user's conversion of an object that spares what is outside of a set. -/
@[simp] def OutboundPlan.Spares (P : Identity → Prop) : OutboundPlan → Prop
  | .done _ | .fail _ => True
  | .look next => ∀ g, Refers.Within P g → (next g).Spares P
  | .compute run next => run.Spares P ∧ ∀ answer, Refers.Within P answer → (next answer).Spares P
  | .iterate obj next => P obj ∧ ∀ answer, Refers.Within P answer → (next answer).Spares P
  | .advance c next => Refers.Within P c ∧ ∀ answer, Refers.Within P answer → (next answer).Spares P
  | .marshal obj next => P obj ∧ ∀ answer, (next answer).Spares P
  | .marshalOrHandle obj next => P obj ∧ ∀ v, (next v).Spares P
  | .handleFor obj next => P obj ∧ ∀ v, (next v).Spares P
  | .handleCount next => ∀ n, (next n).Spares P

/-- A conversion of values that spares what is outside of a set. -/
@[simp] def InboundConversion.Spares (P : Identity → Prop) : InboundConversion → Prop
  | .custom plan => ∀ v, (plan v).Spares P
  | .sequence | .mapping | .handle => True

/-- A conversion of objects that spares what is outside of a set. -/
@[simp] def OutboundConversion.Spares (P : Identity → Prop) : OutboundConversion → Prop
  | .custom plan => ∀ id, P id → (plan id).Spares P
  | .wrapped | .keep | .mapping | .iterable | .integer => True

/-- Converters of values that spare what is outside of a set. -/
def Inbound.Fair (P : Identity → Prop) (converters : List InboundConverter) : Prop :=
  ∀ c ∈ converters, c.conversion.Spares P

/-- Converters of objects that spare what is outside of a set. -/
def Outbound.Fair (P : Identity → Prop) (converters : List OutboundConverter) : Prop :=
  ∀ c ∈ converters, c.conversion.Spares P

namespace InboundPlan

theorem spares_finish {run : GuestM Identity} (h : run.Spares P) : (finish run).Spares P :=
  ⟨h, fun answer hanswer => by
    cases answer with
    | ok obj => exact (within_ok obj).mp hanswer
    | error f => exact trivial⟩

theorem spares_wrap (v : Value) : (wrap v).Spares P := fun _ hobj => hobj

section
variable {ending : List Identity → InboundPlan} (hending : ∀ objs, Within P objs → (ending objs).Spares P)
include hending

theorem spares_each (vs : List Value) {found : List Identity} (hfound : Within P found) :
    (each ending found vs).Spares P := by
  induction vs generalizing found with
  | nil => exact hending _ (within_reverse hfound)
  | cons v vs ih =>
    intro answer hanswer
    cases answer with
    | ok obj => exact ih ((within_cons _ _).mpr ⟨(within_ok obj).mp hanswer, hfound⟩)
    | error f => exact trivial

theorem spares_eachSafely (vs : List Value) {found : List Identity} (hfound : Within P found) :
    (eachSafely ending found vs).Spares P := by
  induction vs generalizing found with
  | nil => exact hending _ (within_reverse hfound)
  | cons v vs ih => exact fun obj hobj => ih ((within_cons _ _).mpr ⟨hobj, hfound⟩)

end
end InboundPlan

/-- The ready-made conversions of values reach nothing but through references. -/
theorem InboundRecipe.spares_plan (recipe : InboundRecipe) (v : Value) : (recipe.plan v).Spares P := by
  unfold plan
  split
  · exact InboundPlan.spares_wrap _
  · intro obj hobj
    cases obj with
    | none => exact trivial
    | some obj => exact (within_some obj).mp hobj
  · exact InboundPlan.spares_finish (GuestM.spares_string _)
  · exact InboundPlan.spares_each (fun objs hobjs => InboundPlan.spares_finish (GuestM.spares_tuple hobjs)) _ (by simp)
  · exact InboundPlan.spares_wrap _
  · exact InboundPlan.spares_eachSafely (fun objs hobjs => InboundPlan.spares_finish (GuestM.spares_list hobjs)) _ (by simp)
  · exact InboundPlan.spares_finish (GuestM.spares_list (by simp))
  · exact InboundPlan.spares_finish (.bind (GuestM.spares_int _) fun first hfirst => .bind (GuestM.spares_int _)
      fun second hsecond => GuestM.spares_tuple (by simpa using ⟨hfirst, hsecond⟩))
  · exact InboundPlan.spares_wrap _
  · exact fun n => InboundPlan.spares_finish (GuestM.spares_int _)
  · exact InboundPlan.spares_finish (GuestM.spares_objectOf _)
  · exact trivial

namespace OutboundPlan
variable {step : Identity → (Except Fault Value → OutboundPlan) → OutboundPlan} {ending : List Value → OutboundPlan}
  (hstep : ∀ item next, P item → (∀ answer, (next answer).Spares P) → (step item next).Spares P)
  (hending : ∀ vs, (ending vs).Spares P)
include hstep hending

theorem spares_each (hid : P id) : (each step ending id).Spares P := by
  refine ⟨hid, fun answer hanswer => ?_⟩
  cases answer with
  | error f => exact trivial
  | ok c =>
    generalize mostItems = left
    generalize ([] : List Value) = found
    have hc := (within_ok c).mp hanswer
    clear hanswer
    induction left generalizing c found with
    | zero => exact hending _
    | succ left ih =>
      refine ⟨hc, fun answer hanswer => ?_⟩
      match answer, hanswer with
      | .error f, _ => exact trivial
      | .ok none, _ => exact hending _
      | .ok (some (item, c')), hanswer =>
        obtain ⟨hitem, hc'⟩ := (within_some _).mp ((within_ok _).mp hanswer)
        refine hstep item _ hitem fun answer => ?_
        cases answer with
        | error f => exact trivial
        | ok v => exact ih c' _ hc'

end OutboundPlan

/-- The ready-made conversions of objects reach nothing but through references. -/
theorem OutboundRecipe.spares_plan (recipe : OutboundRecipe) (hid : P id) : (recipe.plan id).Spares P := by
  unfold plan
  split
  · exact ⟨hid, fun _ => trivial⟩
  · intro g _
    dsimp only
    split <;> exact trivial
  · exact fun _ _ => trivial
  · refine ⟨hid, fun answer => ?_⟩
    cases answer <;> exact trivial
  · exact OutboundPlan.spares_each (fun _ _ hitem hnext => ⟨hitem, hnext⟩) (fun _ => trivial) hid
  · exact OutboundPlan.spares_each (fun _ _ hitem hnext => ⟨hitem, fun v => hnext _⟩) (fun _ => trivial) hid
  · exact fun _ => trivial
  · exact trivial
  · exact trivial

theorem Inbound.fair_standard : Fair P standard := by simp [Fair, standard]

theorem Outbound.fair_standard : Fair P standard := by simp [Fair, standard]

/-! ### Values on their way in -/

namespace Inbound
open TransferM
variable {self : Value → TransferM Identity}

@[grind ←] theorem spares_passthrough (v : Value) : Spares P (passthrough v) :=
  .guest (GuestM.spares_allocate (by simp) (by simp))

theorem spares_structural {v : Value} {run : TransferM Identity} (h : structural v = some run) : Spares P run := by
  cases v <;> simp only [structural, Option.some.injEq, reduceCtorEq] at h
  all_goals
    subst h
    exact .guest (by grind)

section
variable (hself : ∀ v, Spares P (self v))
include hself

theorem spares_orPassthrough (v : Value) : Spares P (orPassthrough self v) :=
  .tryCatch (hself v) fun _ => .bind (spares_record _ _ _) fun _ _ => spares_passthrough v

theorem spares_items (vs : List Value) : Spares P (items self vs) := by
  induction vs with
  | nil => exact .pure (by simp)
  | cons v vs ih => exact .bind (hself v) fun obj hobj => .bind ih fun objs hobjs => .pure (by simpa using ⟨hobj, hobjs⟩)

theorem spares_entries (rest : List (Value × Value)) {found : Dict} (hfound : Within P found) :
    Spares P (entries self found rest) := by
  induction rest generalizing found with
  | nil => exact .pure hfound
  | cons entry rest ih =>
    exact .bind (hself _) fun key hkey => .bind (hself _) fun value hvalue =>
      .bind (.guest (by grind)) fun dict hdict => ih hdict

theorem spares_runPlan {plan : InboundPlan} (hplan : plan.Spares P) : Spares P (runPlan self plan) := by
  induction plan with
  | done obj => exact .pure hplan
  | fail f => exact .throw f
  | build run next ih => exact .bind (.attempt (.guest hplan.1)) fun answer hanswer => ih answer (hplan.2 answer hanswer)
  | marshal v next ih => exact .bind (.attempt (hself v)) fun answer hanswer => ih answer (hplan answer hanswer)
  | marshalOrPassthrough v next ih =>
    exact .bind (spares_orPassthrough hself v) fun obj hobj => ih obj (hplan obj hobj)
  | passthrough v next ih => exact .bind (spares_passthrough v) fun obj hobj => ih obj (hplan obj hobj)
  | structural v next ih =>
    unfold runPlan
    cases hfound : structural v with
    | some run => exact .bind (spares_structural hfound) fun obj hobj => ih _ (hplan _ (by simpa using hobj))
    | none => exact ih _ (hplan _ (by simp))
  | handleCount next ih => exact .bind .get fun t _ => ih _ (hplan _)

theorem spares_apply {c : InboundConversion} (hc : c.Spares P) (v : Value) : Spares P (apply self c v) := by
  unfold apply
  split
  · exact .bind (spares_items hself _) fun objects hobjects => .guest (GuestM.spares_list hobjects)
  · exact .bind (spares_entries hself _ (by simp)) fun dict hdict => .guest (GuestM.spares_allocate hdict (by simp))
  · unfold handle
    refine .bind (spares_resolve _) fun found hfound => ?_
    split
    · exact .pure ((within_some _).mp hfound)
    · exact .bind (spares_record _ _ _) fun _ _ => .guest (GuestM.spares_string _)
  · exact spares_runPlan hself (hc _)
  · exact spares_passthrough _

end

variable {converters : List InboundConverter} (hconverters : Fair P converters)
include hconverters

theorem spares_marshalTo (depth : Nat) (v : Value) : Spares P (marshalTo converters depth v) := by
  induction depth generalizing v with
  | zero => exact .throw .tooDeep
  | succ depth ih =>
    unfold marshalTo
    split
    · next c hfound =>
      exact .bind (spares_record _ _ _) fun _ _ => spares_apply ih (hconverters c (List.mem_of_find?_eq_some hfound)) v
    · split
      · next run hrun => exact spares_structural hrun
      · exact spares_passthrough v

theorem spares_marshalOrPassthrough (v : Value) : Spares P (marshalOrPassthrough converters v) :=
  spares_orPassthrough (fun v => by unfold marshal; exact spares_marshalTo hconverters _ v) v

end Inbound

/-! ### Objects on their way out -/

namespace GuestM

@[grind ←] theorem spares_mappingItems (hid : P id) : GuestM.Spares P (mappingItems id) := by
  unfold mappingItems
  repeat' first | with_reducible refine .bind ?_ fun _ _ => ?_ | with_reducible refine .either ?_ ?_ | split
  all_goals grind

@[grind ←] theorem spares_pairOf {item : MappingItem} (hitem : Within P item) : GuestM.Spares P (pairOf item) := by
  unfold pairOf
  split
  · exact .pure hitem
  · refine .bind .get fun g hg => ?_
    split
    · next id items hbody =>
      have hitems := (within_toList items).mpr ((within_body _).mp (hbody ▸ Guest.within_body_of hg hitem))
      split
      · next key value hpair =>
        simp only [hpair, within_cons] at hitems
        exact .pure ⟨hitems.1, hitems.2.1⟩
      · exact .raise _
    · exact .raise _

@[grind ←] theorem spares_asIndex (hid : P id) : GuestM.Spares P (asIndex id) := by
  unfold asIndex
  repeat' first | with_reducible refine .bind ?_ fun _ _ => ?_ | with_reducible refine .either ?_ ?_ | split
  all_goals grind

@[grind ←] theorem spares_unwrap (hid : P id) : GuestM.Spares P (unwrap id) := by
  unfold unwrap
  repeat' first | with_reducible refine .bind ?_ fun _ _ => ?_ | with_reducible refine .either ?_ ?_ | split
  all_goals grind

@[grind ←] theorem spares_askForMark (hid : P id) : GuestM.Spares P (askForMark id) := by
  unfold askForMark
  repeat' first
    | with_reducible refine .bind ?_ fun _ _ => ?_
    | with_reducible refine .tryCatch ?_ fun _ => ?_
    | split
  all_goals grind

end GuestM

namespace Outbound
open TransferM
variable {self : Identity → TransferM Value}

@[grind ←] theorem spares_handleFor (hid : P id) : Spares P (handleFor id) :=
  .bind (spares_acquire hid) fun _ _ => .bind (.modify (fun _ => rfl) fun _ => rfl) fun _ _ => .pure trivial

@[grind ←] theorem spares_degrade (mark : Nat) (hid : P id) : Spares P (degrade mark id) := by
  unfold degrade
  refine .bind .get fun t _ => .bind (.modify (fun _ => rfl) fun _ => rfl) fun _ _ =>
    .bind (.discard (spares_releaseAll _)) fun _ _ => ?_
  split
  · exact spares_handleFor hid
  · exact .bind (spares_record _ _ _) fun _ _ => spares_handleFor hid

section
variable (hself : ∀ id, P id → Spares P (self id))
include hself

theorem spares_orHandle (hid : P id) : Spares P (orHandle self id) :=
  .bind .get fun _ _ => .tryCatch (hself id hid) fun _ => .bind (spares_record _ _ _) fun _ _ => spares_degrade _ hid

theorem spares_iterate (left : Nat) {c : Cursor} (hc : Within P c) : Spares P (iterate self left c) := by
  induction left generalizing c with
  | zero => exact .pure (by simp)
  | succ left ih =>
    unfold iterate
    refine .bind (.guest (by grind)) fun found hfound => ?_
    split
    · exact .pure (by simp)
    · next item c' =>
      obtain ⟨hitem, hc'⟩ := (within_some _).mp hfound
      exact .bind (hself _ hitem) fun v _ => .bind (ih hc') fun vs _ => .pure (by simp)

theorem spares_entries (mark : Nat) {m : ValueMap} {found : List MappingItem} (hid : P id) (hfound : Within P found) :
    Spares P (entries self id mark m found) := by
  induction found generalizing m with
  | nil => exact .pure trivial
  | cons item rest ih =>
    rw [within_cons] at hfound
    unfold entries
    refine .bind (.guest (GuestM.spares_pairOf hfound.1)) fun pair hpair => .bind (hself _ hpair.1) fun key _ => ?_
    split
    · exact .bind (spares_record _ _ _) fun _ _ => spares_degrade mark hid
    · exact .bind (hself _ hpair.2) fun value _ => ih hfound.2

theorem spares_runPlan {plan : OutboundPlan} (hplan : plan.Spares P) : Spares P (runPlan self plan) := by
  induction plan with
  | done v => exact .pure trivial
  | fail f => exact .throw f
  | look next ih => exact .bind .get fun t ht => ih _ (hplan _ ht.guest)
  | compute run next ih => exact .bind (.attempt (.guest hplan.1)) fun answer hanswer => ih answer (hplan.2 answer hanswer)
  | iterate obj next ih =>
    have hobj := hplan.1
    exact .bind (.attempt (.guest (by grind))) fun answer hanswer => ih answer (hplan.2 answer hanswer)
  | advance c next ih =>
    have hc := hplan.1
    exact .bind (.attempt (.guest (by grind))) fun answer hanswer => ih answer (hplan.2 answer hanswer)
  | marshal obj next ih => exact .bind (.attempt (hself obj hplan.1)) fun answer _ => ih answer (hplan.2 answer)
  | marshalOrHandle obj next ih => exact .bind (spares_orHandle hself hplan.1) fun v _ => ih v (hplan.2 v)
  | handleFor obj next ih => exact .bind (spares_handleFor hplan.1) fun v _ => ih v (hplan.2 v)
  | handleCount next ih => exact .bind .get fun t _ => ih _ (hplan _)

theorem spares_apply {c : OutboundConversion} (hc : c.Spares P) (hid : P id) : Spares P (apply self c id) := by
  cases c with
  | wrapped =>
    refine .bind .get fun t _ => ?_
    split
    · exact .pure trivial
    · exact .bind .get fun t _ => .throw _
  | keep => exact spares_handleFor hid
  | mapping =>
    exact .bind .get fun t _ => .bind (.guest (GuestM.spares_mappingItems hid)) fun found hfound =>
      spares_entries hself _ hid hfound
  | iterable =>
    exact .bind (.guest (by grind)) fun c hc => .bind .get fun t _ => .bind (spares_iterate hself _ hc) fun vs _ =>
      .pure trivial
  | integer =>
    refine .bind .get fun t _ => ?_
    split
    · exact .pure trivial
    · exact .throw _
  | custom plan => exact spares_runPlan hself (hc id hid)

end

variable {converters : List OutboundConverter} (hconverters : Fair P converters)
include hconverters

theorem spares_dispatch (hself : ∀ id, P id → Spares P (self id)) (hid : P id) :
    Spares P (dispatch self converters id) := by
  have hconvert (g : Guest) : Spares P (convert self (resolve converters g id) id) := by
    cases hfound : resolve converters g id with
    | some c =>
      exact .bind (spares_record _ _ _) fun _ _ =>
        spares_apply hself (hconverters c (List.mem_of_find?_eq_some hfound)) hid
    | none =>
      refine .bind (.guest (GuestM.spares_unwrap hid)) fun found hfound => ?_
      split
      · exact .pure trivial
      · exact spares_handleFor hid
      · exact hself _ hfound
  unfold dispatch
  refine .bind .get fun t _ => ?_
  dsimp only
  split
  · exact .bind (.guest (GuestM.spares_askForMark hid)) fun _ _ => hconvert _
  · exact hconvert _

theorem spares_marshalTo (depth : Nat) (hid : P id) : Spares P (marshalTo converters depth id) := by
  induction depth generalizing id with
  | zero => exact .throw .tooDeep
  | succ depth ih =>
    unfold marshalTo
    refine .bind .get fun t _ => ?_
    split
    · exact .bind (spares_record _ _ _) fun _ _ => spares_handleFor hid
    · unfold whileActive
      refine .bind (.modify (fun _ => rfl) fun _ => rfl) fun _ _ =>
        .bind (.attempt (spares_dispatch hconverters (fun _ => ih) hid)) fun answer _ =>
          .bind (.modify (fun _ => rfl) fun _ => rfl) fun _ _ => ?_
      split
      · exact .pure trivial
      · exact .throw _

theorem spares_marshalOrHandle (hid : P id) : Spares P (marshalOrHandle converters id) :=
  spares_orHandle (fun _ hid => .bind .get fun _ _ => spares_marshalTo hconverters _ hid) hid

end Outbound
end ScriptHost
