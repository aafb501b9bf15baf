import ScriptHost.Evaluator.Scope
import ScriptHost.Proofs.Handle.Registry

/-! Conversions of host values take no handles: whatever converters a table has and however a conversion ends,
counts are what they were. Only the way out of the interpreter and the registry itself change them. -/
namespace ScriptHost

/-- A computation on a crossing that leaves the counts of handles as they are, and the namespace in its place. -/
def TransferM.LeavesCounts {α : Type} (run : TransferM α) : Prop :=
  ∀ t, Ends run t fun _ t' => t'.counts = t.counts ∧ t'.namespaceDict = t.namespaceDict

namespace TransferM.LeavesCounts
open Stepping
variable {α β : Type} {run : TransferM α}

protected theorem pure (a : α) : LeavesCounts (Pure.pure a) := fun _ => .of_ok rfl ⟨rfl, rfl⟩

protected theorem throw (f : Fault) : LeavesCounts (throw f : TransferM α) := fun _ => .of_error rfl ⟨rfl, rfl⟩

protected theorem bind {next : α → TransferM β} (h : run.LeavesCounts) (hnext : ∀ a, (next a).LeavesCounts) :
    LeavesCounts (run >>= next) := fun t =>
  (h t).bind (fun a t' ht' => (hnext a t').mono fun _ _ ht'' => ⟨ht''.1.trans ht'.1, ht''.2.trans ht'.2⟩)
    fun _ _ ht' => ht'

protected theorem get {next : Transfer → TransferM β} (h : ∀ t, (next t).LeavesCounts) :
    LeavesCounts (get >>= next) := fun t => h t t

protected theorem attempt (h : run.LeavesCounts) : LeavesCounts (attempt run) := fun t => by
  have ht := h t
  unfold Ends at ht ⊢
  rw [attempt_run]
  cases hrun : run t <;> simpa [hrun] using ht

protected theorem tryCatch {handler : Fault → TransferM α} (h : run.LeavesCounts)
    (hhandler : ∀ f, (handler f).LeavesCounts) : LeavesCounts (tryCatch run handler) := fun t => by
  cases hrun : run t with
  | ok a t' => exact .of_ok (by rw [tryCatch_run, hrun]) ((h t).at_ok hrun)
  | error f t' =>
    have hstart := (h t).at_error hrun
    have hend : Ends (handler f) t' fun _ t'' => t''.counts = t.counts ∧ t''.namespaceDict = t.namespaceDict :=
      (hhandler f t').mono fun _ _ ht => ⟨ht.1.trans hstart.1, ht.2.trans hstart.2⟩
    unfold Ends at hend ⊢
    rwa [tryCatch_run, hrun]

protected theorem guest (run : GuestM α) : LeavesCounts (TransferM.guest run) := fun t => by
  unfold Ends
  rw [guest_run]
  cases GuestM.atTop run t.guest <;> exact ⟨rfl, rfl⟩

protected theorem record (level : Level) (source : Source) (message : String) :
    LeavesCounts (record level source message) := .guest _

protected theorem anew (h : run.LeavesCounts) : LeavesCounts (anew run) := fun t =>
  .bind_of_ok (modify_run _ t) (h { t with active := [], acquired := #[] })

end TransferM.LeavesCounts

open TransferM

namespace Inbound

theorem leavesCounts_structural {v : Value} {run : TransferM Identity} (h : structural v = some run) :
    run.LeavesCounts := by
  cases v <;> cases h <;> exact .guest _

theorem leavesCounts_handle (id : Identity) : (handle id).LeavesCounts := by
  refine .bind (.get fun t => .pure _) fun found => ?_
  cases found with
  | some obj => exact .pure obj
  | none => exact .bind (.record _ _ _) fun _ => .guest _

section
variable {self : Value → TransferM Identity} (hself : ∀ v, (self v).LeavesCounts)
include hself

theorem leavesCounts_orPassthrough (v : Value) : (orPassthrough self v).LeavesCounts :=
  .tryCatch (hself v) fun _ => .bind (.record _ _ _) fun _ => .guest _

theorem leavesCounts_items (vs : List Value) : (items self vs).LeavesCounts := by
  induction vs with
  | nil => exact .pure []
  | cons v vs ih => exact .bind (hself v) fun _ => .bind ih fun _ => .pure _

theorem leavesCounts_entries (rest : List (Value × Value)) (found : Dict) :
    (entries self found rest).LeavesCounts := by
  induction rest generalizing found with
  | nil => exact .pure found
  | cons entry rest ih =>
    exact .bind (hself entry.1) fun _ => .bind (hself entry.2) fun _ => .bind (.guest _) fun _ => ih _

theorem leavesCounts_runPlan (plan : InboundPlan) : (runPlan self plan).LeavesCounts := by
  induction plan with
  | done obj => exact .pure obj
  | fail f => exact .throw f
  | build run next ih => exact .bind (.attempt (.guest run)) ih
  | marshal v next ih => exact .bind (.attempt (hself v)) ih
  | marshalOrPassthrough v next ih => exact .bind (leavesCounts_orPassthrough hself v) ih
  | passthrough v next ih => exact .bind (.guest _) ih
  | structural v next ih =>
    unfold runPlan
    cases hrun : Inbound.structural v with
    | some run => exact .bind (leavesCounts_structural hrun) fun obj => ih (some obj)
    | none => exact ih none
  | handleCount next ih => exact .get fun t => ih t.counts.live

theorem leavesCounts_apply (conversion : InboundConversion) (v : Value) :
    (apply self conversion v).LeavesCounts := by
  unfold apply
  split
  · exact .bind (leavesCounts_items hself _) fun _ => .guest _
  · exact .bind (leavesCounts_entries hself _ _) fun _ => .guest _
  · exact leavesCounts_handle _
  · exact leavesCounts_runPlan hself _
  · exact .guest _

end

/-- Conversions of values leave the counts alone at every depth. -/
theorem leavesCounts_marshalTo (converters : List InboundConverter) (depth : Nat) (v : Value) :
    (marshalTo converters depth v).LeavesCounts := by
  induction depth generalizing v with
  | zero => exact .throw _
  | succ depth ih =>
    unfold marshalTo
    split
    · exact .bind (.record _ _ _) fun _ => leavesCounts_apply ih _ v
    · split
      · next hrun => exact leavesCounts_structural hrun
      · exact .guest _

theorem leavesCounts_marshalOrPassthrough (converters : List InboundConverter) (v : Value) :
    (marshalOrPassthrough converters v).LeavesCounts :=
  leavesCounts_orPassthrough (fun v => leavesCounts_marshalTo converters _ v) v

end Inbound

/-! ### Scopes -/

namespace Scope

theorem leavesCounts_make : make.LeavesCounts :=
  .get fun _ => .get fun _ => .bind (.guest _) fun _ => .bind (.guest _) fun _ => .bind (.guest _) fun _ =>
    .bind (.guest _) fun _ => .bind (.guest _) fun _ => .pure _

theorem leavesCounts_bindAll (table : ConverterTable) (scope : Scope) (pairs : List (String × Value)) :
    (bindAll table scope pairs).LeavesCounts := by
  induction pairs with
  | nil => exact .pure _
  | cons pair rest ih =>
    have hbind : (bind table scope pair.1 pair.2).LeavesCounts :=
      .anew (.bind (Inbound.leavesCounts_marshalOrPassthrough _ _) fun _ => .guest _)
    exact .bind hbind fun _ => ih

theorem leavesCounts_seed (table : ConverterTable) (scope : Scope) (pairs : List (String × Value)) :
    (seed table scope pairs).LeavesCounts :=
  .bind (leavesCounts_bindAll table scope pairs) fun _ => .pure _

theorem leavesCounts_execute (scope : Scope) (code : Script) : (execute scope code).LeavesCounts := by
  refine .bind (.attempt (.guest _)) fun answer => ?_
  cases answer with
  | ok => exact .pure _
  | error f => exact .bind (.record _ _ _) fun _ => .pure _

end Scope
end ScriptHost
