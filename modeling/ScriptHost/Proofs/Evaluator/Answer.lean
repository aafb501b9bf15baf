import ScriptHost.Proofs.Evaluator.Ending
import ScriptHost.Proofs.Evaluator.Handing

/-! The answer of an evaluation, whatever converters and hooks its evaluator has: only the script can fail the call.
What goes wrong before the script gives null, and a conversion that raises on the way in or out degrades. -/
namespace ScriptHost
open Stepping

/-! ### Degradation -/

namespace TransferM

/-- Giving back a handle never raises. -/
theorem release_answers (id : Identity) (t : Transfer) : ∃ answer t', release id t = .ok answer t' := by
  by_cases hdestroyed : (t.counts.release id).1 = .destroyed
  · cases hlookup : t.guest.lookup t.namespaceDict id.entryName with
    | none =>
      obtain ⟨r, r', hrun⟩ := release_run_of_missing hdestroyed hlookup
      exact ⟨_, _, hrun⟩
    | some found =>
      obtain ⟨r, hrun⟩ := release_run_of_destroyed hdestroyed (by simp [hlookup])
      exact ⟨_, _, hrun⟩
  · obtain ⟨r, hrun⟩ := release_run_of_kept hdestroyed
    exact ⟨_, _, hrun⟩

theorem releaseAll_answers (ids : List Identity) (t : Transfer) :
    ∃ destroyed t', releaseAll ids t = .ok destroyed t' := by
  induction ids generalizing t with
  | nil => exact ⟨0, t, rfl⟩
  | cons id ids ih =>
    obtain ⟨answer, t₁, hrun⟩ := release_answers id t
    obtain ⟨destroyed, t₂, hrest⟩ := ih t₁
    exact ⟨_, t₂, by simp [releaseAll, hrun, hrest]; rfl⟩

end TransferM

namespace Outbound
variable {self : Identity → TransferM Value} {id : Identity} {t : Transfer}

theorem handleFor_answers (id : Identity) (t : Transfer) : ∃ t', handleFor id t = .ok (.handle id) t' := by
  obtain ⟨r, hrun⟩ := TransferM.acquire_run id t
  exact ⟨_, by simp [handleFor, hrun]; rfl⟩

theorem degrade_answers (mark : Nat) (id : Identity) (t : Transfer) :
    ∃ t', degrade mark id t = .ok (.handle id) t' := by
  obtain ⟨destroyed, t₁, hrun⟩ := TransferM.releaseAll_answers (t.acquired.extract mark).toList
    { t with acquired := t.acquired.shrink mark }
  unfold degrade
  simp only [bind_run, get_run, modify_run, discard_run, hrun]
  split
  · exact handleFor_answers id t₁
  · exact handleFor_answers id _

/-- An attempt to convert an object is not stopped by an exception: the object's handle is the answer then. -/
theorem orHandle_answers (self : Identity → TransferM Value) (id : Identity) (t : Transfer) : ∃ v t',
    orHandle self id t = .ok v t' ∧ (∀ x t₁, self id t = .ok x t₁ → v = x) ∧
      ∀ f t₁, self id t = .error f t₁ → v = .handle id := by
  cases hself : self id t with
  | ok x t₁ =>
    refine ⟨x, t₁, by simp [orHandle, hself], ?_, nofun⟩
    rintro _ _ ⟨⟩
    rfl
  | error f t₁ =>
    obtain ⟨t₂, hrun⟩ := degrade_answers t.acquired.size id
      { t₁ with guest := t₁.guest.noted ⟨.warn, .marshal, "[Marshal] outbound conversion of " ++ toString id ++
        " failed, returning a handle instead: " ++ f.message⟩ }
    exact ⟨.handle id, t₂, by simp [orHandle, hself, TransferM.record_run, hrun], nofun, fun _ _ _ => rfl⟩

end Outbound

/-- A name that is bound to a new object leads to that object. -/
theorem Guest.bound_adding {g g' : Guest} {n key : Identity} {o : Object} {name : Text} (hn : g.Holds n)
    (h : (g.adding o).Adds g') :
    (g'.withBody n (.dict ((g'.entries n).insert [.text name] key g.next))).lookup n name = some g.next ∧
      (g'.withBody n (.dict ((g'.entries n).insert [.text name] key g.next))).body g.next = o.body := by
  have hn' : (g.adding o).Holds n := (Nat.lt_succ_of_lt hn).trans_eq (by simp [adding])
  have hnew : (g.adding o).Holds g.next := by simp [Holds, next, adding]
  have hne : g.next ≠ n := by
    rintro rfl
    exact Nat.lt_irrefl _ hn
  refine ⟨?_, ?_⟩
  · rw [lookup_insert hn' h, if_pos rfl]
  · rw [body, object_withBody_of_ne _ hne, h.object_eq hnew, object_adding]

namespace Scope
variable {table : ConverterTable} {scope : Scope} {name : String} {t : Transfer}

/-- Reading a name never raises. What is bound is converted, and its handle is read if that raises. -/
theorem get_answers (table : ConverterTable) (scope : Scope) (name : String) (t : Transfer) :
    ∃ found t', get table scope name t = .ok found t' ∧
      (t.guest.lookup scope.globals (.ofString name) = none → found = none) ∧
      ∀ obj, t.guest.lookup scope.globals (.ofString name) = some obj →
        (∀ v t₁, Outbound.marshal table.outbound obj { t with active := [], acquired := #[] } = .ok v t₁ →
          found = some v) ∧
        ∀ f t₁, Outbound.marshal table.outbound obj { t with active := [], acquired := #[] } = .error f t₁ →
          found = some (.handle obj) := by
  cases hlookup : t.guest.lookup scope.globals (.ofString name) with
  | none => exact ⟨none, t, get_of_unbound hlookup, fun _ => rfl, nofun⟩
  | some obj =>
    obtain ⟨v, t', hrun, hvalue, hhandle⟩ := Outbound.orHandle_answers (Outbound.marshal table.outbound) obj
      { t with active := [], acquired := #[] }
    refine ⟨some v, t', get_of_bound hlookup hrun, nofun, ?_⟩
    rintro _ ⟨⟩
    exact ⟨fun x t₁ h => congrArg some (hvalue x t₁ h), fun f t₁ h => congrArg some (hhandle f t₁ h)⟩

/-- Binding a value never raises. One whose conversion raises is bound in a wrapper, if the scope is still there. -/
theorem bind_answers (table : ConverterTable) (scope : Scope) (name : String) (v : Value) (t : Transfer) :
    ∃ t', bind table scope name v t = .ok ⟨⟩ t' ∧
      ∀ f t₁, Inbound.marshal table.inbound v { t with active := [], acquired := #[] } = .error f t₁ →
        t₁.guest.Holds scope.globals → ∃ obj,
          t'.guest.lookup scope.globals (.ofString name) = some obj ∧ t'.guest.body obj = .wrapper v := by
  cases hmarshal : Inbound.marshal table.inbound v { t with active := [], acquired := #[] } with
  | ok obj t₁ =>
    obtain ⟨key, g, _, hrun⟩ :=
      GuestM.setName_run scope.globals (.ofString name) obj t₁.guest.topContext t₁.guest
    have hconverted : Inbound.marshalOrPassthrough table.inbound v { t with active := [], acquired := #[] } =
        .ok obj t₁ := by
      rw [Inbound.marshalOrPassthrough, Inbound.orPassthrough, tryCatch_run, hmarshal]
    refine ⟨_, bind_of_converted name hconverted hrun, ?_⟩
    rintro _ _ ⟨⟩
  | error f t₁ =>
    obtain ⟨g₁, hnoted⟩ : ∃ g₁, t₁.guest.noted ⟨.warn, .marshal, "[Marshal] inbound conversion of " ++ v.kind.name ++
      " failed, passing it through unconverted: " ++ f.message⟩ = g₁ := ⟨_, rfl⟩
    obtain ⟨key, g, hadds, hrun⟩ := GuestM.setName_run scope.globals (.ofString name) g₁.next
      (g₁.adding { body := .wrapper v }).topContext (g₁.adding { body := .wrapper v })
    have hwrapped : Inbound.marshalOrPassthrough table.inbound v { t with active := [], acquired := #[] } =
        .ok g₁.next { t₁ with guest := g₁.adding { body := .wrapper v } } := by
      rw [Inbound.marshalOrPassthrough, Inbound.orPassthrough, tryCatch_run, hmarshal]
      dsimp only
      rw [bind_run, TransferM.record_run, hnoted]
      rfl
    refine ⟨_, bind_of_converted name hwrapped hrun, fun _ _ he hheld => ⟨g₁.next, ?_, ?_⟩⟩
    all_goals
      obtain ⟨rfl, rfl⟩ := EStateM.Result.error.inj he
      have hheld₁ : g₁.Holds scope.globals := by rw [← hnoted]; exact hheld
    · exact (Guest.bound_adding hheld₁ hadds).1
    · exact (Guest.bound_adding hheld₁ hadds).2

end Scope

/-! ### Whole calls -/

/-- The exception of a script is told by its text, with a traceback if it passed a frame. -/
theorem EvalError.ofScriptFault_cases (f : Fault) :
    (∃ message traceback, ofScriptFault f = .script message traceback ∧ traceback ≠ "") ∨
      ∃ message, ofScriptFault f = .interpreter message := by
  unfold ofScriptFault
  split
  · exact .inr ⟨f.message, rfl⟩
  · refine .inl ⟨f.message, f.traceback, rfl, fun hempty => ?_⟩
    obtain ⟨hheading, _⟩ := String.append_eq_empty_iff.mp hempty
    exact absurd hheading (by decide)

namespace WorldM
variable {w : World} {i : Nat} {runtime : Runtime} {code : Script} {names : List String} {values : List Value}

private theorem evaluate_of_unbegun {f : Fault} (hopen : w.held = false)
    (hran : w.scriptRun i code names values = .error f) : (evaluate i code names values w).1 = .ok .null := by
  obtain ⟨_, w', _, hevaluate, _⟩ := evaluate_of_prevented hopen hran
  rw [hevaluate]

private theorem evaluate_error_iff (hopen : w.held = false) (err : EvalError) :
    (evaluate i code names values w).1 = .error err ↔
      ∃ scope f t, w.scriptRun i code names values = .ok (scope, .error f t) ∧ err = .ofScriptFault f := by
  constructor
  · intro herr
    rcases hran : w.scriptRun i code names values with f | ⟨scope, ⟨⟨⟩, t⟩ | ⟨f, t⟩⟩
    · cases (evaluate_of_unbegun hopen hran).symm.trans herr
    · obtain ⟨found, t', hget, _⟩ :=
        Scope.get_answers (w.evaluator i).converters scope (w.evaluator i).config.outputBinding t
      obtain ⟨w', hevaluate, _⟩ := evaluate_of_finished hopen hran hget
      rw [hevaluate] at herr
      cases herr
    · obtain ⟨w', hevaluate, _⟩ := evaluate_of_raised hopen hran
      rw [hevaluate] at herr
      cases herr
      exact ⟨scope, f, t, rfl, rfl⟩
  · rintro ⟨scope, f, t, hran, rfl⟩
    obtain ⟨w', hevaluate, _⟩ := evaluate_of_raised hopen hran
    rw [hevaluate]

end WorldM

/-! ### An evaluation where every conversion raises -/

/-- What converters raise that refuse all objects or values. -/
def refusal : Fault := .typeError "refused"

namespace Outbound

/-- A converter that comes before the built-in ones and raises whatever it is given. -/
def refuser : OutboundConverter where
  name := "refuser"
  priority := 1
  guard _ _ := true
  conversion := .custom fun _ => .fail refusal

theorem marshal_of_refuser (id : Identity) (t : Transfer) (hactive : t.active = []) :
    ∃ t', marshal (refuser.insert standard) id t = .error refusal t' := by
  obtain ⟨g, n, counts, active, acquired⟩ := t
  subst hactive
  obtain ⟨depth, hmarshal⟩ : ∃ depth, marshal (refuser.insert standard) id ⟨g, n, counts, [], acquired⟩ =
    whileActive id (dispatch (marshalTo (refuser.insert standard) depth) (refuser.insert standard) id)
      ⟨g, n, counts, [], acquired⟩ := ⟨2 * g.heap.size + 1, rfl⟩
  obtain ⟨r, hdispatch⟩ : ∃ r, dispatch (marshalTo (refuser.insert standard) depth) (refuser.insert standard) id
      ⟨g, n, counts, [id], acquired⟩ = .error refusal ⟨g.noted r, n, counts, [id], acquired⟩ := ⟨_, rfl⟩
  refine ⟨⟨g.noted r, n, counts, [id].erase id, acquired⟩, ?_⟩
  simp only [hmarshal, whileActive, Stepping.bind_run, modify_run, attempt_run, hdispatch, throw_run]

end Outbound

namespace WorldM

/-- Converters of both directions that raise whatever they are given. -/
def refusing : ConverterTable where
  inbound := [⟨"refuser", 1, fun _ => true, .custom fun _ => .fail refusal⟩]
  outbound := Outbound.refuser.insert Outbound.standard

/-- A started evaluator with such converters, in the smallest interpreter. -/
def refused : World where
  guest := Guest.minimal
  evaluators := #[{ converters := refusing
                    runtime := some { namespaceDict := Guest.minimalNamespace, searchPath := [] } }]

private theorem inbound_refuses (v : Value) (t : Transfer) :
    ∃ r, Inbound.marshal refusing.inbound v t = .error refusal { t with guest := t.guest.noted r } := ⟨_, rfl⟩

private theorem handsOver_refusing (v : Value) : Inbound.HandsOver refusing.inbound v := fun _ t hg => by
  obtain ⟨r, hrun⟩ := inbound_refuses v t
  exact Inbound.represents_of_error hrun (.noted t r) hg

theorem offers_refused : refused.Offers 0 { namespaceDict := Guest.minimalNamespace, searchPath := [] }
    (.bool true) [] where
  started := rfl
  label := by decide
  stage := {
    intact := Guest.isIntact_minimal
    output := fun _ => by decide +kernel
    value := handsOver_refusing _
    hooks := fun _ h => nomatch h
    session := fun h => absurd rfl h
    names := fun _ h => nomatch h }

end WorldM
end ScriptHost
