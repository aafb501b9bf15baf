import ScriptHost.Proofs.Convert.Carrying
import ScriptHost.Proofs.Evaluator.Passage

/-! Handles in a call: the script that binds one name to what another one holds gives registered handles back, each
counted once more, and what stands in for the handles that are not registered any more. -/
namespace ScriptHost
open Stepping Guest

/-- A started evaluator whose session has a namespace of its own, which has the objects of the registered handles in a
value under their names. -/
structure World.Backs (w : World) (runtime : Runtime) (v : Value) : Prop where
  holds : w.guest.Holds runtime.namespaceDict
  dict : w.guest.isDict runtime.namespaceDict = true
  apart : runtime.namespaceDict ≠ w.guest.system
  handles : w.guest.Backs runtime.namespaceDict (fun id => id = w.guest.system ∨ id = runtime.namespaceDict) v

namespace World
variable {w : World} {i : Nat} {runtime : Runtime} {v : Value}

/-- The scope of a call can be seeded with a value of scalars and handles. -/
theorem IsReady.canSeed (h : w.IsReady i runtime) (hv : v.IsListing) :
    w.guest.CanSeed runtime (w.evaluator i) "x" v [] := by
  refine ⟨h.intact, h.stdout, ?_, fun hook hhook pair hpair => ?_, by simp, by simp⟩
  · rw [h.inbound]
    exact Inbound.takesUp_of_hasFreeKeys hv.hasFreeKeys
  · rw [h.inbound]
    obtain ⟨hkeys, hname⟩ := h.hooks hook hhook pair hpair
    exact ⟨Inbound.takesUp_of_hasFreeKeys hkeys, hname, List.not_mem_nil⟩

/-- What the value was taken up as carries what comes back of it. -/
theorem Backs.carries (h : w.Backs runtime v) (hv : v.IsListing) {globals obj : Identity} {g : Guest}
    (hnew : ¬ w.guest.Holds globals) (htook : Inbound.TookUp Inbound.standard v runtime.namespaceDict w.guest
      (w.guest.staged globals) obj g) :
    g.Carries (fun id => w.guest.staged globals id ∨ id = runtime.namespaceDict) obj
      (v.answered (w.guest.registers runtime.namespaceDict)) := by
  obtain ⟨hrun, hnamespace, hbefore, htidy, hsince⟩ := htook
  rename_i t t'
  have htidy' : t.guest.IsTidy (fun id => w.guest.staged globals id ∨ id = runtime.namespaceDict) := by
    refine ⟨fun id hid => ?_, htidy.bare⟩
    rcases hid with hid | rfl
    · exact htidy.dicts id hid
    · exact ⟨hbefore.holds h.holds, hbefore.dict _ h.holds h.dict⟩
  have hbacks : t.guest.Backs runtime.namespaceDict (fun id => w.guest.staged globals id ∨ id = runtime.namespaceDict)
      v := h.handles.proceeds hbefore h.holds h.apart (fun _ hid => .inl hid) fun id hid hholds => by
      rcases hid with (rfl | hsystem) | hid
      · exact absurd hholds hnew
      · exact .inl hsystem
      · exact .inr hid
  obtain ⟨_, _, hrun', -, hcarries⟩ :=
    Inbound.marshalOrPassthrough_carries hv htidy' ⟨hnamespace, hbefore.holds h.holds⟩ hbacks
  cases hrun.symm.trans hrun'
  rw [registers_eq hbefore h.holds h.apart] at hcarries
  exact hcarries.proceeds (hsince.mono fun id hid => .inl hid)

end World

namespace WorldM
variable {w : World} {i : Nat} {runtime : Runtime} {v : Value}

/-- What the script that binds `OUT` to what `x` holds leaves is read as the value that was bound, and each handle that is
given back is counted. -/
theorem get_of_backs (hw : w.IsReady i runtime) (hbacks : w.Backs runtime v) (hv : v.IsListing) :
    ∃ scope t t', w.left? i (.source "OUT = x") ["x"] [v] = some (scope, t) ∧
      Scope.get (w.evaluator i).converters scope (w.evaluator i).config.outputBinding t =
        .ok (some (v.answered (w.guest.registers runtime.namespaceDict))) t' ∧
      ∀ id, t'.counts.count id = runtime.counts.count id +
        (v.answered (w.guest.registers runtime.namespaceDict)).handles.count id := by
  obtain ⟨scope, t, obj, hleft, hseeded, htook, hbound, hnew, hproceeds⟩ :=
    leaves_of_canSeed hw.started hw.label (hw.canSeed hv) List.not_mem_nil
  obtain ⟨⟨hcounts, hnamespace⟩, -⟩ := evaluate_of_left hw.unlocked hw.started hleft
  have hcarries := hbacks.carries hv hnew (hw.inbound ▸ htook)
  have hwritten : t.namespaceDict = runtime.namespaceDict := hnamespace
  obtain ⟨t', hrun, hacquires⟩ := Outbound.marshalOrHandle_handsOut (t := { t with active := [], acquired := #[] })
    hcarries (.inr hwritten) (hwritten ▸ hproceeds.holds hbacks.holds) rfl
  refine ⟨scope, t, t', hleft, Scope.get_of_bound (hw.output ▸ hbound) (hw.outbound ▸ hrun), fun id => ?_⟩
  rw [hacquires.count, hcounts]

/-- A value of scalars and handles that is bound to `x` comes back from the script that binds `OUT` to it, with the text
of its identity in place of each handle that is not registered. A registered handle is counted as many times more as it
occurs, and no other one, if hooks read nothing. -/
theorem evaluate_carries (hw : w.IsReady i runtime) (hbacks : w.Backs runtime v) (hv : v.IsListing) :
    ∃ w', evaluate i (.source "OUT = x") ["x"] [v] w =
        (.ok (v.answered (w.guest.registers runtime.namespaceDict)), w') ∧
      ((∀ hook ∈ (w.evaluator i).hooks, hook.read = []) →
        (∀ id, (w'.evaluator i).refCount id = (w.evaluator i).refCount id +
          if w.guest.registers runtime.namespaceDict id then v.handles.count id else 0) ∧
        ∀ j, j ≠ i → w'.evaluator j = w.evaluator j) := by
  obtain ⟨scope, t, t', hleft, hget, hcount⟩ := get_of_backs hw hbacks hv
  obtain ⟨w', hevaluate, hclosed⟩ := (evaluate_of_left hw.unlocked hw.started hleft).2 _ t' hget
  refine ⟨w', hevaluate, fun hreads => ?_⟩
  have hclosed := hclosed fun hook hhook name hname => by
    rw [hreads hook hhook] at hname
    cases hname
  refine ⟨fun id => ?_, hclosed.others⟩
  have hstarted' : (w'.evaluator i).runtime = some { runtime with counts := t'.counts } := by rw [hclosed.evaluator]
  rw [refCount_of_started hstarted', refCount_of_started hw.started, hcount, hv.count_handles_answered]

/-- An object without a conversion, which has a handle, in the smallest interpreter. -/
def carrying (config : Config) : World where
  guest := (minimal.adding { body := .plain "object" }).parked minimalNamespace ⟨7⟩
  evaluators := #[{ config, converters := ConverterTable.standard.1
                    runtime := some { namespaceDict := minimalNamespace, counts := Counts.acquire ∅ ⟨7⟩
                                      searchPath := [] } }]

def carried : Value := .list [.handle ⟨7⟩, .handle ⟨99⟩, .list [.handle ⟨7⟩, .bool true]]

private theorem proceeds_carrying (config : Config) :
    (minimal.adding { body := .plain "object" }).Proceeds (· = minimalNamespace) (carrying config).guest := by
  obtain ⟨key, g, hadds, hparked⟩ := (minimal.adding { body := .plain "object" }).parked_eq minimalNamespace ⟨7⟩
  rw [carrying, hparked]
  exact hadds.proceeds.trans (proceeds_withBody (hadds.holds (by decide)) _)

private theorem lookup_carrying (config : Config) (name : Text) : (carrying config).guest.lookup minimalNamespace name =
    if Identity.entryName ⟨7⟩ = name then some ⟨7⟩ else none :=
  lookup_parked (by decide) ⟨7⟩ name

theorem registers_carrying (config : Config) : (carrying config).guest.registers minimalNamespace ⟨7⟩ = true := by
  rw [registers, lookup_carrying, if_pos rfl]
  rfl

theorem isIntact_carrying (config : Config) : (carrying config).guest.IsIntact :=
  (isIntact_minimal.proceeds (W := fun _ => False) (Adds.push minimal _).proceeds nofun).proceeds
    (proceeds_carrying config) fun _ hid => hid ▸ rfl

theorem stdout_carrying (config : Config) :
    ((carrying config).guest.lookup (carrying config).guest.system (.ofString "stdout")).isSome := by
  rw [(proceeds_carrying config).system, (proceeds_carrying config).lookup_eq (by decide) (by decide)]
  decide +kernel

theorem backs_carrying (config : Config) :
    (carrying config).Backs { namespaceDict := minimalNamespace, counts := Counts.acquire ∅ ⟨7⟩, searchPath := [] }
      carried where
  holds := (proceeds_carrying config).holds (by decide)
  dict := (proceeds_carrying config).dict _ (by decide) rfl
  apart := by
    rw [(proceeds_carrying config).system]
    decide
  handles id _ obj hobj := by
    rw [lookup_carrying] at hobj
    split at hobj
    · next hname =>
      obtain rfl := Identity.entryName_injective hname
      cases hobj
      have htidy : minimal.IsTidy fun id => id = ⟨0⟩ ∨ id = minimalNamespace :=
        ⟨fun id hid => by rcases hid with rfl | rfl <;> exact ⟨by decide, rfl⟩, isIntact_minimal.bare⟩
      have huntouched : (carrying config).guest.IsUntouched (fun id => id = ⟨0⟩ ∨ id = minimalNamespace) ⟨7⟩ :=
        (isUntouched_adding htidy (.plain "object")).proceeds ((proceeds_carrying config).mono fun _ hid => .inr hid)
      have hbody : (carrying config).guest.body ⟨7⟩ = .plain "object" :=
        (proceeds_carrying config).body_eq (by decide) (by decide)
      refine ⟨rfl, ?_⟩
      rw [(proceeds_carrying config).system]
      exact huntouched.isOpaque (by rw [hbody]; rfl) (by rw [hbody]; rfl) (by rw [scalar?, hbody])
        (by rw [wrapped?, hbody])
    · cases hobj

theorem isListing_carried : carried.IsListing := by
  refine .list fun item hitem => ?_
  simp only [List.mem_cons, List.not_mem_nil, or_false] at hitem
  rcases hitem with rfl | rfl | rfl
  · exact .handle _
  · exact .handle _
  · refine .list fun item hitem => ?_
    simp only [List.mem_cons, List.not_mem_nil, or_false] at hitem
    rcases hitem with rfl | rfl
    · exact .handle _
    · exact .bool _

theorem evaluate_carries_nested : ∃ w', evaluate 0 (.source "OUT = x") ["x"] [carried] (carrying {}) =
      (.ok (.list [.handle ⟨7⟩, .string (toString (⟨99⟩ : Identity)), .list [.handle ⟨7⟩, .bool true]]), w') ∧
    ((carrying {}).evaluator 0).refCount ⟨7⟩ = 1 ∧ (w'.evaluator 0).refCount ⟨7⟩ = 3 := by
  have hready : (carrying {}).IsReady 0
      { namespaceDict := minimalNamespace, counts := Counts.acquire ∅ ⟨7⟩, searchPath := [] } :=
    ⟨rfl, rfl, rfl, rfl, by decide, (fun _ h => nomatch h), isIntact_carrying {}, fun _ => stdout_carrying {}⟩
  obtain ⟨w', hevaluate, hcounts⟩ := evaluate_carries hready (backs_carrying {}) isListing_carried
  have hlive := registers_carrying {}
  have hstale : (carrying {}).guest.registers minimalNamespace ⟨99⟩ = false := by
    rw [registers, lookup_carrying, if_neg fun hname => by cases Identity.entryName_injective hname]
    rfl
  have hcount : ((carrying {}).evaluator 0).refCount ⟨7⟩ = 1 := by
    rw [refCount_of_started hready.started, Counts.count_acquire]
    rfl
  refine ⟨w', ?_, hcount, ?_⟩
  · rw [hevaluate]
    simp [carried, Value.answered, Value.itemsAnswered, hlive, hstale]
  · rw [(hcounts fun _ h => nomatch h).1, hcount, hlive]
    rfl

/-- An evaluator whose output binding has another name gives no handles back. -/
theorem evaluate_drops_handles : ¬ ∀ (w : World) (i : Nat) (runtime : Runtime) (v : Value), w.held = false →
    (w.evaluator i).runtime = some runtime → (w.evaluator i).converters = ConverterTable.standard.1 →
    w.Backs runtime v → v.IsListing → ∃ w', evaluate i (.source "OUT = x") ["x"] [v] w =
      (.ok (v.answered (w.guest.registers runtime.namespaceDict)), w') := by
  intro hcarries
  obtain ⟨w', hevaluate⟩ := hcarries (carrying { outputBinding := "RESULT" }) 0 _ carried rfl rfl rfl
    (backs_carrying _) isListing_carried
  have hcan : (carrying { outputBinding := "RESULT" }).guest.CanSeed
      { namespaceDict := minimalNamespace, counts := Counts.acquire ∅ ⟨7⟩, searchPath := [] }
      ((carrying { outputBinding := "RESULT" }).evaluator 0) "x" carried ["RESULT"] := by
    refine ⟨isIntact_carrying _, fun _ => stdout_carrying _,
      Inbound.takesUp_of_hasFreeKeys isListing_carried.hasFreeKeys, (fun _ h => nomatch h), fun _ => ?_, ?_⟩
    · exact ⟨(backs_carrying _).holds, (backs_carrying _).apart⟩
    · intro other hother
      obtain rfl := List.mem_singleton.mp hother
      refine ⟨by decide, ?_⟩
      rw [lookup_carrying, if_neg fun hname => ?_]
      have hmarked := Identity.startsWith_entryName ⟨7⟩
      rw [hname] at hmarked
      exact absurd hmarked (by decide)
  obtain ⟨scope, t, obj, hleft, hseeded, -⟩ :=
    leaves_of_canSeed (w := carrying { outputBinding := "RESULT" }) rfl (by decide) hcan (by decide)
  obtain ⟨w'', hnull, -⟩ := (evaluate_of_left (w := carrying { outputBinding := "RESULT" }) rfl rfl hleft).2 none t
    (Scope.get_of_unbound (hseeded.unbound "RESULT" List.mem_cons_self))
  rw [hevaluate] at hnull
  cases hnull

end WorldM
end ScriptHost
