import ScriptHost.Proofs.Convert.Conservation
import ScriptHost.Proofs.Evaluator.Echo

/-! Passage of handles inside wrapped values: an evaluation gives a wrapped value back as it is and counts none of the
handles in it, so that giving the answer back takes handles away that were held before. -/
namespace ScriptHost
open Stepping

namespace Outbound
variable {n : Identity} {G : ObjectGraph n} {t : Transfer} {id : Identity} {stored : Value → Prop}

/-- The handles of an answer are those that were acquired and those that stored values carry. -/
def PassesOn (stored : Value → Prop) (held carried : List Identity) : Prop :=
  ∃ passed : List Value, (∀ v ∈ passed, stored v) ∧ carried.Perm (held ++ passed.flatMap Value.handles)

theorem tally_passesOn (stored : Value → Prop) : Tally fun held v => PassesOn stored held v.handles := by
  refine .of_handles ⟨[], nofun, .refl _⟩ (fun id => ⟨[], nofun, .refl _⟩) ?_
  rintro held carried held' carried' ⟨passed, hpassed, hperm⟩ ⟨passed', hpassed', hperm'⟩
  refine ⟨passed ++ passed', List.forall_mem_append.mpr ⟨hpassed, hpassed'⟩, ?_⟩
  refine List.perm_iff_count.mpr fun id => ?_
  rw [List.count_append, hperm.count_eq, hperm'.count_eq, List.flatMap_append]
  simp only [List.count_append]
  omega

theorem passesOn_stored {v : Value} (h : stored v) : PassesOn stored [] v.handles :=
  ⟨[v], by simpa using h, by simp⟩

/-- A wrapped value is given as it is, and no handle is acquired. -/
theorem marshalOrHandle_of_wrapper {W : Identity → Prop} {v : Value} (h : t.guest.IsUntouched W id)
    (hbody : t.guest.body id = .wrapper v) (hactive : t.active = []) :
    ∃ t', marshalOrHandle standard id t = .ok v t' ∧ t'.counts = t.counts := by
  have htells : (t.guest.body id).Tells v := hbody ▸ .wrapper v
  obtain ⟨_, t', hrun, hproceeds, rfl⟩ := marshalOrHandle_of_tells h htells hactive
  exact ⟨t', hrun, by rw [hproceeds.rest]⟩

/-- The conversion of an object always ends with a value, and with as many handles more of each object as the value
carries outside of the stored values that are passed on. -/
theorem marshalOrHandle_passes_on
    (hstored : ∀ {g id v}, G.state g → G.object g id → g.wrapped? id = some v → stored v)
    (ht : t.Sound G.toCustody) (hid : G.object t.guest id) (hactive : t.active = []) :
    ∃ v t' held passed, marshalOrHandle standard id t = .ok v t' ∧ t.Gains G.toCustody held t' ∧
      (∀ x ∈ passed, stored x) ∧ v.handles.Perm (held ++ passed.flatMap Value.handles) ∧
      ∀ x, t.guest.IsUntouched (fun _ => False) id → t.guest.body id = .wrapper x → v = x ∧ passed = [x] := by
  have htally := tally_passesOn stored
  have htallied : IsTallied G (fun held v => PassesOn stored held v.handles) standard :=
    standard_tallied htally fun hstate hid hv => passesOn_stored (hstored hstate hid hv)
  obtain ⟨v, t', hrun, held, hgains, passed, hpassed, hperm⟩ :=
    orHandle_settles htally (marshal_settles htallied G.admits_standard) hid ht
  by_cases hwrapper : ∃ x, t.guest.IsUntouched (fun _ => False) id ∧ t.guest.body id = .wrapper x
  · obtain ⟨x, huntouched, hbody⟩ := hwrapper
    obtain ⟨t'', hrun', hcounts⟩ := marshalOrHandle_of_wrapper huntouched hbody hactive
    obtain ⟨rfl, rfl⟩ := EStateM.Result.ok.inj (hrun.symm.trans hrun')
    have hnone : held = [] := List.eq_nil_iff_forall_not_mem.mpr fun other hother => by
      have hcount := hgains.count other
      rw [hcounts] at hcount
      have hpositive := List.count_pos_iff.mpr hother
      omega
    have hwrapped : t.guest.wrapped? id = some v := by rw [Guest.wrapped?, hbody]
    refine ⟨v, t', held, [v], hrun, hgains, by simpa using hstored ht.state hid hwrapped, by simp [hnone], ?_⟩
    intro x _ hx
    rw [hbody, Body.wrapper.injEq] at hx
    exact ⟨hx, by rw [hx]⟩
  · exact ⟨v, t', held, passed, hrun, hgains, hpassed, hperm, fun x h hx => absurd ⟨x, h, hx⟩ hwrapper⟩

end Outbound

namespace WorldM
variable {w : World} {i : Nat} {runtime : Runtime} {code : Script} {names : List String} {values : List Value}

/-- A value is given back outside of any other call: each of its handles is counted once less. -/
theorem releaseValue_run (hopen : w.held = false) (hstarted : (w.evaluator i).runtime = some runtime)
    (hcounts : runtime.counts.Positive) (v : Value) : ∃ destroyed w', releaseValue i v w = (.ok destroyed, w') ∧
      ∀ id, (w'.evaluator i).refCount id = (w.evaluator i).refCount id - v.handles.count id := by
  have hcrossing := crossing_counts hstarted
  have hsound : Transfer.Sound (ObjectGraph.everything runtime.namespaceDict).toCustody (w.crossing i runtime) :=
    ⟨rfl, trivial, hcrossing ▸ hcounts, fun _ hk => hk.elim⟩
  obtain ⟨destroyed, t, hrun, _, hcount, _⟩ := TransferM.releaseAll_keeps v.handles hsound
  refine ⟨destroyed, { w.crossed i t with held := false }, whenStarted_run hopen hstarted hrun, fun id => ?_⟩
  have hevaluator := evaluator_keepCounts hstarted t.counts
  rw [refCount_of_started hstarted, ← hcrossing, ← hcount]
  exact refCount_of_started (congrArg Evaluator.runtime hevaluator) id

/-- A value with a list or a map as a key comes back as it was from the script that binds `OUT` to it. None of its
handles is counted, so that giving it back takes away as many that were held before. -/
theorem evaluate_of_collectionKey {v : Value} (hw : w.IsReady i runtime)
    (hreads : ∀ hook ∈ (w.evaluator i).hooks, hook.read = []) (hcounts : runtime.counts.Positive)
    (hfree : v.HasFreeKeys) (hv : v.HasCollectionKey) :
    ∃ w', evaluate i (.source "OUT = x") ["x"] [v] w = (.ok v, w') ∧ w.ClosedAfter i runtime runtime.counts w' ∧
      ∃ destroyed w'', releaseValue i v w' = (.ok destroyed, w'') ∧
        ∀ id, (w''.evaluator i).refCount id = (w.evaluator i).refCount id - v.handles.count id := by
  have hoffers := hw.offers hfree (.inr hv)
  obtain ⟨scope, t, obj, hleft, hstages, hbound⟩ := left_of_offers hoffers List.not_mem_nil
  obtain ⟨⟨hkept, _⟩, hanswers⟩ := evaluate_of_left hw.unlocked hw.started hleft
  have hrepresents := hstages.represents
  obtain ⟨t', hrun, hsame⟩ := Outbound.marshalOrHandle_of_wrapper (t := { t with active := [], acquired := #[] })
    hrepresents.stands.untouched (hrepresents.wrapper hv) rfl
  obtain ⟨w', hevaluate, hclosed⟩ :=
    hanswers (some v) t' (Scope.get_of_bound (hw.output ▸ hbound) (hw.outbound ▸ hrun))
  have hclosed := hclosed fun hook hhook name hname => by
    rw [hreads hook hhook] at hname
    cases hname
  rw [hsame.trans hkept] at hclosed
  have hstarted' : (w'.evaluator i).runtime = some runtime := by rw [hclosed.evaluator]
  obtain ⟨destroyed, w'', hrelease, hreleased⟩ := releaseValue_run hclosed.held hstarted' hcounts v
  refine ⟨w', hevaluate, hclosed, destroyed, w'', hrelease, fun id => ?_⟩
  rw [hreleased, refCount_of_started hstarted', refCount_of_started hw.started]

/-- A session in which one object has a handle. -/
private def held : Runtime where
  namespaceDict := Guest.minimalNamespace
  counts := Counts.acquire ∅ ⟨6⟩
  searchPath := []

private def holding : World where
  guest := Guest.minimal.parked Guest.minimalNamespace ⟨6⟩
  evaluators := #[{ converters := ConverterTable.standard.1, runtime := some held }]

/-- A map with that handle under a key that cannot be one of a dictionary. -/
private def holder : Value := .map (ValueMap.ofList [(.list [], .handle ⟨6⟩)])

private theorem toList_holder :
    (ValueMap.ofList [(.list [], .handle ⟨6⟩)]).toList = [(Value.list [], Value.handle ⟨6⟩)] :=
  (ValueMap.ofList_eq _).2

private theorem hasFreeKeys_holder : holder.HasFreeKeys := .of_map fun entry hentry => by
  rw [toList_holder, List.mem_singleton] at hentry
  subst hentry
  exact ⟨rfl, .of_handle _⟩

private theorem hasCollectionKey_holder : holder.HasCollectionKey := by
  have hmem : (Value.list [], Value.handle ⟨6⟩) ∈ (ValueMap.ofList [(.list [], .handle ⟨6⟩)]).toList := by
    rw [toList_holder]
    exact .head _
  exact .key hmem rfl

private theorem proceeds_holding : Guest.minimal.Proceeds (· = Guest.minimalNamespace) holding.guest := by
  obtain ⟨key, g, hadds, hparked⟩ := Guest.minimal.parked_eq Guest.minimalNamespace ⟨6⟩
  rw [holding, hparked]
  exact hadds.proceeds.trans (Guest.proceeds_withBody (hadds.holds (by decide)) _)

private theorem isReady_holding : holding.IsReady 0 held := by
  have hintact : holding.guest.IsIntact := Guest.isIntact_minimal.proceeds proceeds_holding fun id hid => hid ▸ rfl
  have hstdout : (holding.guest.lookup holding.guest.system (.ofString "stdout")).isSome := by
    rw [proceeds_holding.system, proceeds_holding.lookup_eq (by decide) (by decide)]
    decide +kernel
  exact ⟨rfl, rfl, rfl, rfl, by decide, (fun _ h => nomatch h), hintact, fun _ => hstdout⟩

end WorldM
end ScriptHost
