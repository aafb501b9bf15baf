import ScriptHost.Proofs.Convert.Holdings
import ScriptHost.Proofs.Convert.OrdinaryGraph

/-! Conservation of handles: a conversion by the built-in converters counts each handle that its value
carries, so that giving the value back leaves nothing behind. -/
namespace ScriptHost.Outbound
variable {n : Identity} {G : ObjectGraph n} {t : Transfer} {id : Identity}

theorem standard_tallied {R : List Identity → Value → Prop} (hR : Tally R)
    (hwrapped : ∀ {g id v}, G.state g → G.object g id → g.wrapped? id = some v → R [] v) :
    IsTallied G R standard where
  tally := hR
  custom c hc plan hplan := by
    simp only [standard, List.mem_cons, List.not_mem_nil, or_false] at hc
    rcases hc with rfl | rfl | rfl | rfl | rfl <;> cases hplan
  wrapped := hwrapped

/-- The conversion of an object always ends with a value, and with as many handles more of each object
as the value carries; giving the value back restores counts and namespace. -/
theorem marshalOrHandle_balanced (hwrapped : ∀ {g id v}, G.state g → G.object g id →
      g.wrapped? id = some v → v.handles = []) (ht : t.Sound G.toCustody) (hid : G.object t.guest id) :
    ∃ v t₁, marshalOrHandle standard id t = .ok v t₁ ∧
      (∀ other, t₁.counts.count other = t.counts.count other + v.handles.count other) ∧
      ∃ destroyed t₂, TransferM.releaseValue v t₁ = .ok destroyed t₂ ∧ t₂.counts = t.counts ∧
        ∀ name, G.kept name → t₂.guest.lookup n name = t.guest.lookup n name := by
  have htallied : IsTallied G (fun held v => held = v.handles) standard :=
    standard_tallied tally_handles fun hstate hid hv => (hwrapped hstate hid hv).symm
  have hself := marshal_settles htallied G.admits_standard
  obtain ⟨v, t₁, hrun, held, hgains, rfl⟩ := orHandle_settles tally_handles hself hid ht
  exact ⟨v, t₁, hrun, hgains.count, hgains.releaseAll_restores ht⟩

/-- A list that holds itself, from a crossing without handles. -/
theorem marshalOrHandle_balanced_of_cycle : ∃ v t₁ destroyed t₂,
    marshalOrHandle standard ⟨1⟩ { guest := Guest.specimen, namespaceDict := ⟨0⟩ } = .ok v t₁ ∧
      (∀ other, t₁.counts.count other = v.handles.count other) ∧
      TransferM.releaseValue v t₁ = .ok destroyed t₂ ∧ t₂.counts = ∅ := by
  have hgraph := Guest.specimen_isOrdinaryGraph
  have hsound : Transfer.Sound
      (Guest.ordinaryGraph Guest.specimen_wellKept hgraph fun _ => True).toCustody
      { guest := Guest.specimen, namespaceDict := ⟨0⟩ } :=
    ⟨rfl, .refl _ _, Counts.positive_empty, fun _ _ => rfl⟩
  have hlist : Guest.IsGraphObject ⟨0⟩ Guest.IsSpecimenObject Guest.specimen ⟨1⟩ := .inl (by decide)
  obtain ⟨v, t₁, hrun, hcount, destroyed, t₂, hrelease, hcounts, _⟩ :=
    marshalOrHandle_balanced (fun hstate hid hv => by
      obtain ⟨hobject, hwrapped⟩ := hid.wrapped? hgraph hstate hv
      simp only [Guest.IsSpecimenObject, List.mem_cons, List.not_mem_nil, or_false] at hobject
      rcases hobject with rfl | rfl | rfl | rfl <;> cases hwrapped) hsound hlist
  exact ⟨v, t₁, destroyed, t₂, hrun, fun other => (hcount other).trans (Nat.zero_add _), hrelease, hcounts⟩

end ScriptHost.Outbound
