import ScriptHost.Proofs.Convert.Holdings
import ScriptHost.Proofs.Convert.OrdinaryGraph

/-! What is left of a conversion that raised, at whatever depth and however many of its own attempts had raised
before: one handle of its object if it was attempted, and all the handles that it acquired if it was not. -/
namespace ScriptHost.Outbound
open Stepping
variable {t t₁ : Transfer} {id : Identity}

/-- A registry state by itself, with no word on the namespace. -/
theorem sound_everything (ht : t.counts.Positive) :
    t.Sound (ObjectGraph.everything t.namespaceDict).toCustody :=
  ⟨rfl, trivial, ht, fun _ h => h.elim⟩

/-- A conversion of objects by a table of converters, at the top or where it has gone to some depth. -/
def Converts (converters : List OutboundConverter) (self : Identity → TransferM Value) : Prop :=
  self = marshal converters ∨ ∃ depth, self = marshalTo converters depth

/-- A conversion settles in every graph that its table keeps to. -/
theorem settles_of_converts {converters : List OutboundConverter} {n : Identity}
    {G : ObjectGraph n} (hadmits : G.Admits converters) {self : Identity → TransferM Value}
    (hself : Converts converters self) : SettlesAll G Untallied self := by
  rcases hself with rfl | ⟨depth, rfl⟩
  · exact marshal_settles (isTallied_untallied hadmits) hadmits
  · exact marshalTo_settles (isTallied_untallied hadmits) hadmits depth

/-- When the conversion of an object raises, whatever converters it went through, the attempt answers
with a handle of the object. Counts, log and the objects in progress are as they were but for that one
handle, and so are the kept names of the namespace in every graph that the conversion stays in. -/
theorem orHandle_rolls_back {converters : List OutboundConverter} (hextends : Extends converters)
    {self : Identity → TransferM Value} (hself : Converts converters self) (ht : t.counts.Positive)
    {f : Fault} (hraised : self id t = .error f t₁) :
    ∃ t₂, orHandle self id t = .ok (.handle id) t₂ ∧
      t₂.counts = t.counts.acquire id ∧ t₂.acquired = t.acquired.push id ∧ t₂.active = t.active ∧
      ∀ {n : Identity} (G : ObjectGraph n), G.Admits converters → G.object t.guest id →
        t.Sound G.toCustody → ∀ name, G.kept name → t₂.guest.lookup n name =
          if name = id.entryName then some id else t.guest.lookup n name := by
  have hfree := settles_of_converts
    (ObjectGraph.everything_admits hextends : (ObjectGraph.everything t.namespaceDict).Admits _) hself
  obtain ⟨t₂, hrun, hgains⟩ := orHandle_of_error hfree trivial (sound_everything ht) hraised
  refine ⟨t₂, hrun, ?_, ?_, hgains.keeps.active, ?_⟩
  · refine Counts.ext_of_count hgains.sound.positive (Counts.positive_acquire ht id) fun other => ?_
    rw [hgains.count, Counts.count_acquire]
  · apply Array.toList_inj.mp
    rw [hgains.acquired, Array.toList_push]
  · intro n G hadmits hid hsound name hk
    obtain ⟨t₃, hrun', hgains⟩ :=
      orHandle_of_error (settles_of_converts hadmits hself) hid hsound hraised
    rw [hrun] at hrun'
    cases hrun'
    by_cases hx : ∃ other : Identity, other.entryName = name
    · obtain ⟨other, rfl⟩ := hx
      rw [hgains.lookup_entryName hsound other hk]
      by_cases ho : other = id
      · simp [ho]
      · rw [if_neg (by simpa using ho), if_neg fun he => ho (Identity.entryName_injective he)]
    · have hne : name ≠ id.entryName := fun hne => hx ⟨id, hne.symm⟩
      rw [hgains.keeps.others name hk (not_exists.mp hx), if_neg hne]

/-- A converter of the tuple that takes a handle of its item and then raises. -/
private def leaky : OutboundConverter where
  name := "leaky"
  priority := 1
  guard _ id := id == ⟨2⟩
  conversion := .custom fun _ => .handleFor ⟨3⟩ fun _ => .fail (.typeError "leaky")

private def start : Transfer := { guest := Guest.specimen, namespaceDict := ⟨0⟩ }

private theorem leaky_raises :
    ∃ t₁, marshal (leaky.insert standard) ⟨2⟩ start = .error (.typeError "leaky") t₁ ∧ t₁.acquired = #[⟨3⟩] := by
  have hdispatch : ∀ self t, ∃ t₁, dispatch self (leaky.insert standard) ⟨2⟩ t = .error (.typeError "leaky") t₁ ∧
      t₁.acquired = t.acquired.push ⟨3⟩ := by
    intro self t
    obtain ⟨note, hplan⟩ : ∃ note, dispatch self (leaky.insert standard) ⟨2⟩ t =
        (do
          TransferM.record .trace .marshal note
          let _ ← handleFor ⟨3⟩
          throw (.typeError "leaky") : TransferM Value) t := ⟨_, rfl⟩
    obtain ⟨r, hacquire⟩ := TransferM.acquire_run ⟨3⟩
      { t with guest := t.guest.noted ⟨.trace, .marshal, note⟩ }
    exact ⟨_, by simp [hplan, TransferM.record_run, handleFor, hacquire]; rfl, rfl⟩
  have hstart : marshal (leaky.insert standard) ⟨2⟩ start = whileActive ⟨2⟩
      (dispatch (marshalTo (leaky.insert standard) 19) (leaky.insert standard) ⟨2⟩) start := rfl
  obtain ⟨t₁, hrun, hacquired⟩ :=
    hdispatch (marshalTo (leaky.insert standard) 19) { start with active := ⟨2⟩ :: start.active }
  refine ⟨{ t₁ with active := t₁.active.erase ⟨2⟩ }, ?_, hacquired⟩
  simp only [hstart, whileActive, bind_run, modify_run, attempt_run, hrun, throw_run]

private theorem leaky_admitted {n : Identity} (G : ObjectGraph n) : G.Admits (leaky.insert standard) :=
  G.admits_standard.insert rfl fun _ _ _ _ _ _ _ => .handleFor fun _ _ _ => .fail _ _

/-- The converter's handle is given back, and one of the tuple stays. -/
theorem orHandle_rolls_back_of_leak : ∃ f t₁ t₂, marshal (leaky.insert standard) ⟨2⟩ start = .error f t₁ ∧
    orHandle (marshal (leaky.insert standard)) ⟨2⟩ start = .ok (.handle ⟨2⟩) t₂ ∧
    t₂.counts = start.counts.acquire ⟨2⟩ ∧ t₂.acquired = #[⟨2⟩] ∧ t₂.active = [] ∧
    t₂.guest.lookup ⟨0⟩ (⟨2⟩ : Identity).entryName = some ⟨2⟩ ∧
    t₂.guest.lookup ⟨0⟩ (⟨3⟩ : Identity).entryName = none := by
  have hgraph := Guest.specimen_isOrdinaryGraph
  have hadmits := leaky_admitted (Guest.ordinaryGraph Guest.specimen_wellKept hgraph fun _ => True)
  obtain ⟨t₁, hraised, _⟩ := leaky_raises
  obtain ⟨t₂, hrun, hcounts, hacquired, hactive, hlookup⟩ :=
    orHandle_rolls_back hadmits.extends_standard (.inl rfl) Counts.positive_empty hraised
  have hentry := hlookup _ hadmits (.inl (by decide)) ⟨rfl, .refl _ _, Counts.positive_empty, fun _ _ => rfl⟩
  refine ⟨_, t₁, t₂, hraised, hrun, hcounts, hacquired, hactive, hentry _ trivial, ?_⟩
  rw [hentry _ trivial, if_neg (by decide)]
  rfl

/-- A conversion that raised leaves the handles that it acquired behind, unless somebody attempts it: all of them are
counted and their objects parked, and the log of the crossing alone tells them. Giving them back restores what was. -/
theorem error_leaves_acquired {converters : List OutboundConverter} (hextends : Extends converters)
    {self : Identity → TransferM Value} (hself : Converts converters self) (ht : t.counts.Positive)
    {f : Fault} (hraised : self id t = .error f t₁) :
    ∃ held, t₁.acquired.toList = t.acquired.toList ++ held ∧ t₁.active = t.active ∧
      (∀ other, t₁.counts.count other = t.counts.count other + held.count other) ∧
      (t₁.counts = t.counts ↔ held = []) ∧
      ∃ destroyed t₂, TransferM.releaseAll held t₁ = .ok destroyed t₂ ∧ t₂.counts = t.counts ∧
        ∀ {n : Identity} (G : ObjectGraph n), G.Admits converters → G.object t.guest id → t.Sound G.toCustody →
          (∀ other : Identity, G.kept other.entryName → t₁.guest.lookup n other.entryName =
            if other ∈ held then some other else t.guest.lookup n other.entryName) ∧
          (∀ name, G.kept name → (∀ other : Identity, other.entryName ≠ name) →
            t₁.guest.lookup n name = t.guest.lookup n name) ∧
          ∀ name, G.kept name → t₂.guest.lookup n name = t.guest.lookup n name := by
  have hfree := settles_of_converts
    (ObjectGraph.everything_admits hextends : (ObjectGraph.everything t.namespaceDict).Admits _) hself
  have hsound := sound_everything ht
  obtain ⟨held, hgains, _⟩ := (hfree id t trivial hsound).at_error hraised
  obtain ⟨destroyed, t₂, hrelease, hcounts, _⟩ := hgains.releaseAll_restores hsound
  refine ⟨held, hgains.acquired, hgains.keeps.active, hgains.count, ⟨fun hsame => ?_, ?_⟩, destroyed, t₂, hrelease,
    hcounts, fun G hadmits hid hsound => ?_⟩
  · refine List.eq_nil_iff_forall_not_mem.mpr fun other hother => ?_
    have hcount := hgains.count other
    have hpositive := List.count_pos_iff.mpr hother
    rw [hsame] at hcount
    omega
  · rintro rfl
    exact Counts.ext_of_count hgains.sound.positive ht hgains.count
  · obtain ⟨held', hgains', _⟩ := (settles_of_converts hadmits hself id t hid hsound).at_error hraised
    obtain rfl : held = held' := List.append_cancel_left (hgains.acquired.symm.trans hgains'.acquired)
    obtain ⟨_, t₂', hrelease', _, hnames⟩ := hgains'.releaseAll_restores hsound
    rw [hrelease] at hrelease'
    cases hrelease'
    exact ⟨hgains'.lookup_entryName hsound, hgains'.keeps.others, hnames⟩

/-- The converter's handle stays when nobody attempts the conversion. -/
theorem error_leaves_acquired_of_leak : ∃ f t₁ destroyed t₂, marshal (leaky.insert standard) ⟨2⟩ start = .error f t₁ ∧
    start.counts.count ⟨3⟩ = 0 ∧ t₁.counts.count ⟨3⟩ = 1 ∧
    t₁.guest.lookup ⟨0⟩ (⟨3⟩ : Identity).entryName = some ⟨3⟩ ∧
    TransferM.releaseAll [⟨3⟩] t₁ = .ok destroyed t₂ ∧ t₂.counts = start.counts ∧
    t₂.guest.lookup ⟨0⟩ (⟨3⟩ : Identity).entryName = none := by
  have hgraph := Guest.specimen_isOrdinaryGraph
  have hadmits := leaky_admitted (Guest.ordinaryGraph Guest.specimen_wellKept hgraph fun _ => True)
  obtain ⟨t₁, hraised, hlog⟩ := leaky_raises
  obtain ⟨held, hacquired, _, hcount, _, destroyed, t₂, hrelease, hback, hentries⟩ :=
    error_leaves_acquired hadmits.extends_standard (.inl rfl) Counts.positive_empty hraised
  obtain ⟨hparked, _, hrestored⟩ :=
    hentries _ hadmits (.inl (by decide)) ⟨rfl, .refl _ _, Counts.positive_empty, fun _ _ => rfl⟩
  obtain rfl : [⟨3⟩] = held := by rwa [hlog] at hacquired
  refine ⟨_, t₁, destroyed, t₂, hraised, rfl, hcount ⟨3⟩, ?_, hrelease, hback, ?_⟩
  · rw [hparked _ trivial, if_pos List.mem_cons_self]
  · rw [hrestored _ trivial]
    rfl

end ScriptHost.Outbound
