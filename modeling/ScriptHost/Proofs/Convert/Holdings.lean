import ScriptHost.Proofs.Convert.ObjectGraph
import ScriptHost.Proofs.Value.Built

/-! What a conversion holds when it ends: counts and log of a crossing went up by the same handles, and a
value that no converter of a user made carries exactly those. -/
namespace ScriptHost
variable {n : Identity}

/-- Counts and log went up by the same handles, and else nothing of a crossing changed. -/
structure Transfer.Gains (K : Custody n) (t : Transfer) (held : List Identity) (t' : Transfer) : Prop where
  keeps : t.Keeps K t'
  count : ∀ id, t'.counts.count id = t.counts.count id + held.count id
  acquired : t'.acquired.toList = t.acquired.toList ++ held

namespace Transfer.Gains
variable {K : Custody n} {t t' t'' : Transfer} {held held' : List Identity}

theorem refl (h : t.Sound K) : t.Gains K [] t := ⟨.refl h, by simp, by simp⟩

theorem trans (h : t.Gains K held t') (h' : t'.Gains K held' t'') : t.Gains K (held ++ held') t'' where
  keeps := h.keeps.trans h'.keeps
  count id := by
    rw [h'.count, h.count, List.count_append, Nat.add_assoc]
  acquired := by
    rw [h'.acquired, h.acquired, List.append_assoc]

theorem sound (h : t.Gains K held t') : t'.Sound K := h.keeps.sound

/-- Giving back what a crossing gained leaves counts and namespace as they were. -/
theorem releaseAll_restores (ht : t.Sound K) (h : t.Gains K held t') :
    ∃ destroyed t'', TransferM.releaseAll held t' = .ok destroyed t'' ∧ t''.counts = t.counts ∧
      ∀ name, K.kept name → t''.guest.lookup n name = t.guest.lookup n name := by
  obtain ⟨destroyed, t'', hrun, hkeeps, hcounts, _⟩ := TransferM.releaseAll_keeps held h.sound
  have hback : t''.counts = t.counts := by
    refine Counts.ext_of_count hkeeps.sound.positive ht.positive fun other => ?_
    rw [hcounts, h.count, Nat.add_sub_cancel]
  refine ⟨destroyed, t'', hrun, hback, fun name hk => ?_⟩
  by_cases hx : ∃ other : Identity, other.entryName = name
  · obtain ⟨other, rfl⟩ := hx
    rw [hkeeps.sound.entry other hk, ht.entry other hk, hback]
  · rw [hkeeps.others name hk (not_exists.mp hx), h.keeps.others name hk (not_exists.mp hx)]

/-- The entries of the objects whose handles a crossing gained are there when it ends, and the others are as they
were. -/
theorem lookup_entryName (ht : t.Sound K) (h : t.Gains K held t') (other : Identity) (hk : K.kept other.entryName) :
    t'.guest.lookup n other.entryName = if other ∈ held then some other else t.guest.lookup n other.entryName := by
  rw [h.sound.entry other hk, ht.entry other hk, h.count]
  by_cases hheld : other ∈ held
  · have hpositive := List.count_pos_iff.mpr hheld
    rw [if_pos hheld, if_neg (by omega)]
  · rw [if_neg hheld, List.count_eq_zero_of_not_mem hheld, Nat.add_zero]

/-- What is gained while an object is in progress is gained when it is not any more. -/
theorem afterwards {id : Identity} (h : Transfer.Gains K { t with active := id :: t.active } held t') :
    t.Gains K held { t' with active := t'.active.erase id } := by
  refine ⟨⟨h.sound.withLog _ _, h.keeps.later, ?_, h.keeps.others⟩, h.count, h.acquired⟩
  rw [h.keeps.active, List.erase_cons_head]

end Transfer.Gains

namespace Outbound
variable {K : Custody n} {t₀ t : Transfer} {held : List Identity}

open Stepping

/-! ### Single steps -/

theorem guest_gains {α : Type} {run : GuestM α} {answer : Guest → α → Prop}
    (h : t₀.Gains K held t) (hrun : K.Calm t.guest run answer) :
    Ends (TransferM.guest run) t fun r t' => t₀.Gains K held t' ∧ K.later t.guest t'.guest ∧
      ∀ a, r = .ok a → answer t'.guest a := by
  have hgains : ∀ g, K.later t.guest g →
      (∀ name, K.kept name → g.lookup n name = t.guest.lookup n name) →
      t₀.Gains K held { t with guest := g } := by
    intro g hlater hnames
    have hkeeps : t.Keeps K { t with guest := g } := by
      refine .of_later h.sound rfl hlater h.sound.positive rfl (fun id hk => ?_) fun name hk _ => hnames name hk
      rw [hnames _ hk, h.sound.entry id hk]
    exact ⟨h.keeps.trans hkeeps, h.count, h.acquired⟩
  cases hr : GuestM.atTop run t.guest with
  | ok a g =>
    obtain ⟨hlater, hnames, ha⟩ := hrun.at_ok hr
    exact .of_ok (by rw [TransferM.guest_run, hr]) ⟨hgains g hlater hnames, hlater, ha⟩
  | error f g =>
    obtain ⟨hlater, hnames, ha⟩ := hrun.at_error hr
    exact .of_error (by rw [TransferM.guest_run, hr]) ⟨hgains g hlater hnames, hlater, ha⟩

theorem record_gains (level : Level) (source : Source) (message : String) (h : t₀.Gains K held t) :
    ∃ t', TransferM.record level source message t = .ok ⟨⟩ t' ∧ t₀.Gains K held t' := by
  obtain ⟨t', hrun, hkeeps, hcounts, hacquired⟩ := TransferM.record_keeps h.sound level source message
  exact ⟨t', hrun, h.keeps.trans hkeeps, by simpa [hcounts] using h.count,
    by simpa [hacquired] using h.acquired⟩

theorem handleFor_gains (id : Identity) (h : t₀.Gains K held t) :
    ∃ t', handleFor id t = .ok (.handle id) t' ∧ t₀.Gains K (held ++ [id]) t' := by
  obtain ⟨t', hrun, hkeeps, hcounts, hacquired⟩ := TransferM.acquire_keeps h.sound id
  refine ⟨{ t' with acquired := t'.acquired.push id }, by simp [handleFor, hrun], h.trans ?_⟩
  refine ⟨⟨hkeeps.sound.withLog _ _, hkeeps.later, hkeeps.active, hkeeps.others⟩, ?_, by simp [hacquired]⟩
  intro other
  rw [hcounts, Counts.count_acquire]

/-- Giving back what came after a mark undoes it, whatever that was, so that a handle of the object
is all that is left. -/
theorem degrade_gains (id : Identity) (h : t₀.Gains K held t) :
    ∃ t', degrade t₀.acquired.size id t = .ok (.handle id) t' ∧ t₀.Gains K [id] t' := by
  have habandoned : (t.acquired.extract t₀.acquired.size).toList = held := by
    have hsize : t.acquired.size = t₀.acquired.size + held.length := by
      simpa using congrArg List.length h.acquired
    simp [h.acquired, hsize]
  have hkept : (t.acquired.shrink t₀.acquired.size).toList = t₀.acquired.toList := by
    rw [Array.toList_shrink, h.acquired, ← Array.length_toList, List.take_left]
  obtain ⟨destroyed, t₁, hrun, hkeeps, hcounts, hacquired⟩ :=
    TransferM.releaseAll_keeps (t := { t with acquired := t.acquired.shrink t₀.acquired.size }) held
      (h.sound.withLog _ _)
  have hback : t₀.Gains K [] t₁ := by
    refine ⟨h.keeps.trans ⟨hkeeps.sound, hkeeps.later, hkeeps.active, hkeeps.others⟩, ?_, ?_⟩
    · intro other
      rw [hcounts, h.count other]
      simp
    · rw [hacquired, hkept, List.append_nil]
  by_cases he : held.isEmpty
  · obtain ⟨t₂, hhandle, hgains⟩ := handleFor_gains id hback
    refine ⟨t₂, ?_, hgains⟩
    simp only [degrade, bind_run, get_run, modify_run, discard_run, habandoned, hrun, he]
    exact hhandle
  · obtain ⟨t₂, hnote, hgains⟩ := record_gains .debug .marshal ("[Marshal] released " ++
      toString held.length ++ " handle(s) from the abandoned conversion") hback
    obtain ⟨t₃, hhandle, hgains'⟩ := handleFor_gains id hgains
    refine ⟨t₃, ?_, hgains'⟩
    simp only [degrade, bind_run, get_run, modify_run, discard_run, habandoned, hrun, he]
    simp only [Bool.false_eq_true, ↓reduceIte, bind_run, hnote]
    exact hhandle

end Outbound

/-! ### Whole conversions -/

/-- What the handles that a conversion acquired have to do with the value that it gives: it holds of a scalar and
nothing, of an object's handle and the object, and of lists and maps that are put together of values it holds of. -/
structure Tally (R : List Identity → Value → Prop) : Prop where
  leaf : ∀ {v}, v.isLeaf = true → v.handles = [] → R [] v
  handle : ∀ id, R [id] (.handle id)
  nil : R [] (.list [])
  cons : ∀ {held v held' vs}, R held v → R held' (.list vs) → R (held ++ held') (.list (v :: vs))
  empty : ∀ capacity, R [] (.map (Keyed.withCapacity capacity))
  adding : ∀ {held first second key value} {m : ValueMap}, R held (.map m) → m.contains key = false →
    R first key → R second value → R (held ++ first ++ second) (.map (m.adding key value))

/-- A relation to the handles that a value carries, if it holds of nothing, of a handle that was acquired, and of
parts put together. -/
theorem Tally.of_handles {R : List Identity → List Identity → Prop} (nil : R [] []) (one : ∀ id, R [id] [id])
    (append : ∀ {held carried held' carried'}, R held carried → R held' carried' →
      R (held ++ held') (carried ++ carried')) : Tally fun held v => R held v.handles where
  leaf _ h := h ▸ nil
  handle := one
  nil := nil
  cons h h' := append h h'
  empty capacity := by
    rw [Value.handles_map, Keyed.toList_withCapacity, List.flatMap_nil]
    exact nil
  adding h hnew hkey hvalue := by
    rw [Value.handles_map_adding hnew, List.append_assoc]
    exact append h (append hkey hvalue)

theorem Tally.and {R R' : List Identity → Value → Prop} (h : Tally R) (h' : Tally R') :
    Tally fun held v => R held v ∧ R' held v where
  leaf hleaf hhandles := ⟨h.leaf hleaf hhandles, h'.leaf hleaf hhandles⟩
  handle id := ⟨h.handle id, h'.handle id⟩
  nil := ⟨h.nil, h'.nil⟩
  cons hv hvs := ⟨h.cons hv.1 hvs.1, h'.cons hv.2 hvs.2⟩
  empty capacity := ⟨h.empty capacity, h'.empty capacity⟩
  adding hm hnew hkey hvalue := ⟨h.adding hm.1 hnew hkey.1 hvalue.1, h'.adding hm.2 hnew hkey.2 hvalue.2⟩

/-- Exactly the handles that the answer carries were acquired. -/
theorem tally_handles : Tally fun held v => held = v.handles :=
  .of_handles rfl (fun _ => rfl) fun h h' => h ▸ h' ▸ rfl

/-- The maps of an answer come from the operations of maps. -/
theorem tally_built : Tally fun _ v => v.Built where
  leaf h _ := .leaf h
  handle _ := .leaf rfl
  nil := .list fun _ h => nomatch h
  cons hv hvs := .list (List.forall_mem_cons.mpr ⟨hv, hvs.items⟩)
  empty capacity := .map (.withCapacity capacity)
  adding hm _ hkey hvalue := by
    cases hm with
    | leaf h => cases h
    | map hm => exact .map (.insert hm hkey hvalue)

/-- A conversion that ends with more handles than it began with, which tally with its answer. -/
def ObjectGraph.Settles {α : Type} (G : ObjectGraph n) (R : List Identity → α → Prop)
    (t₀ : Transfer) (r : Except Fault α) (t : Transfer) : Prop :=
  ∃ held, t₀.Gains G.toCustody held t ∧ ∀ a, r = .ok a → R held a

theorem ObjectGraph.Settles.after {α : Type} {G : ObjectGraph n} {R : List Identity → α → Prop}
    {t₀ t t' : Transfer} {r : Except Fault α}
    (h : t₀.Gains G.toCustody [] t) (hs : G.Settles R t r t') : G.Settles R t₀ r t' := by
  obtain ⟨held, hgains, htally⟩ := hs
  exact ⟨held, h.trans hgains, htally⟩

theorem ObjectGraph.Settles.of_error {α : Type} {G : ObjectGraph n} {R : List Identity → α → Prop}
    {t₀ t : Transfer} {held : List Identity} {f : Fault}
    (h : t₀.Gains G.toCustody held t) : G.Settles R t₀ (.error f) t :=
  ⟨held, h, fun _ ha => by cases ha⟩

namespace Outbound
variable {G : ObjectGraph n} {R : List Identity → Value → Prop} {self : Identity → TransferM Value}
variable {t₀ t : Transfer} {held : List Identity}

open Stepping

/-- A conversion of the objects of a graph that settles wherever it starts. -/
def SettlesAll (G : ObjectGraph n) (R : List Identity → Value → Prop)
    (self : Identity → TransferM Value) : Prop :=
  ∀ id t, G.object t.guest id → t.Sound G.toCustody → Ends (self id) t (G.Settles R t)

private theorem self_gains (hself : SettlesAll G R self) {id : Identity}
    (h : t₀.Gains G.toCustody held t) (hid : G.object t.guest id) : Ends (self id) t fun r t' =>
      ∃ more, t₀.Gains G.toCustody (held ++ more) t' ∧ G.later t.guest t'.guest ∧
        ∀ v, r = .ok v → R more v := by
  refine (hself id t hid h.sound).mono fun r t' hs => ?_
  obtain ⟨more, hgains, htally⟩ := hs
  exact ⟨more, h.trans hgains, hgains.keeps.later, htally⟩

private theorem handleFor_settles (hR : Tally R) (id : Identity) (h : t₀.Gains G.toCustody [] t) :
    Ends (handleFor id) t (G.Settles R t₀) := by
  obtain ⟨t', hrun, hgains⟩ := handleFor_gains id h
  refine .of_ok hrun ⟨[id], hgains, fun v hv => ?_⟩
  cases hv
  exact hR.handle id

private theorem degrade_settles (hR : Tally R) (id : Identity) (h : t₀.Gains G.toCustody held t) :
    Ends (degrade t₀.acquired.size id) t (G.Settles R t₀) := by
  obtain ⟨t', hrun, hgains⟩ := degrade_gains id h
  refine .of_ok hrun ⟨[id], hgains, fun v hv => ?_⟩
  cases hv
  exact hR.handle id

/-- An attempt that raised leaves nothing behind but a handle of its object. -/
theorem orHandle_of_error (hself : SettlesAll G R self) {id : Identity} (hid : G.object t.guest id)
    (ht : t.Sound G.toCustody) {f : Fault} {t' : Transfer} (hrun : self id t = .error f t') :
    ∃ t'', orHandle self id t = .ok (.handle id) t'' ∧ t.Gains G.toCustody [id] t'' := by
  obtain ⟨held, hgains, _⟩ := (hself id t hid ht).at_error hrun
  obtain ⟨t₁, hnote, hgains⟩ := record_gains .warn .marshal ("[Marshal] outbound conversion of " ++
    toString id ++ " failed, returning a handle instead: " ++ f.message) hgains
  obtain ⟨t₂, hdegrade, hgains⟩ := degrade_gains id hgains
  exact ⟨t₂, by simp [orHandle, hrun, hnote, hdegrade], hgains⟩

/-- An attempt to convert an object never raises, and its answer is a handle if the conversion did. -/
theorem orHandle_settles (hR : Tally R) (hself : SettlesAll G R self) {id : Identity} (hid : G.object t.guest id)
    (ht : t.Sound G.toCustody) : ∃ v t', orHandle self id t = .ok v t' ∧
      ∃ held, t.Gains G.toCustody held t' ∧ R held v := by
  cases hrun : self id t with
  | ok v t' =>
    obtain ⟨held, hgains, hv⟩ := (hself id t hid ht).at_ok hrun
    exact ⟨v, t', by simp [orHandle, hrun], held, hgains, hv v rfl⟩
  | error f t' =>
    obtain ⟨t'', hrun', hgains⟩ := orHandle_of_error hself hid ht hrun
    exact ⟨.handle id, t'', hrun', [id], hgains, hR.handle id⟩

/-- The items of an iteration are converted one after the other, until one of them raises. -/
private theorem iterate_settles (hR : Tally R) (hself : SettlesAll G R self) (left : Nat) {c : Cursor} {g : Guest}
    (hg : G.state g) (hc : G.iteration g c) (hlater : G.later g t.guest) (ht : t.Sound G.toCustody) :
    Ends (iterate self left c) t (G.Settles (fun held vs => R held (.list vs)) t) := by
  induction left generalizing c t g with
  | zero => exact .of_ok rfl ⟨[], .refl ht, fun vs hvs => by cases hvs; exact hR.nil⟩
  | succ left ih =>
    refine (guest_gains (.refl ht) (G.advance hg hc hlater)).bind (fun step t₁ h₁ => ?_)
      fun f t₁ h₁ => .of_error h₁.1
    obtain ⟨hgains₁, _, hstep⟩ := h₁
    match step, hstep with
    | none, _ => exact .of_ok rfl ⟨[], hgains₁, fun vs hvs => by cases hvs; exact hR.nil⟩
    | some (item, c'), hstep =>
      obtain ⟨hitem, hc'⟩ := hstep _ rfl item c' rfl
      refine (self_gains hself hgains₁ hitem).bind (fun v t₂ h₂ => ?_)
        fun f t₂ h₂ => .of_error h₂.choose_spec.1
      obtain ⟨first, hgains₂, hlater₂, hv⟩ := h₂
      refine (ih hgains₁.sound.state hc' hlater₂ hgains₂.sound).bind (fun vs t₃ h₃ => ?_)
        fun f t₃ h₃ => .of_error (hgains₂.trans h₃.choose_spec.1)
      obtain ⟨rest, hgains₃, hvs⟩ := h₃
      refine .of_ok rfl ⟨_, hgains₂.trans hgains₃, fun out hout => ?_⟩
      cases hout
      exact hR.cons (hv v rfl) (hvs vs rfl)

/-- The entries of a mapping are converted in order; two equal keys give back all of them. -/
private theorem entries_settles (hR : Tally R) (hself : SettlesAll G R self) (id : Identity)
    (found : List MappingItem) (hfound : ∀ item ∈ found, G.entry t.guest item) (m : ValueMap)
    (h : t₀.Gains G.toCustody held t) (hm : R held (.map m)) :
    Ends (entries self id t₀.acquired.size m found) t (G.Settles R t₀) := by
  induction found generalizing m t held with
  | nil => exact .of_ok rfl ⟨held, h, fun v hv => by cases hv; exact hm⟩
  | cons item rest ih =>
    obtain ⟨hitem, hrest⟩ := List.forall_mem_cons.mp hfound
    refine (guest_gains h (G.pair h.sound.state hitem)).bind (fun p t₁ h₁ => ?_)
      fun f t₁ h₁ => .of_error h₁.1
    obtain ⟨hgains₁, hlater₁, hp⟩ := h₁
    obtain ⟨hkey, hvalue⟩ := hp p rfl
    refine (self_gains hself hgains₁ hkey).bind (fun key t₂ h₂ => ?_)
      fun f t₂ h₂ => .of_error h₂.choose_spec.1
    obtain ⟨first, hgains₂, hlater₂, hk⟩ := h₂
    by_cases hcontains : m.contains key = true
    · rw [if_pos hcontains]
      obtain ⟨t₃, hnote, hgains₃⟩ := record_gains .warn .marshal ("[Marshal] mapping " ++ toString id ++
        " has distinct keys converting to " ++ key.display ++ "; returning a handle instead") hgains₂
      exact .bind_of_ok hnote (degrade_settles hR id hgains₃)
    · rw [if_neg hcontains]
      refine (self_gains hself hgains₂ (G.object_later hlater₂ hvalue)).bind (fun value t₃ h₃ => ?_)
        fun f t₃ h₃ => .of_error h₃.choose_spec.1
      obtain ⟨second, hgains₃, hlater₃, hv⟩ := h₃
      have hlater := G.trans hlater₁ (G.trans hlater₂ hlater₃)
      exact ih (fun item hi => G.entry_later hlater (hrest item hi)) _ hgains₃
        (hR.adding hm (by simpa using hcontains) (hk key rfl) (hv value rfl))

/-- The relation that says nothing of an answer. -/
abbrev Untallied (_ : List Identity) (_ : Value) : Prop := True

theorem tally_untallied : Tally Untallied :=
  .of_handles (R := fun _ _ => True) trivial (fun _ => trivial) fun _ _ => trivial

/-- A user's conversion settles, whatever it makes of what its steps answer. -/
private theorem runPlan_settles (hself : SettlesAll G Untallied self) {g : Guest} {plan : OutboundPlan}
    (hplan : plan.Within G g) (hg : t.guest = g) (h : t₀.Gains G.toCustody held t) :
    Ends (runPlan self plan) t (G.Settles Untallied t₀) := by
  induction hplan generalizing t held with
  | done _ v => exact .of_ok rfl ⟨held, h, fun _ _ => trivial⟩
  | fail _ f => exact .of_error rfl ⟨held, h, fun _ _ => trivial⟩
  | look _ ih =>
    subst hg
    exact .bind_of_ok (get_run t) (ih rfl h)
  | compute hrun _ ih =>
    subst hg
    exact (guest_gains h hrun).bind_attempt fun r t' hr => ih t'.guest r hr.2.1 hr.2.2 rfl hr.1
  | iterate hrun _ ih =>
    subst hg
    exact (guest_gains h hrun).bind_attempt fun r t' hr => ih t'.guest r hr.2.1 hr.2.2 rfl hr.1
  | advance hrun _ ih =>
    subst hg
    exact (guest_gains h hrun).bind_attempt fun r t' hr => ih t'.guest r hr.2.1 hr.2.2 rfl hr.1
  | marshal hid _ ih =>
    subst hg
    refine (self_gains hself h hid).bind_attempt fun r t' hr => ?_
    obtain ⟨more, hgains, hlater, _⟩ := hr
    exact ih t'.guest r hlater rfl hgains
  | marshalOrHandle hid _ ih =>
    subst hg
    obtain ⟨v, t', hrun, more, hgains, _⟩ := orHandle_settles tally_untallied hself hid h.sound
    exact .bind_of_ok hrun (ih t'.guest v hgains.keeps.later rfl (h.trans hgains))
  | @handleFor _ id _ _ ih =>
    subst hg
    obtain ⟨t', hrun, hgains⟩ := handleFor_gains id (.refl h.sound)
    exact .bind_of_ok hrun (ih t'.guest _ hgains.keeps.later rfl (h.trans hgains))
  | handleCount _ ih => exact .bind_of_ok (get_run t) (ih _ hg h)

theorem isLeaf_integer (k : Int) : (Value.integer k).isLeaf = true ∧ (Value.integer k).handles = [] := by
  unfold Value.integer
  split <;> exact ⟨rfl, rfl⟩

private theorem isLeaf_scalar {g : Guest} {id : Identity} {v : Value}
    (h : g.scalar? id = some (.ok v)) : v.isLeaf = true ∧ v.handles = [] := by
  unfold Guest.scalar? at h
  split at h
  case h_5 t _ =>
    rw [Option.some.injEq] at h
    cases he : t.encode <;> rw [he] at h <;> cases h
    exact ⟨rfl, rfl⟩
  all_goals cases h
  all_goals first | exact ⟨rfl, rfl⟩ | exact isLeaf_integer _

private theorem asIndex_not_native {id : Identity} {context : Context} {g g' : Guest} {v : Value} :
    GuestM.asIndex id context g ≠ .ok (.native v) g' := by
  unfold GuestM.asIndex
  simp only [reader_bind_run, reader_get_run]
  split
  · simp only [reader_bind_run, reader_discard_run, reader_pure_run]
    intro h
    split at h
    · split at h
      · split at h <;> cases h
      · cases h
    · cases h
  · exact fun h => by cases h

/-- What an object is at bottom carries no handles if it is a scalar. -/
theorem unwrap_native {id : Identity} {g g' : Guest} {v : Value}
    (h : GuestM.atTop (GuestM.unwrap id) g = .ok (.native v) g') : v.isLeaf = true ∧ v.handles = [] := by
  rw [GuestM.atTop_eq] at h
  unfold GuestM.unwrap at h
  simp only [reader_bind_run, reader_get_run] at h
  cases hs : g.scalar? id with
  | some scalar =>
    rw [hs] at h
    cases scalar with
    | ok w =>
      cases h
      exact isLeaf_scalar hs
    | error f => cases h
  | none =>
    rw [hs] at h
    exact absurd h asIndex_not_native

/-- What a conversion of one object starts from: the state in which its converter was chosen, and where
it was seen to be one of the graph. -/
structure Chosen (G : ObjectGraph n) (g : Guest) (id : Identity) (t : Transfer) : Prop where
  state : G.state g
  object : G.object g id
  later : G.later g t.guest
  sound : t.Sound G.toCustody

/-- A user's conversion accounts for the handles that it acquires, if the conversions that it goes back to do: they
tally with the value that it gives. -/
def Accounts (G : ObjectGraph n) (R : List Identity → Value → Prop) (guard : Guest → Identity → Bool)
    (plan : Identity → OutboundPlan) : Prop :=
  ∀ (self : Identity → TransferM Value) (g : Guest) (id : Identity) (t : Transfer), SettlesAll G R self →
    Chosen G g id t → guard g id = true → Ends (runPlan self (plan id)) t (G.Settles R t)

/-- What makes the handles of a conversion tally: conversions of users that account for theirs, and wrappers in the
graph around values that tally with no handle acquired. -/
structure IsTallied (G : ObjectGraph n) (R : List Identity → Value → Prop)
    (converters : List OutboundConverter) : Prop where
  tally : Tally R
  custom : ∀ c ∈ converters, ∀ plan, c.conversion = .custom plan → Accounts G R c.guard plan
  wrapped : ∀ {g id v}, G.state g → G.object g id → g.wrapped? id = some v → R [] v

/-- To register a conversion that accounts for its handles keeps a table tallied. -/
theorem IsTallied.insert {converters : List OutboundConverter} {c : OutboundConverter} {plan : Identity → OutboundPlan}
    (h : IsTallied G R converters) (hc : c.conversion = .custom plan) (haccounts : Accounts G R c.guard plan) :
    IsTallied G R (c.insert converters) where
  tally := h.tally
  custom d hd plan' hplan' := by
    rcases Converter.mem_insert.mp hd with rfl | hd
    · obtain rfl : plan = plan' := by rwa [hc, OutboundConversion.custom.injEq] at hplan'
      exact haccounts
    · exact h.custom d hd plan' hplan'
  wrapped := h.wrapped

/-- Where nothing is said of the answer, everything tallies. -/
theorem isTallied_untallied {converters : List OutboundConverter} (hadmits : G.Admits converters) :
    IsTallied G Untallied converters where
  tally := tally_untallied
  custom c hc plan hplan _ _ id t hself h hguard :=
    runPlan_settles hself (hadmits.within c hc plan hplan _ t.guest id h.state h.object hguard h.later) rfl
      (.refl h.sound)
  wrapped _ _ _ := trivial

variable {converters : List OutboundConverter} {g : Guest} {id : Identity}

private theorem items_settles (hR : Tally R) (hself : SettlesAll G R self) (h : Chosen G g id t)
    (hchosen : chosen? g id = some .iterable) :
    Ends (items self id) t (G.Settles R t) := by
  refine (guest_gains (.refl h.sound) (G.cursor h.state h.object hchosen h.later)).bind (fun c t₁ h₁ => ?_)
    fun f t₁ h₁ => .of_error h₁.1
  obtain ⟨hgains₁, _, hc⟩ := h₁
  refine (iterate_settles hR hself (max mostItems ((t₁.guest.hint? c).getD 0)) hgains₁.sound.state (hc c rfl)
    (G.refl _) hgains₁.sound).bind (fun vs t₂ h₂ => ?_)
    fun f t₂ h₂ => .of_error (hgains₁.trans h₂.choose_spec.1)
  obtain ⟨held, hgains₂, hvs⟩ := h₂
  refine .of_ok rfl ⟨_, hgains₁.trans hgains₂, fun out hout => ?_⟩
  cases hout
  exact hvs vs rfl

private theorem mapping_settles (hR : Tally R) (hself : SettlesAll G R self) (h : Chosen G g id t)
    (hchosen : chosen? g id = some .mapping) : Ends (mapping self id) t (G.Settles R t) := by
  refine .bind_of_ok (get_run t) ?_
  refine (guest_gains (.refl h.sound) (G.mappingItems h.state h.object hchosen h.later)).bind
    (fun found t₁ h₁ => ?_) fun f t₁ h₁ => .of_error h₁.1
  obtain ⟨hgains₁, _, hfound⟩ := h₁
  exact entries_settles hR hself id found (hfound found rfl) _ hgains₁ (hR.empty found.length)

private theorem integer_settles (hR : Tally R) (h : Chosen G g id t) :
    Ends (apply self .integer id) t (G.Settles R t) := by
  refine .bind_of_ok (get_run t) ?_
  cases t.guest.plainInt? id with
  | none => exact .of_error rfl (.of_error (.refl h.sound))
  | some k =>
    refine .of_ok rfl ⟨[], .refl h.sound, fun out hout => ?_⟩
    cases hout
    obtain ⟨hleaf, hhandles⟩ := isLeaf_integer k
    exact hR.leaf hleaf hhandles

private theorem wrapped_settles (htallied : IsTallied G R converters) (h : Chosen G g id t) :
    Ends (apply self .wrapped id) t (G.Settles R t) := by
  refine .bind_of_ok (get_run t) ?_
  cases hw : t.guest.wrapped? id with
  | none => exact .of_error rfl (.of_error (.refl h.sound))
  | some v =>
    refine .of_ok rfl ⟨[], .refl h.sound, fun out hout => ?_⟩
    cases hout
    exact htallied.wrapped h.sound.state (G.object_later h.later h.object) hw

private theorem apply_settles (hself : SettlesAll G R self)
    (htallied : IsTallied G R converters) (hadmits : G.Admits converters) {c : OutboundConverter}
    (hfound : resolve converters g id = some c) (h : Chosen G g id t) :
    Ends (apply self c.conversion id) t (G.Settles R t) := by
  have hc : c ∈ converters := List.mem_of_find?_eq_some hfound
  rcases hadmits.extends_standard.known hc with hstandard | ⟨plan, hplan⟩
  · have hchosen := hadmits.extends_standard.chosen?_of_resolve hfound
    simp only [standard, List.mem_cons, List.not_mem_nil, or_false] at hstandard
    rcases hstandard with rfl | rfl | rfl | rfl | rfl
    · exact wrapped_settles htallied h
    · exact handleFor_settles htallied.tally id (.refl h.sound)
    · exact mapping_settles htallied.tally hself h (hchosen rfl)
    · exact items_settles htallied.tally hself h (hchosen rfl)
    · exact integer_settles htallied.tally h
  · rw [hplan]
    exact htallied.custom c hc plan hplan self g id t hself h (by simpa using List.find?_some hfound)

private theorem convert_settles (hself : SettlesAll G R self)
    (htallied : IsTallied G R converters) (hadmits : G.Admits converters) (h : Chosen G g id t) :
    Ends (convert self (resolve converters g id) id) t (G.Settles R t) := by
  cases hfound : resolve converters g id with
  | some c =>
    obtain ⟨t₁, hnote, hgains⟩ := record_gains .trace .marshal
      ("[Marshal] outbound " ++ toString id ++ " via '" ++ c.name ++ "'") (.refl h.sound)
    refine .bind_of_ok hnote ?_
    have h₁ : Chosen G g id t₁ :=
      ⟨h.state, h.object, G.trans h.later hgains.keeps.later, hgains.sound⟩
    exact (apply_settles hself htallied hadmits hfound h₁).mono
      fun r t' hr => hr.after hgains
  | none =>
    have hunwrap := guest_gains (.refl h.sound) (G.unwrap h.state h.object
      (hadmits.extends_standard.chosen?_of_unresolved hfound) h.later)
    cases hrun : TransferM.guest (GuestM.unwrap id) t with
    | error f t₁ =>
      have hraised : convert self none id t = .error f t₁ := by simp [convert, hrun]
      exact .of_error hraised (.of_error (hunwrap.at_error hrun).1)
    | ok bottom t₁ =>
      obtain ⟨hgains, _, hother⟩ := hunwrap.at_ok hrun
      refine .bind_of_ok hrun ?_
      cases bottom with
      | native v =>
        refine .of_ok rfl ⟨[], hgains, fun out hout => ?_⟩
        cases hout
        obtain ⟨hleaf, hhandles⟩ := unwrap_native (TransferM.atTop_of_guest hrun)
        exact htallied.tally.leaf hleaf hhandles
      | unchanged => exact handleFor_settles htallied.tally id hgains
      | other next =>
        exact (hself next t₁ (hother _ rfl next rfl) hgains.sound).mono fun r t' hr => hr.after hgains

private theorem dispatch_settles (hself : SettlesAll G R self)
    (htallied : IsTallied G R converters) (hadmits : G.Admits converters)
    (hid : G.object t.guest id) (ht : t.Sound G.toCustody) :
    Ends (dispatch self converters id) t (G.Settles R t) := by
  have hrest : ∀ t₁, t.Gains G.toCustody [] t₁ →
      Ends (convert self (resolve converters t.guest id) id) t₁ (G.Settles R t) :=
    fun t₁ hgains => (convert_settles hself htallied hadmits
      ⟨ht.state, hid, hgains.keeps.later, hgains.sound⟩).mono fun r t' hr => hr.after hgains
  refine .bind_of_ok (get_run t) ?_
  dsimp only
  split
  · refine (guest_gains (.refl ht) (G.mark ht.state hid)).bind (fun _ t₁ h₁ => hrest t₁ h₁.1) ?_
    exact fun f t₁ h₁ => .of_error h₁.1
  · exact hrest t (.refl ht)

/-- An object is in progress while its conversion runs and not afterwards. -/
private theorem whileActive_settles {run : TransferM Value}
    (hrun : ∀ t', t'.guest = t.guest → t'.Sound G.toCustody →
      Ends run t' (G.Settles R t'))
    (ht : t.Sound G.toCustody) : Ends (whileActive id run) t (G.Settles R t) := by
  refine .bind_of_ok (modify_run _ t) ?_
  have hstart : Transfer.Sound G.toCustody { t with active := id :: t.active } := ht.withLog _ _
  refine (hrun { t with active := id :: t.active } rfl hstart).bind_attempt fun r t' hr => ?_
  refine .bind_of_ok (modify_run _ t') ?_
  obtain ⟨held, hgains, htally⟩ := hr
  have hback := hgains.afterwards
  cases r with
  | ok v => exact .of_ok rfl ⟨held, hback, htally⟩
  | error f => exact .of_error rfl ⟨held, hback, htally⟩

/-- Conversions settle at every depth. -/
theorem marshalTo_settles (htallied : IsTallied G R converters) (hadmits : G.Admits converters)
    (depth : Nat) : SettlesAll G R (marshalTo converters depth) := by
  induction depth with
  | zero => exact fun id t _ ht => .of_error rfl (.of_error (.refl ht))
  | succ depth ih =>
    intro id t hid ht
    refine .bind_of_ok (get_run t) ?_
    split
    · obtain ⟨t₁, hnote, hgains⟩ := record_gains .debug .marshal ("[Marshal] " ++ toString id ++
        " contains itself; returning a handle for the inner reference") (.refl ht)
      exact .bind_of_ok hnote (handleFor_settles htallied.tally id hgains)
    · exact whileActive_settles (fun t' hg ht => dispatch_settles ih htallied hadmits (hg ▸ hid) ht) ht

theorem marshal_settles (htallied : IsTallied G R converters) (hadmits : G.Admits converters) :
    SettlesAll G R (marshal converters) := by
  intro id t hid ht
  exact .bind_of_ok (get_run t) (marshalTo_settles htallied hadmits (depth t.guest) id t hid ht)

end Outbound
end ScriptHost
