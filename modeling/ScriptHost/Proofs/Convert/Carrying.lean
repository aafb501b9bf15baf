import ScriptHost.Proofs.Convert.Filing
import ScriptHost.Proofs.Convert.Return

/-! Handles on their way through a script: a registered handle comes in as its object and goes out as a handle that is
counted once more, and a handle that is not registered any more comes in and goes out as the text of its identity. -/
namespace ScriptHost
open Stepping

/-! ### Values of handles and scalars -/

namespace Value

/-- Scalars and handles, in lists to any depth. -/
inductive IsListing : Value → Prop where
  | null : IsListing .null
  | bool (b : Bool) : IsListing (.bool b)
  | int (n : Int64) : IsListing (.int n)
  | bigInt {n : Int} (h : ¬ FitsWord n) : IsListing (.bigInt n)
  | float (x : Double) : IsListing (.float x)
  | string (s : String) : IsListing (.string s)
  | handle (id : Identity) : IsListing (.handle id)
  | list {items : List Value} (h : ∀ item ∈ items, IsListing item) : IsListing (.list items)

mutual
/-- What a value comes back as: each handle that is not registered is the text of its identity. -/
def answered (registered : Identity → Bool) : Value → Value
  | .handle id => if registered id then .handle id else .string (toString id)
  | .list items => .list (itemsAnswered registered items)
  | v => v
termination_by structural v => v
def itemsAnswered (registered : Identity → Bool) : List Value → List Value
  | [] => []
  | item :: items => answered registered item :: itemsAnswered registered items
termination_by structural items => items
end

variable {v : Value} {items : List Value} {registered : Identity → Bool}

theorem answered_list (items : List Value) :
    (list items).answered registered = list (items.map (answered registered)) := by
  rw [answered, list.injEq]
  induction items with
  | nil => rfl
  | cons item items ih => rw [itemsAnswered, ih, List.map_cons]

theorem answered_of_leaf (hleaf : v.isLeaf = true) (hfree : v.handles = []) : v.answered registered = v := by
  cases v with
  | handle => cases hfree
  | list => cases hleaf
  | _ => rfl

namespace IsListing

/-- A value of scalars and handles is a scalar, a handle or a list. -/
theorem kinds (h : v.IsListing) : (v.isLeaf = true ∧ v.IsPlain ∧ ∃ run, Inbound.structural v = some run) ∨
    (∃ id, v = .handle id) ∨ ∃ items, v = .list items ∧ ∀ item ∈ items, item.IsListing := by
  cases h with
  | handle id => exact .inr (.inl ⟨id, rfl⟩)
  | list h => exact .inr (.inr ⟨_, rfl, h⟩)
  | bigInt h =>
    refine .inl ⟨rfl, .of_leaf rfl rfl fun n hn => ?_, _, rfl⟩
    cases hn
    exact h
  | _ => exact .inl ⟨rfl, .of_leaf rfl rfl nofun, _, rfl⟩

theorem hasFreeKeys (h : v.IsListing) : v.HasFreeKeys := by
  induction h with
  | handle id => exact .of_handle id
  | list _ ih =>
    intro m hm
    cases hm with
    | item hmem hm => exact ih _ hmem m hm
  | _ => exact .of_free rfl

/-- The handles that come back are those that are registered. -/
theorem handles_answered (h : v.IsListing) : (v.answered registered).handles = v.handles.filter registered := by
  induction h with
  | handle id =>
    unfold answered
    cases hid : registered id <;> simp [handles, hid]
  | @list items _ ih =>
    rw [answered_list, handles_list, handles_list, List.flatMap_map, List.filter_flatMap]
    exact List.flatMap_congr ih
  | _ => rfl

/-- Of a registered handle as many come back as there are, and none of another one. -/
theorem count_handles_answered (h : v.IsListing) (id : Identity) :
    (v.answered registered).handles.count id = if registered id then v.handles.count id else 0 := by
  rw [h.handles_answered]
  split
  · next hid => exact List.count_filter hid
  · next hid =>
    rw [List.count_eq_zero, List.mem_filter]
    exact fun hmem => hid hmem.2

end IsListing
end Value

/-! ### Objects of handles -/

namespace Guest
variable {W W' : Identity → Prop} {g g' : Guest} {n id : Identity} {v : Value}

/-- An object that has no conversion as long as nothing but some dictionaries is written: it is marked, or no converter
takes it and it is neither a scalar nor an index. To be asked for its mark changes nothing that was there. -/
structure IsOpaque (g : Guest) (W : Identity → Prop) (id : Identity) : Prop where
  holds : g.Holds id
  asked : ∀ g', g.Proceeds W g' → ∃ g'', GuestM.atTop (GuestM.askForMark id) g' = .ok ⟨⟩ g'' ∧
    g'.Proceeds (fun _ => False) g''
  kept : (∀ g', g.Proceeds W g' → Outbound.chosen? g' id = some .keep) ∨ ∀ g', g.Proceeds W g' →
    Outbound.chosen? g' id = none ∧ g'.scalar? id = none ∧ g'.offersIndex id = false

/-- It stays so, also if more is written of what was not there before. -/
theorem IsOpaque.proceeds (h : g.IsOpaque W id) (hg : g.Proceeds W g') (hnew : ∀ id, W' id → g.Holds id → W id) :
    g'.IsOpaque W' id := by
  have hlater {g'' : Guest} (hg' : g'.Proceeds W' g'') : g.Proceeds W g'' := by
    refine ((hg.mono fun id hid => Or.inl hid).trans (hg'.mono fun id hid => .inr hid)).of_new ?_
    rintro id (hid | hid) hholds
    · exact hid
    · exact hnew id hid hholds
  refine ⟨hg.holds h.holds, fun g'' hg' => h.asked g'' (hlater hg'), ?_⟩
  exact h.kept.imp (fun hkept g'' hg' => hkept g'' (hlater hg')) fun hkept g'' hg' => hkept g'' (hlater hg')

/-- An untouched object that is data of its own, neither a scalar nor iterable, has no conversion. -/
theorem IsUntouched.isOpaque (h : g.IsUntouched W id) (hsettled : isSettled (g.body id) = true)
    (hiterable : (g.body id).isIterable = false) (hscalar : g.scalar? id = none) (hwrapped : g.wrapped? id = none) :
    g.IsOpaque W id := by
  refine ⟨h.holds, fun g' hg => ⟨g', ?_, .refl g'⟩, .inr fun g' hg => ?_⟩
  · exact (h.proceeds hg).askForMark_run (by rwa [h.body_eq hg])
  · have hlater := h.proceeds hg
    have hbody := h.body_eq hg
    rw [← hbody] at hsettled hiterable
    have hscalar' : g'.scalar? id = none := by rwa [scalar?, hbody]
    have hwrapped' : g'.wrapped? id = none := by rwa [wrapped?, hbody]
    refine ⟨?_, hscalar', by rw [offersIndex, hlater.exact]; rfl⟩
    have hdict : g'.isDict id = false := by
      unfold isDict
      generalize g'.body id = body at hiterable ⊢
      cases body <;> first | rfl | cases hiterable
    have hint : g'.plainInt? id = none := by
      unfold scalar? at hscalar'
      unfold plainInt?
      generalize g'.body id = body at hscalar' ⊢
      cases body <;> first | rfl | cases hscalar'
    have hordinary : IsOwnOrdinary (g'.body id) := by
      unfold IsOwnOrdinary
      split <;> trivial
    rw [hlater.chosen?_eq hsettled hordinary, hwrapped', hdict, hiterable, hint, Bool.and_false]
    rfl

/-- Whether a namespace has something under the name of a handle. -/
def registers (g : Guest) (n id : Identity) : Bool := (g.lookup n id.entryName).isSome

theorem registers_eq (hg : g.Proceeds W g') (hn : g.Holds n) (hw : ¬ W n) : g'.registers n = g.registers n := by
  funext id
  rw [registers, hg.lookup_eq hn hw, registers]

/-- What a namespace has under the name of a handle in a value is the object of the handle, and that has no
conversion. -/
def Backs (g : Guest) (n : Identity) (W : Identity → Prop) (v : Value) : Prop :=
  ∀ id ∈ v.handles, ∀ obj, g.lookup n id.entryName = some obj → obj = id ∧ g.IsOpaque W id

theorem Backs.proceeds {V : Identity → Prop} (h : g.Backs n W v) (hg : g.Proceeds V g') (hn : g.Holds n) (hv : ¬ V n)
    (hwritten : ∀ id, V id → W id) (hnew : ∀ id, W' id → g.Holds id → W id) : g'.Backs n W' v := by
  intro id hid obj hobj
  rw [hg.lookup_eq hn hv] at hobj
  obtain ⟨hsame, hopaque⟩ := h id hid obj hobj
  exact ⟨hsame, hopaque.proceeds (hg.mono hwritten) hnew⟩

theorem Backs.item {items : List Value} {item : Value} (h : g.Backs n W (.list items)) (hmem : item ∈ items) :
    g.Backs n W item := fun id hid => by
  refine h id ?_
  rw [Value.handles_list]
  exact List.mem_flatMap.mpr ⟨item, hmem, hid⟩

/-- An object carries a value through a script: it tells the value, or is the object of the handle, or a list of objects
that came up before it and carry the items. -/
inductive Carries (g : Guest) (W : Identity → Prop) : Identity → Value → Prop where
  | direct {id : Identity} {v : Value} (h : g.IsUntouched W id) (htells : (g.body id).Tells v)
    (hfree : v.handles = []) : Carries g W id v
  | handle {id : Identity} (h : g.IsOpaque W id) : Carries g W id (.handle id)
  | list {id : Identity} {items : Array Identity} {vs : List Value} (h : g.IsUntouched W id)
    (hbody : g.body id = .list items) (hlength : items.size = vs.length)
    (hbefore : ∀ item ∈ items.toList, item.index < id.index)
    (hitems : ∀ pair ∈ items.toList.zip vs, Carries g W pair.1 pair.2) : Carries g W id (.list vs)

theorem Carries.holds (h : g.Carries W id v) : g.Holds id := by
  cases h with
  | direct h | handle h | list h => exact h.holds

/-- An object goes on carrying its value. -/
theorem Carries.proceeds (h : g.Carries W id v) (hg : g.Proceeds W g') : g'.Carries W id v := by
  induction h with
  | direct h htells hfree => exact .direct (h.proceeds hg) (by rwa [h.body_eq hg]) hfree
  | handle h => exact .handle (h.proceeds hg fun _ hid _ => hid)
  | list h hbody hlength hbefore _ ih =>
    exact .list (h.proceeds hg) (by rw [h.body_eq hg, hbody]) hlength hbefore ih

/-- A new list carries the values that its items carry. -/
theorem carries_list {ids : List Identity} {vs : List Value} (h : List.Forall₂ (g.Carries W) ids vs)
    (hg : g.IsTidy W) : (g.adding { body := .list ids.toArray }).Carries W g.next (.list vs) := by
  have hheld := ((List.forall₂_and_left ids vs).mp (h.imp fun _ _ h => ⟨h.holds, h⟩)).1
  have hproceeds : g.Proceeds W (g.adding { body := .list ids.toArray }) := (Adds.push g _).proceeds
  have hitems := List.forall₂_iff_zip.mp (h.imp fun _ _ h => h.proceeds hproceeds)
  exact .list (isUntouched_adding hg _) (body_adding g _) (by simpa using hitems.1)
    (fun item hitem => hheld item (by simpa using hitem)) fun pair hpair => hitems.2 hpair

end Guest

/-! ### The way in -/

namespace Inbound
open Guest
variable {W : Identity → Prop} {t : Transfer} {v : Value} {id : Identity} {depth : Nat}

/-- A conversion gives an object that carries a value. -/
def GivesCarrier (W : Identity → Prop) (t : Transfer) (run : TransferM Identity) (v : Value) : Prop :=
  ∃ id t', run t = .ok id t' ∧ t.Proceeds (fun _ => False) t' ∧ t'.guest.Carries W id v

theorem GivesCarrier.noted {run : TransferM Identity} {level : Level} {source : Source} {message : String}
    (h : ∀ r, GivesCarrier W { t with guest := t.guest.noted r } run v) :
    GivesCarrier W t (do TransferM.record level source message; run) v := by
  obtain ⟨id, t', hrun, hproceeds, hcarries⟩ := h ⟨level, source, message⟩
  refine ⟨id, t', ?_, (Transfer.Proceeds.noted t _).trans hproceeds, hcarries⟩
  rw [bind_run, TransferM.record_run]
  exact hrun

theorem marshalTo_carries_scalar {run : TransferM Identity} (hg : t.guest.IsTidy W) (hleaf : v.isLeaf = true)
    (hplain : v.IsPlain) (hrun : structural v = some run) :
    GivesCarrier W t (marshalTo standard (depth + 1) v) v := by
  obtain ⟨id, t', hanswer, hdelivered⟩ := structural_delivers hrun hg
  have hstands := hdelivered.stands hplain id rfl
  rw [marshalTo_of_structural depth hrun]
  exact ⟨id, t', hanswer, hdelivered.proceeds,
    .direct hstands.untouched (hstands.tells_of_leaf hleaf) (leaf_of_structural hrun).2⟩

/-- The object behind a handle is looked up; if it is gone, the text of its identity comes up instead. -/
theorem handle_carries (hg : t.guest.IsTidy W) (hbacks : t.guest.Backs t.namespaceDict W (.handle id)) :
    GivesCarrier W t (handle id) ((Value.handle id).answered (t.guest.registers t.namespaceDict)) := by
  have hresolve : TransferM.resolve id t = .ok (t.guest.lookup t.namespaceDict id.entryName) t := rfl
  unfold handle Value.answered registers
  cases hfound : t.guest.lookup t.namespaceDict id.entryName with
  | some obj =>
    obtain ⟨rfl, hopaque⟩ := hbacks id (List.mem_singleton_self id) obj hfound
    refine ⟨obj, t, ?_, .refl t, .handle hopaque⟩
    rw [bind_run, hresolve, hfound]
    rfl
  | none =>
    rw [hfound] at hresolve
    suffices h : GivesCarrier W t (do
        TransferM.record .warn .marshal ("[Marshal] handle " ++ toString id ++
          " is not in the global namespace; passing its identity instead")
        TransferM.guest (GuestM.string (toString id))) (.string (toString id)) by
      obtain ⟨obj, t', hrun, hend⟩ := h
      exact ⟨obj, t', by rw [bind_run, hresolve]; exact hrun, hend⟩
    refine .noted fun r => ?_
    have hnoted := hg.proceeds (V := W) (proceeds_noted t.guest r)
    obtain ⟨obj, g', hrun, hadds, hholds, hexact, hbody⟩ :=
      GuestM.string_run (toString id) (t.guest.noted r).topContext (t.guest.noted r)
    have huntouched := hadds.isUntouched hnoted hholds hexact (by rw [scalar?, hbody]; rfl)
    refine ⟨obj, { t with guest := g' }, ?_, .of_guest hadds.proceeds, .direct huntouched ?_ rfl⟩
    · rw [TransferM.guest_run, GuestM.atTop_eq, hrun]
    · rw [hbody]
      exact .text (Text.encode_ofString _)

/-- The items of a list come up as objects that carry them. -/
theorem items_carries {self : Value → TransferM Identity} {n : Identity} {vs : List Value} (hg : t.guest.IsTidy W)
    (hn : t.namespaceDict = n ∧ t.guest.Holds n) (hbacks : t.guest.Backs n W (.list vs))
    (hself : ∀ v ∈ vs, ∀ t : Transfer, t.guest.IsTidy W → t.namespaceDict = n ∧ t.guest.Holds n →
      t.guest.Backs n W v → GivesCarrier W t (self v) (v.answered (t.guest.registers n))) :
    ∃ ids t', items self vs t = .ok ids t' ∧ t.Proceeds (fun _ => False) t' ∧
      List.Forall₂ (t'.guest.Carries W) ids (vs.map (Value.answered (t.guest.registers n))) := by
  induction vs generalizing t with
  | nil => exact ⟨[], t, rfl, .refl t, .nil⟩
  | cons v vs ih =>
    obtain ⟨id, t₁, hrun₁, hproceeds₁, hcarries⟩ := hself v List.mem_cons_self t hg hn (hbacks.item List.mem_cons_self)
    have hn₁ : t₁.namespaceDict = n ∧ t₁.guest.Holds n := by
      rw [hproceeds₁.rest]
      exact ⟨hn.1, hproceeds₁.guest.holds hn.2⟩
    have hregisters : t₁.guest.registers n = t.guest.registers n := registers_eq hproceeds₁.guest hn.2 not_false
    have hbacks₁ : t₁.guest.Backs n W (.list vs) := by
      refine Backs.proceeds (fun other hother => hbacks other ?_) hproceeds₁.guest hn.2 not_false (fun _ h => h.elim)
        fun _ h _ => h
      rw [Value.handles_list] at hother ⊢
      exact List.mem_append_right _ hother
    obtain ⟨ids, t₂, hrun₂, hproceeds₂, hrest⟩ := ih (hg.proceeds hproceeds₁.guest) hn₁ hbacks₁
      fun v hv => hself v (List.mem_cons_of_mem _ hv)
    refine ⟨id :: ids, t₂, ?_, hproceeds₁.trans hproceeds₂, ?_⟩
    · simp only [items, bind_run, hrun₁, hrun₂, pure_run]
    · rw [hregisters] at hrest
      exact .cons (hcarries.proceeds hproceeds₂.guest.relax) hrest

/-- The object of a value of scalars and handles carries what comes back of the value. -/
theorem marshalTo_carries {n : Identity} (hv : v.IsListing) (hdepth : v.depth ≤ depth) (hg : t.guest.IsTidy W)
    (hn : t.namespaceDict = n ∧ t.guest.Holds n) (hbacks : t.guest.Backs n W v) :
    GivesCarrier W t (marshalTo standard depth v) (v.answered (t.guest.registers n)) := by
  induction depth generalizing v t with
  | zero => exact absurd hdepth (Nat.not_le.mpr v.depth_pos)
  | succ depth ih =>
    rcases hv.kinds with ⟨hleaf, hplain, run, hrun⟩ | ⟨id, rfl⟩ | ⟨vs, rfl, hvs⟩
    · rw [Value.answered_of_leaf hleaf hplain.handles]
      exact marshalTo_carries_scalar hg hleaf hplain hrun
    · obtain ⟨rfl, hheld⟩ := hn
      refine .noted fun r => ?_
      have hnoted : t.guest.Proceeds (fun _ => False) (t.guest.noted r) := proceeds_noted t.guest r
      exact handle_carries (hg.proceeds hnoted)
        (hbacks.proceeds hnoted hheld not_false (fun _ h => h.elim) fun _ h _ => h)
    · refine .noted fun r => ?_
      have hnoted : t.guest.Proceeds (fun _ => False) (t.guest.noted r) := proceeds_noted t.guest r
      obtain ⟨ids, t', hitems, hproceeds, hcarries⟩ := @items_carries W { t with guest := t.guest.noted r }
        (marshalTo standard depth) n vs (hg.proceeds hnoted) ⟨hn.1, hnoted.holds hn.2⟩
        (hbacks.proceeds hnoted hn.2 not_false (fun _ h => h.elim) fun _ h _ => h)
        fun item hitem t' hg' hn' hbacks' =>
          ih (hvs item hitem) (Nat.le_of_lt_succ ((Value.depth_item_lt hitem).trans_le hdepth)) hg' hn' hbacks'
      have hregisters : (t.guest.noted r).registers n = t.guest.registers n := registers_eq hnoted hn.2 not_false
      rw [hregisters] at hcarries
      refine ⟨t'.guest.next, { t' with guest := t'.guest.adding { body := .list ids.toArray } }, ?_,
        hproceeds.trans (.of_guest (Adds.push _ _).proceeds), ?_⟩
      · show apply (marshalTo standard depth) .sequence (.list vs) _ = _
        simp only [apply, bind_run, hitems, TransferM.guest_run, GuestM.atTop_eq, GuestM.list, GuestM.allocate_run]
      · rw [Value.answered_list]
        exact carries_list hcarries (hg.proceeds (hnoted.trans hproceeds.guest))

theorem marshalOrPassthrough_carries {n : Identity} (hv : v.IsListing) (hg : t.guest.IsTidy W)
    (hn : t.namespaceDict = n ∧ t.guest.Holds n) (hbacks : t.guest.Backs n W v) :
    GivesCarrier W t (marshalOrPassthrough standard v) (v.answered (t.guest.registers n)) := by
  have hdepth : v.depth ≤ Inbound.depth v := Nat.le_add_right _ _
  obtain ⟨id, t', hrun, hend⟩ := marshalTo_carries hv hdepth hg hn hbacks
  refine ⟨id, t', ?_, hend⟩
  unfold marshalOrPassthrough orPassthrough marshal
  rw [tryCatch_run, hrun]

end Inbound

/-! ### The way out -/

/-- A crossing that has acquired some handles: each is counted once more, and of what was there nothing is written but
the namespace where objects are parked. -/
structure Transfer.Acquires (t : Transfer) (held : List Identity) (t' : Transfer) : Prop where
  namespaceDict : t'.namespaceDict = t.namespaceDict
  active : t'.active = t.active
  count : ∀ id, t'.counts.count id = t.counts.count id + held.count id
  guest : t.guest.Proceeds (· = t.namespaceDict) t'.guest

namespace Transfer.Acquires
variable {t t' t'' : Transfer} {held held' : List Identity}

theorem of_proceeds (h : t.Proceeds (fun _ => False) t') : t.Acquires [] t' := by
  obtain ⟨hrest, hguest⟩ := h
  rw [hrest]
  exact ⟨rfl, rfl, fun _ => rfl, hguest.relax⟩

theorem trans (h : t.Acquires held t') (h' : t'.Acquires held' t'') : t.Acquires (held ++ held') t'' where
  namespaceDict := h'.namespaceDict.trans h.namespaceDict
  active := h'.active.trans h.active
  count id := by rw [h'.count, h.count, List.count_append, Nat.add_assoc]
  guest := h.guest.trans (h.namespaceDict ▸ h'.guest)

end Transfer.Acquires

namespace Outbound
open Guest
variable {W : Identity → Prop} {t : Transfer} {v : Value} {id : Identity} {self : Identity → TransferM Value}

/-- A conversion answers with a value and acquires its handles. -/
def HandsOut (t : Transfer) (run : TransferM Value) (v : Value) : Prop :=
  ∃ t', run t = .ok v t' ∧ t.Acquires v.handles t'

namespace HandsOut
variable {run : TransferM Value}

theorem of_returns (h : Returns t run (· = v)) (hfree : v.handles = []) : HandsOut t run v := by
  obtain ⟨_, t', hrun, hproceeds, rfl⟩ := h
  refine ⟨t', hrun, ?_⟩
  rw [hfree]
  exact .of_proceeds hproceeds

/-- What is written before, other than what was there, does not count. -/
theorem after {t' : Transfer} {first : TransferM Unit} (hfirst : first t = .ok ⟨⟩ t')
    (hproceeds : t.Proceeds (fun _ => False) t') (h : HandsOut t' run v) : HandsOut t (do first; run) v := by
  obtain ⟨t'', hrun, hacquires⟩ := h
  refine ⟨t'', ?_, (Transfer.Acquires.of_proceeds hproceeds).trans hacquires⟩
  rw [bind_run, hfirst]
  exact hrun

theorem whileActive (h : HandsOut { t with active := id :: t.active } run v) : HandsOut t (whileActive id run) v := by
  obtain ⟨t', hrun, hacquires⟩ := h
  refine ⟨{ t' with active := t'.active.erase id }, ?_, hacquires.namespaceDict, ?_, hacquires.count, hacquires.guest⟩
  · simp [Outbound.whileActive, attempt_run, hrun]
  · rw [hacquires.active]
    exact List.erase_cons_head id t.active

/-- The converter that takes an object is applied. -/
theorem of_chosen {conversion : OutboundConversion} {g : Guest} (hchosen : chosen? g id = some conversion)
    (h : ∀ r, HandsOut { t with guest := t.guest.noted r } (apply self conversion id) v) :
    HandsOut t (convert self (resolve standard g id) id) v := by
  obtain ⟨c, hc, rfl⟩ := Option.map_eq_some_iff.mp hchosen
  rw [hc]
  exact after (TransferM.record_run _ _ _ t) (.noted t _) (h _)

end HandsOut

/-- A handle is acquired: its object is parked and counted. -/
theorem handleFor_handsOut (hn : t.guest.Holds t.namespaceDict) : HandsOut t (handleFor id) (.handle id) := by
  obtain ⟨r, hrun⟩ := TransferM.acquire_run id t
  obtain ⟨key, g, hadds, hparked⟩ := t.guest.parked_eq t.namespaceDict id
  have hproceeds : t.guest.Proceeds (· = t.namespaceDict) (t.guest.parked t.namespaceDict id) := by
    rw [hparked]
    exact hadds.proceeds.trans (proceeds_withBody (hadds.holds hn) _)
  have hacquired : handleFor id t = .ok (.handle id) { t with
      guest := (t.guest.parked t.namespaceDict id).noted r
      counts := t.counts.acquire id
      acquired := t.acquired.push id } := by
    unfold handleFor
    simp only [bind_run, hrun, modify_run, pure_run]
  exact ⟨_, hacquired, rfl, rfl, t.counts.count_acquire id, hproceeds.trans (proceeds_noted _ r)⟩

/-- An object without a conversion is given as its handle. -/
theorem dispatch_of_opaque (h : t.guest.IsOpaque W id) (hn : t.guest.Holds t.namespaceDict) :
    HandsOut t (dispatch self standard id) (.handle id) := by
  have hconvert (t' : Transfer) (ht' : t.Proceeds (fun _ => False) t') :
      HandsOut t' (convert self (resolve standard t.guest id) id) (.handle id) := by
    have hheld : t'.guest.Holds t'.namespaceDict := by
      rw [ht'.rest]
      exact ht'.guest.holds hn
    rcases h.kept with hmarked | hunchosen
    · exact .of_chosen (hmarked t.guest (.refl _)) fun r => handleFor_handsOut hheld
    · obtain ⟨-, hscalar, hindex⟩ := hunchosen t'.guest ht'.guest.relax
      have hguest : TransferM.guest (GuestM.unwrap id) t' = .ok .unchanged t' := by
        rw [TransferM.guest_run, GuestM.atTop_eq, GuestM.unwrap_of_opaque hscalar hindex]
      obtain ⟨t'', hrun, hacquires⟩ := handleFor_handsOut hheld
      refine ⟨t'', ?_, hacquires⟩
      rw [Option.map_eq_none_iff.mp (hunchosen t.guest (.refl _)).1]
      simp only [convert, bind_run, hguest, hrun]
  obtain ⟨g', hasked, hproceeds⟩ := h.asked t.guest (.refl _)
  have hguest : TransferM.guest (GuestM.askForMark id) t = .ok ⟨⟩ { t with guest := g' } := by
    rw [TransferM.guest_run, hasked]
  unfold dispatch
  by_cases hasks : asksForMark standard t.guest id = true
  · obtain ⟨t'', hrun, hacquires⟩ := HandsOut.after hguest (.of_guest hproceeds) (hconvert _ (.of_guest hproceeds))
    refine ⟨t'', ?_, hacquires⟩
    rw [bind_run, get_run]
    dsimp only
    rw [if_pos hasks]
    exact hrun
  · obtain ⟨t'', hrun, hacquires⟩ := hconvert t (.refl t)
    refine ⟨t'', ?_, hacquires⟩
    rw [bind_run, get_run]
    dsimp only
    rw [if_neg hasks]
    exact hrun

/-- The objects in a list are converted one after the other, and what one conversion acquires adds to what those before
it did. -/
theorem iterate_handsOut {t₀ : Transfer} {held : List Identity} {items : Array Identity} {rest : List Value}
    (h : t₀.guest.IsUntouched W id) (hbody : t₀.guest.body id = .list items) (hn : W t₀.namespaceDict)
    (left place : Nat) (hleft : items.size ≤ place + left)
    (hself : List.Forall₂ (fun item v => ∀ held t, t₀.Acquires held t → HandsOut t (self item) v)
      (items.toList.drop place) rest)
    (ht : t₀.Acquires held t) : ∃ t', iterate self left (.places id place) t = .ok rest t' ∧
      t.Acquires (rest.flatMap Value.handles) t' := by
  have hbody' : t.guest.body id = .list items := by
    rw [h.body_eq (ht.guest.mono fun _ he => he ▸ hn), hbody]
  induction left generalizing place rest t held with
  | zero =>
    rw [List.drop_eq_nil_of_le (by simpa using hleft)] at hself
    cases hself
    exact ⟨t, rfl, .of_proceeds (.refl t)⟩
  | succ left ih =>
    rw [iterate_of_sequence (.inl hbody')]
    cases hitem : items[place]? with
    | none =>
      rw [List.drop_eq_nil_of_le (by simpa using hitem)] at hself
      cases hself
      exact ⟨t, rfl, .of_proceeds (.refl t)⟩
    | some item =>
      rw [drop_of_getElem? hitem] at hself
      cases hself with
      | cons hfirst hrest =>
        obtain ⟨t₁, hrun₁, hacquires₁⟩ := hfirst held t ht
        have ht₁ := ht.trans hacquires₁
        obtain ⟨t₂, hrun₂, hacquires₂⟩ := ih (place + 1) (by omega) hrest ht₁
          (by rw [h.body_eq (ht₁.guest.mono fun _ he => he ▸ hn), hbody])
        refine ⟨t₂, ?_, hacquires₁.trans hacquires₂⟩
        simp only [bind_run, hrun₁, hrun₂, pure_run]

theorem items_handsOut {items : Array Identity} {vs : List Value} (h : t.guest.IsUntouched W id)
    (hbody : t.guest.body id = .list items) (hn : W t.namespaceDict)
    (hself : List.Forall₂ (fun item v => ∀ held t', t.Acquires held t' → HandsOut t' (self item) v) items.toList vs) :
    HandsOut t (Outbound.items self id) (.list vs) := by
  obtain ⟨t', hrun, hacquires⟩ := iterate_handsOut h hbody hn (max mostItems items.size) 0 (by omega)
    (by simpa using hself) (.of_proceeds (.refl t))
  refine ⟨t', ?_, by rwa [Value.handles_list]⟩
  simp only [items_of_sequence h.exact (.inl hbody), bind_run, hrun, pure_run]

/-- An object that carries a value is converted to that, and the handles in the value are acquired: the objects in
progress are lists that came up after it. -/
theorem marshalTo_handsOut (depth : Nat) (h : t.guest.Carries W id v) (hn : W t.namespaceDict)
    (hheld : t.guest.Holds t.namespaceDict) (hactive : ∀ other ∈ t.active, id.index < other.index)
    (hdepth : id.index < depth) : HandsOut t (marshalTo standard depth id) v := by
  induction depth generalizing id v t with
  | zero => exact absurd hdepth (Nat.not_lt_zero _)
  | succ depth ih =>
    suffices hdispatch : HandsOut { t with active := id :: t.active }
        (dispatch (marshalTo standard depth) standard id) v by
      have hout : t.active.contains id = false := by
        rw [List.contains_eq_mem, decide_eq_false_iff_not]
        exact fun hmem => Nat.lt_irrefl _ (hactive id hmem)
      obtain ⟨t', hrun, hacquires⟩ := hdispatch.whileActive
      refine ⟨t', ?_, hacquires⟩
      rw [marshalTo]
      simp only [bind_run, get_run, hout, Bool.false_eq_true, ↓reduceIte, hrun]
    cases h with
    | direct h htells hfree =>
      refine .of_returns ?_ hfree
      rw [Returns, dispatch_of_untouched (t := { t with active := id :: t.active }) h (isSettled_of_tells htells)]
      exact convert_of_tells (t := { t with active := id :: t.active }) h htells
    | handle h => exact dispatch_of_opaque (t := { t with active := id :: t.active }) h hheld
    | @list _ items vs h hbody hlength hbefore hitems =>
      have hsettled : isSettled (t.guest.body id) = true := by
        rw [hbody]
        rfl
      have hchosen : chosen? t.guest id = some .iterable := by
        rw [h.chosen?_eq hsettled (by rw [hbody]; trivial)]
        simp [wrapped?, isDict, isText, text?, hbody, Body.isIterable]
      rw [HandsOut, dispatch_of_untouched (t := { t with active := id :: t.active }) h hsettled]
      refine HandsOut.of_chosen (t := { t with active := id :: t.active }) hchosen fun r => ?_
      have hnoted : t.guest.Proceeds W (t.guest.noted r) := proceeds_noted t.guest r
      refine items_handsOut (h.proceeds hnoted) (by rw [← hbody]; rfl) hn
        (List.forall₂_iff_zip.mpr ⟨by simpa using hlength, fun {item part} hpair held t' ht' => ?_⟩)
      obtain ⟨hitem, -⟩ := List.of_mem_zip hpair
      have hlater : t.guest.Proceeds W t'.guest := hnoted.trans (ht'.guest.mono fun _ he => he ▸ hn)
      have hearlier := hbefore item hitem
      refine ih ((hitems _ hpair).proceeds hlater) (ht'.namespaceDict ▸ hn) ?_ ?_
        (hearlier.trans_le (Nat.le_of_lt_succ hdepth))
      · rw [ht'.namespaceDict]
        exact hlater.holds hheld
      · rw [ht'.active]
        exact List.forall_mem_cons.mpr ⟨hearlier, fun other hother => hearlier.trans (hactive other hother)⟩

/-- An object that carries a value is given back as that, and each handle in the value is counted once more. -/
theorem marshalOrHandle_handsOut (h : t.guest.Carries W id v) (hn : W t.namespaceDict)
    (hheld : t.guest.Holds t.namespaceDict) (hactive : t.active = []) :
    HandsOut t (marshalOrHandle standard id) v := by
  have hdepth : id.index < depth t.guest := by
    have hholds := h.holds
    unfold Holds at hholds
    unfold depth
    omega
  obtain ⟨t', hrun, hacquires⟩ := marshalTo_handsOut (depth t.guest) h hn hheld (by simp [hactive]) hdepth
  refine ⟨t', ?_, hacquires⟩
  simp only [marshalOrHandle, orHandle, marshal, bind_run, get_run, tryCatch_run, hrun]

end Outbound
end ScriptHost
