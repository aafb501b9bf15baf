import ScriptHost.Proofs.Convert.Delivery
import ScriptHost.Proofs.Convert.OrdinaryGraph

/-! Return of host values: an object that stands for a value converts to a value like it, and nothing but the journal
is written on the way. -/
namespace ScriptHost
open Stepping

namespace Guest
variable {W : Identity → Prop} {g : Guest} {id : Identity} {v : Value}

/-- An untouched object without parts of its own that are attributes is not marked. -/
theorem IsUntouched.isMarked_eq (h : g.IsUntouched W id) (hsettled : isSettled (g.body id) = true) :
    g.isMarked id = false := by
  have hnone : g.ownAttribute? id (.ofString skipMark) = none := by
    unfold ownAttribute? ownAttributes?
    rw [h.bare]
    cases hb : g.body id <;> simp_all [isSettled]
  simp [isMarked, isExact, h.exact, hsettled, hnone]

/-- The converter of an untouched object goes by what it holds. -/
theorem IsUntouched.chosen?_eq (h : g.IsUntouched W id) (hsettled : isSettled (g.body id) = true)
    (ho : IsOwnOrdinary (g.body id)) : Outbound.chosen? g id =
      if (g.wrapped? id).isSome then some .wrapped else if g.isDict id then some .mapping
      else if !g.isText id && (g.body id).isIterable then some .iterable
      else if (g.plainInt? id).isSome then some .integer else none := by
  rw [Guest.chosen?_eq, h.isMarked_eq hsettled, countsAsMapping_of_own h.exact ho, isIterable, h.exact]
  rfl

theorem isSettled_of_tells {body : Body} (h : body.Tells v) : isSettled body = true := by cases h <;> rfl

/-- An untouched object that tells a value is an integer, a wrapper, or has no converter and is a scalar at bottom. -/
theorem IsUntouched.chosen?_of_tells (h : g.IsUntouched W id) (htells : (g.body id).Tells v) :
    (Outbound.chosen? g id = some .integer ∧ ∃ n, g.body id = .int n ∧ v = .integer n) ∨
      (Outbound.chosen? g id = some .wrapped ∧ g.body id = .wrapper v) ∨
      (Outbound.chosen? g id = none ∧ g.scalar? id = some (.ok v)) := by
  have hsettled := isSettled_of_tells htells
  generalize hb : g.body id = body at htells hsettled
  have hchosen := h.chosen?_eq (by rw [hb, hsettled]) (by cases htells <;> simp [hb, IsOwnOrdinary, Body.isIterable])
  cases htells with
  | int n =>
    refine .inl ⟨?_, n, rfl, rfl⟩
    simp [hchosen, wrapped?, isDict, isText, text?, plainInt?, hb, Body.isIterable]
  | wrapper v => exact .inr (.inl ⟨by simp [hchosen, wrapped?, hb], rfl⟩)
  | text hs =>
    refine .inr (.inr ⟨by simp [hchosen, wrapped?, isDict, isText, text?, plainInt?, hb], ?_⟩)
    simp only [scalar?, hb, hs]
    rfl
  | _ => exact .inr (.inr ⟨by simp [hchosen, wrapped?, isDict, plainInt?, hb, Body.isIterable], by rw [scalar?, hb]⟩)

/-- It is not asked for its mark. -/
theorem IsUntouched.askForMark_run (h : g.IsUntouched W id) (hsettled : isSettled (g.body id) = true) :
    GuestM.atTop (GuestM.askForMark id) g = .ok ⟨⟩ g := by
  rw [GuestM.atTop_eq]
  simp [GuestM.askForMark, isExact, h.exact, hsettled]

end Guest

namespace Outbound
open Guest
variable {W : Identity → Prop} {t t' : Transfer} {id : Identity} {v : Value} {P : Value → Prop}
variable {self : Identity → TransferM Value}

/-- A conversion answers with a value as described, and writes nothing but the journal. -/
def Returns (t : Transfer) (run : TransferM Value) (P : Value → Prop) : Prop :=
  ∃ v t', run t = .ok v t' ∧ t.Proceeds (fun _ => False) t' ∧ P v

theorem Returns.whileActive {run : TransferM Value} (h : Returns { t with active := id :: t.active } run P) :
    Returns t (whileActive id run) P := by
  obtain ⟨v, t', hrun, hproceeds, hv⟩ := h
  refine ⟨v, { t' with active := t'.active.erase id }, ?_, ⟨?_, hproceeds.guest⟩, hv⟩
  · simp [Outbound.whileActive, attempt_run, hrun]
  · have hrest := hproceeds.rest
    rw [hrest]
    simp

/-- An untouched object is converted without being asked for its mark. -/
theorem dispatch_of_untouched (h : t.guest.IsUntouched W id) (hsettled : isSettled (t.guest.body id) = true) :
    dispatch self standard id t = convert self (resolve standard t.guest id) id t := by
  have hask : TransferM.guest (GuestM.askForMark id) t = .ok ⟨⟩ t := by
    rw [TransferM.guest_run, h.askForMark_run hsettled]
  unfold dispatch
  simp only [bind_run, get_run]
  split
  · rw [bind_run, hask]
  · rfl

theorem Returns.of_chosen {conversion : OutboundConversion} (hchosen : chosen? t.guest id = some conversion)
    (h : ∀ t', t.Proceeds (fun _ => False) t' → Returns t' (apply self conversion id) P) :
    Returns t (convert self (resolve standard t.guest id) id) P := by
  obtain ⟨c, hc, rfl⟩ := Option.map_eq_some_iff.mp hchosen
  rw [hc]
  have hnoted := Transfer.Proceeds.noted (W := fun _ => False) t
    ⟨.trace, .marshal, "[Marshal] outbound " ++ toString id ++ " via '" ++ c.name ++ "'"⟩
  obtain ⟨v, t', hrun, hproceeds, hv⟩ := h _ hnoted
  exact ⟨v, t', by simp only [convert, bind_run, TransferM.record_run, hrun], hnoted.trans hproceeds, hv⟩

/-- An object that tells a value converts to that. -/
theorem convert_of_tells (h : t.guest.IsUntouched W id) (htells : (t.guest.body id).Tells v) :
    Returns t (convert self (resolve standard t.guest id) id) (· = v) := by
  have hlater {t' : Transfer} (ht' : t.Proceeds (fun _ => False) t') : t'.guest.body id = t.guest.body id :=
    h.body_eq ht'.guest.relax
  rcases h.chosen?_of_tells htells with ⟨hchosen, n, hbody, rfl⟩ | ⟨hchosen, hbody⟩ | ⟨hchosen, hscalar⟩
  · refine .of_chosen hchosen fun t' ht' => ⟨.integer n, t', ?_, .refl t', rfl⟩
    simp [apply, plainInt?, hlater ht', hbody]
  · refine .of_chosen hchosen fun t' ht' => ⟨v, t', ?_, .refl t', rfl⟩
    simp [apply, wrapped?, hlater ht', hbody]
  · have hguest : TransferM.guest (GuestM.unwrap id) t = .ok (.native v) t := by
      rw [TransferM.guest_run, GuestM.atTop_eq, GuestM.unwrap_of_scalar hscalar]
    rw [Option.map_eq_none_iff.mp hchosen]
    exact ⟨v, t, by simp only [convert, bind_run, hguest, pure_run], .refl t, rfl⟩

/-! ### Collections -/

variable {t₀ : Transfer}

/-- An object converts to a value as described from a crossing on. -/
def ReturnsFrom (t₀ : Transfer) (self : Identity → TransferM Value) (id : Identity) (P : Value → Prop) : Prop :=
  ∀ t, t₀.Proceeds (fun _ => False) t → Returns t (self id) P

theorem iterate_returns {items : Array Identity} (h : t₀.guest.IsUntouched W id)
    (hbody : t₀.guest.body id = .list items) {rest : List Value} (left place : Nat)
    (hleft : items.size ≤ place + left)
    (hself : List.Forall₂ (fun item v => ReturnsFrom t₀ self item v.Alike) (items.toList.drop place) rest)
    (ht : t₀.Proceeds (fun _ => False) t) : ∃ vs t', iterate self left (.places id place) t = .ok vs t' ∧
      t.Proceeds (fun _ => False) t' ∧ List.Forall₂ Value.Alike rest vs := by
  induction left generalizing place rest t with
  | zero =>
    rw [List.drop_eq_nil_of_le (by simpa using hleft)] at hself
    cases hself
    exact ⟨[], t, rfl, .refl t, .nil⟩
  | succ left ih =>
    have hbody' : t.guest.body id = .list items := by rw [h.body_eq ht.guest.relax, hbody]
    rw [iterate_of_sequence (.inl hbody')]
    cases hitem : items[place]? with
    | none =>
      rw [List.drop_eq_nil_of_le (by simpa using hitem)] at hself
      cases hself
      exact ⟨[], t, rfl, .refl t, .nil⟩
    | some item =>
      rw [drop_of_getElem? hitem] at hself
      cases hself with
      | cons hfirst hrest =>
        obtain ⟨v, t₁, hrun₁, hproceeds₁, hv⟩ := hfirst t ht
        obtain ⟨vs, t₂, hrun₂, hproceeds₂, hvs⟩ := ih (place + 1) (by omega) hrest (ht.trans hproceeds₁)
        refine ⟨v :: vs, t₂, ?_, hproceeds₁.trans hproceeds₂, .cons hv hvs⟩
        simp only [bind_run, hrun₁, hrun₂, pure_run]

theorem items_returns {items : Array Identity} {vs : List Value} (h : t.guest.IsUntouched W id)
    (hbody : t.guest.body id = .list items)
    (hself : List.Forall₂ (fun item v => ReturnsFrom t self item v.Alike) items.toList vs) :
    Returns t (Outbound.items self id) (Value.list vs).Alike := by
  obtain ⟨vs', t', hrun, hproceeds, halike⟩ := iterate_returns h hbody (max mostItems items.size) 0 (by omega)
    (by simpa using hself) (.refl t)
  refine ⟨.list vs', t', ?_, hproceeds, ?_⟩
  · simp only [items_of_sequence h.exact (.inl hbody), bind_run, hrun, pure_run]
  · obtain ⟨hlength, hpairs⟩ := List.forall₂_iff_zip.mp halike
    exact .list hlength fun pair hpair => hpairs hpair

/-- The values of a dictionary's entries are added one after the other, since their keys are different. -/
theorem entries_returns (id : Identity) (mark : Nat) {entries : Dict} {rest : List (Value × Value)} {m : ValueMap}
    (hself : List.Forall₂ (fun entry pair => ReturnsFrom t₀ self entry.key (· = pair.1) ∧
      ReturnsFrom t₀ self entry.value pair.2.Alike) entries rest)
    (hm : m.Filed Value.keyHash) (hdistinct : Value.AreDistinct (m.toList ++ rest))
    (ht : t₀.Proceeds (fun _ => False) t) : ∃ m' t' more,
      Outbound.entries self id mark m (entries.map fun entry => .pair entry.key entry.value) t = .ok (.map m') t' ∧
      t.Proceeds (fun _ => False) t' ∧ m'.toList = m.toList ++ more ∧
      List.Forall₂ (fun pair pair' => pair'.1 = pair.1 ∧ pair.2.Alike pair'.2) rest more := by
  induction hself generalizing m t with
  | nil => exact ⟨m, t, [], rfl, .refl t, (List.append_nil _).symm, .nil⟩
  | @cons entry pair entries rest hentry _ ih =>
    obtain ⟨_, t₁, hrun₁, hproceeds₁, rfl⟩ := hentry.1 t ht
    obtain ⟨v, t₂, hrun₂, hproceeds₂, hv⟩ := hentry.2 t₁ (ht.trans hproceeds₁)
    have hnew := ValueMap.contains_eq_false hm hdistinct
    have htoList := ValueMap.toList_adding hnew v
    have hdistinct' : Value.AreDistinct ((m.adding pair.1 v).toList ++ rest) := by
      rw [Association.areDistinct_iff] at hdistinct ⊢
      simpa [htoList] using hdistinct
    obtain ⟨m', t₃, more, hrun₃, hproceeds₃, hmore, halike⟩ :=
      ih (ValueMap.filed_adding hm pair.1 v) hdistinct' ((ht.trans hproceeds₁).trans hproceeds₂)
    have hproceeds := (hproceeds₁.trans hproceeds₂).trans hproceeds₃
    refine ⟨m', t₃, (pair.1, v) :: more, ?_, hproceeds, ?_, .cons ⟨rfl, hv⟩ halike⟩
    · have hpair : TransferM.guest (GuestM.pairOf (.pair entry.key entry.value)) t =
          .ok (entry.key, entry.value) t := rfl
      simp only [List.map_cons, Outbound.entries, bind_run, hpair, hrun₁, hnew, Bool.false_eq_true, ↓reduceIte, hrun₂,
        hrun₃]
    · rw [hmore, htoList, List.append_assoc, List.singleton_append]

theorem mapping_returns {entries : Dict} {m : ValueMap} (h : t.guest.IsUntouched W id)
    (hbody : t.guest.body id = .dict entries) (hdistinct : Value.AreDistinct m.toList)
    (hself : List.Forall₂ (fun entry pair => ReturnsFrom t self entry.key (· = pair.1) ∧
      ReturnsFrom t self entry.value pair.2.Alike) entries m.toList) :
    Returns t (mapping self id) (Value.map m).Alike := by
  have hguest : TransferM.guest (GuestM.mappingItems id) t =
      .ok (entries.map fun entry => .pair entry.key entry.value) t := by
    rw [TransferM.guest_run, GuestM.atTop_eq, GuestM.mappingItems_of_dict h.exact hbody]
  obtain ⟨m', t', more, hrun, hproceeds, hmore, halike⟩ := entries_returns id t.acquired.size hself
    (Keyed.filed_withCapacity _ entries.length) (by simpa using hdistinct) (.refl t)
  refine ⟨.map m', t', ?_, hproceeds, ?_⟩
  · simp only [mapping, bind_run, get_run, hguest, List.length_map, hrun]
  · rw [Keyed.toList_withCapacity, List.nil_append] at hmore
    obtain ⟨hlength, hpairs⟩ := List.forall₂_iff_zip.mp (hmore ▸ halike)
    exact .map hlength (fun pair hpair => (hpairs hpair).1 ▸ .refl _) fun pair hpair => (hpairs hpair).2

/-! ### Values -/

/-- An object that is not in progress converts as its converter does, to a depth. -/
theorem marshalTo_of_untouched {depth : Nat} (h : t.guest.IsUntouched W id)
    (hsettled : isSettled (t.guest.body id) = true) (hactive : ∀ other ∈ t.active, id.index < other.index)
    (hconvert : Returns { t with active := id :: t.active }
      (convert (marshalTo standard depth) (resolve standard t.guest id) id) P) :
    Returns t (marshalTo standard (depth + 1) id) P := by
  have hout : t.active.contains id = false := by
    rw [List.contains_eq_mem, decide_eq_false_iff_not]
    exact fun hmem => Nat.lt_irrefl _ (hactive id hmem)
  obtain ⟨v, t', hrun, hproceeds, hv⟩ := hconvert
  rw [← dispatch_of_untouched (t := { t with active := id :: t.active }) h hsettled] at hrun
  obtain ⟨v, t', hrun, hproceeds, hv⟩ := Returns.whileActive ⟨v, t', hrun, hproceeds, hv⟩
  refine ⟨v, t', ?_, hproceeds, hv⟩
  rw [marshalTo]
  simp only [bind_run, get_run, hout, Bool.false_eq_true, ↓reduceIte, hrun]

private theorem marshalTo_of_tells (depth : Nat) (h : t.guest.IsUntouched W id) (htells : (t.guest.body id).Tells v)
    (hactive : ∀ other ∈ t.active, id.index < other.index) :
    Returns t (marshalTo standard (depth + 1) id) (· = v) :=
  marshalTo_of_untouched h (isSettled_of_tells htells) hactive
    (convert_of_tells (t := { t with active := id :: t.active }) h htells)

/-- An object that stands for a value converts to a value like it: the objects in progress came up after it. -/
theorem marshalTo_returns (depth : Nat) (h : t.guest.Stands W id v) (hbuilt : v.Built)
    (hactive : ∀ other ∈ t.active, id.index < other.index) (hdepth : id.index < depth) :
    Returns t (marshalTo standard depth id) v.Alike := by
  induction depth generalizing id v t with
  | zero => exact absurd hdepth (Nat.not_lt_zero _)
  | succ depth ih =>
    have hinner {t' : Transfer} (ht' : Transfer.Proceeds (fun _ => False) { t with active := id :: t.active } t')
        {part : Identity} (hpart : part.index < id.index) : ∀ other ∈ t'.active, part.index < other.index := by
      rw [ht'.rest]
      exact List.forall_mem_cons.mpr ⟨hpart, fun other hother => hpart.trans (hactive other hother)⟩
    cases h with
    | direct h htells =>
      obtain ⟨_, t', hrun, hproceeds, rfl⟩ := marshalTo_of_tells depth h htells hactive
      exact ⟨_, t', hrun, hproceeds, .refl _⟩
    | list h hbody hlength hbefore hitems =>
      have hchosen : chosen? t.guest id = some .iterable := by
        rw [h.chosen?_eq (by rw [hbody]; rfl) (by rw [hbody]; trivial)]
        simp [wrapped?, isDict, isText, text?, hbody, Body.isIterable]
      refine marshalTo_of_untouched h (by rw [hbody]; rfl) hactive (.of_chosen hchosen fun t₁ ht₁ => ?_)
      have hproceeds₁ := ht₁.guest.relax (W := W)
      refine items_returns (h.proceeds hproceeds₁) (by rw [h.body_eq hproceeds₁, hbody])
        (List.forall₂_iff_zip.mpr ⟨by simpa using hlength, fun {item part} hpair t₂ ht₂ => ?_⟩)
      obtain ⟨hitem, hpart⟩ := List.of_mem_zip hpair
      refine ih ((hitems _ hpair).proceeds (hproceeds₁.trans ht₂.guest.relax)) (hbuilt.items part hpart)
        (hinner (ht₁.trans ht₂) (hbefore item hitem)) ?_
      exact Nat.lt_of_lt_of_le (hbefore item hitem) (Nat.le_of_lt_succ hdepth)
    | @map _ entries m h hbody hlength hbefore hkeys hvalues =>
      have hchosen : chosen? t.guest id = some .mapping := by
        rw [h.chosen?_eq (by rw [hbody]; rfl) (by rw [hbody]; trivial)]
        simp [wrapped?, isDict, hbody]
      refine marshalTo_of_untouched h (by rw [hbody]; rfl) hactive (.of_chosen hchosen fun t₁ ht₁ => ?_)
      have hproceeds₁ := ht₁.guest.relax (W := W)
      refine mapping_returns (h.proceeds hproceeds₁) (by rw [h.body_eq hproceeds₁, hbody]) hbuilt.orderly.distinct
        (List.forall₂_iff_zip.mpr ⟨hlength, fun {entry pair} hpair => ?_⟩)
      obtain ⟨hentry, hpart⟩ := List.of_mem_zip hpair
      have hdepth' := Nat.le_of_lt_succ hdepth
      refine ⟨fun t₂ ht₂ => ?_, fun t₂ ht₂ => ?_⟩
      · have hproceeds₂ := hproceeds₁.trans ht₂.guest.relax
        obtain ⟨huntouched, htells⟩ := hkeys _ hpair
        have hkey := (hbefore entry hentry).1
        obtain ⟨depth, rfl⟩ : ∃ below, depth = below + 1 := Nat.exists_eq_succ_of_ne_zero (by omega)
        exact marshalTo_of_tells depth (huntouched.proceeds hproceeds₂) (by rwa [huntouched.body_eq hproceeds₂])
          (hinner (ht₁.trans ht₂) hkey)
      · refine ih ((hvalues _ hpair).proceeds (hproceeds₁.trans ht₂.guest.relax))
          (hbuilt.orderly.parts pair hpart).2 (hinner (ht₁.trans ht₂) (hbefore entry hentry).2) ?_
        exact Nat.lt_of_lt_of_le (hbefore entry hentry).2 hdepth'

/-- An object that stands for a value is converted to a value like it. -/
theorem marshalOrHandle_returns (h : t.guest.Stands W id v) (hbuilt : v.Built) (hactive : t.active = []) :
    Returns t (marshalOrHandle standard id) v.Alike := by
  have hheld := h.untouched.holds
  have hdepth : id.index < depth t.guest := by
    unfold Holds at hheld
    unfold depth
    omega
  obtain ⟨v', t', hrun, hproceeds, halike⟩ := marshalTo_returns (depth t.guest) h hbuilt (by simp [hactive]) hdepth
  refine ⟨v', t', ?_, hproceeds, halike⟩
  simp only [marshalOrHandle, orHandle, marshal, bind_run, get_run, tryCatch_run, hrun]

/-- An object that tells a value by itself is converted to that. -/
theorem marshalOrHandle_of_tells (h : t.guest.IsUntouched W id) (htells : (t.guest.body id).Tells v)
    (hactive : t.active = []) : Returns t (marshalOrHandle standard id) (· = v) := by
  obtain ⟨v', t', hrun, hproceeds, hv⟩ :=
    marshalTo_of_tells (2 * t.guest.heap.size + 1) h htells (by simp [hactive])
  refine ⟨v', t', ?_, hproceeds, hv⟩
  simp only [marshalOrHandle, orHandle, marshal, depth, bind_run, get_run, tryCatch_run, hrun]

end Outbound
end ScriptHost
