import Mathlib.Data.Finset.Card
import Mathlib.Data.Finset.Range
import ScriptHost.Proofs.Convert.Holdings
import ScriptHost.Proofs.Convert.OrdinaryGraph

/-! Conversion as the unfolding of a graph: an object is converted in full wherever it is met, and replaced by
a handle only inside itself, by its mark, for want of a conversion, or for equal keys. -/
namespace ScriptHost

theorem Identity.index_injective : Function.Injective Identity.index := by
  rintro ⟨_⟩ ⟨_⟩ rfl
  rfl

/-- The value of a mapping with some entries: a handle if two of its keys are equal. -/
def Value.ofMapping (id : Identity) (entries : List (Value × Value)) : Value :=
  if AreDistinct entries then .map (ValueMap.ofEntries entries) else .handle id

/-- The value of an object of some shape, made of the values of its parts. -/
def Shape.value (id : Identity) (inner : Identity → Value) : Shape → Value
  | .kept => .handle id
  | .scalar v => v
  | .sequence items => .list (items.map inner)
  | .mapping entries => .ofMapping id (entries.map fun entry => (inner entry.1, inner entry.2))

/-- The tree that an object unfolds to, where the objects on a path from the root are being unfolded. -/
def Guest.unfolding (g : Guest) (path : List Identity) (id : Identity) : Value :=
  if _ : g.Holds id ∧ id ∉ path then (g.shape id).value id fun part => g.unfolding (id :: path) part
  else .handle id
termination_by (Finset.range g.heap.size \ (path.map Identity.index).toFinset).card
decreasing_by
  obtain ⟨hheld, hout⟩ := ‹g.Holds id ∧ id ∉ path›
  have hnew : id.index ∉ path.map Identity.index := fun hmem =>
    hout ((List.mem_map_of_injective Identity.index_injective).mp hmem)
  have hin : id.index ∈ Finset.range g.heap.size \ (path.map Identity.index).toFinset :=
    Finset.mem_sdiff.mpr ⟨Finset.mem_range.mpr hheld, by simpa using hnew⟩
  rw [List.map_cons, List.toFinset_cons, Finset.sdiff_insert]
  exact Finset.card_erase_lt_of_mem hin

theorem Guest.unfolding_of_new {g : Guest} {path : List Identity} {id : Identity} (hheld : g.Holds id)
    (hnew : id ∉ path) : g.unfolding path id = (g.shape id).value id (g.unfolding (id :: path)) := by
  rw [unfolding, dif_pos ⟨hheld, hnew⟩]

theorem Guest.unfolding_of_met {g : Guest} {path : List Identity} {id : Identity} (hmet : id ∈ path) :
    g.unfolding path id = .handle id := by
  rw [unfolding, dif_neg fun h => h.2 hmet]

/-! ### Mappings -/

/-- The value of a mapping of which some entries are in a map already. -/
def Value.ofRest (id : Identity) : ValueMap → List (Value × Value) → Value
  | m, [] => .map m
  | m, entry :: rest => if m.contains entry.1 then .handle id else ofRest id (m.adding entry.1 entry.2) rest

private theorem ofRest_eq (id : Identity) {m : ValueMap} (hm : m.Filed Value.keyHash)
    (hd : Value.AreDistinct m.toList) (rest : List (Value × Value)) : Value.ofRest id m rest =
      if Value.AreDistinct (m.toList ++ rest)
      then .map (rest.foldl (fun (m : ValueMap) entry => m.adding entry.1 entry.2) m) else .handle id := by
  induction rest generalizing m with
  | nil => rw [List.append_nil, if_pos hd, Value.ofRest, List.foldl_nil]
  | cons entry rest ih =>
    rw [Value.ofRest]
    by_cases hc : m.contains entry.1 = true
    · rw [if_pos hc, if_neg]
      intro hall
      rw [ValueMap.contains_eq_false hm hall] at hc
      cases hc
    · have hnew : m.contains entry.1 = false := by simpa using hc
      have htoList := ValueMap.toList_adding hnew entry.2
      rw [if_neg hc, ih (ValueMap.filed_adding hm entry.1 entry.2), htoList, List.append_assoc,
        List.singleton_append, List.foldl_cons]
      rw [htoList]
      exact ValueMap.areDistinct_adding hm hd hnew

theorem ofRest_withCapacity (id : Identity) (entries : List (Value × Value)) :
    Value.ofRest id (Keyed.withCapacity entries.length) entries = .ofMapping id entries := by
  rw [ofRest_eq id (Keyed.filed_withCapacity _ _) .nil, Keyed.toList_withCapacity, List.nil_append]
  rfl

/-! ### Conversions that answer -/

variable {n : Identity} {g₀ : Guest} {objects : Identity → Prop}

namespace Outbound
open Stepping Guest
variable {α β : Type} {K : Custody n} {t₀ t : Transfer} {held : List Identity}

/-- A computation that answers with something and changes no more of a crossing than the handles it gains. -/
def Gives (K : Custody n) (t : Transfer) (run : TransferM α) (a : α) : Prop :=
  ∃ held t', run t = .ok a t' ∧ t.Gains K held t'

namespace Gives

theorem pure (ht : t.Sound K) (a : α) : Gives K t (Pure.pure a) a := ⟨[], t, rfl, .refl ht⟩

theorem bind {run : TransferM α} {next : α → TransferM β} {a : α} {b : β} (h : Gives K t run a)
    (hnext : ∀ t', t'.Sound K → K.later t.guest t'.guest → t'.active = t.active → Gives K t' (next a) b) :
    Gives K t (run >>= next) b := by
  obtain ⟨held, t', hrun, hgains⟩ := h
  obtain ⟨held', t'', hrun', hgains'⟩ := hnext t' hgains.sound hgains.keeps.later hgains.keeps.active
  exact ⟨held ++ held', t'', by simp [hrun, hrun'], hgains.trans hgains'⟩

theorem guest {run : GuestM α} {answer : Guest → α → Prop} {a : α} {g' : Guest} (ht : t.Sound K)
    (hcalm : K.Calm t.guest run answer) (hrun : GuestM.atTop run t.guest = .ok a g') :
    Gives K t (TransferM.guest run) a := by
  have hguest : TransferM.guest run t = .ok a { t with guest := g' } := by rw [TransferM.guest_run, hrun]
  exact ⟨[], _, hguest, ((guest_gains (.refl ht) hcalm).at_ok hguest).1⟩

theorem record (ht : t.Sound K) (level : Level) (source : Source) (message : String) :
    Gives K t (TransferM.record level source message) ⟨⟩ := by
  obtain ⟨t', hrun, hgains⟩ := record_gains level source message (.refl ht)
  exact ⟨[], t', hrun, hgains⟩

theorem handleFor (ht : t.Sound K) (id : Identity) : Gives K t (handleFor id) (.handle id) := by
  obtain ⟨t', hrun, hgains⟩ := handleFor_gains id (.refl ht)
  exact ⟨_, t', hrun, hgains⟩

/-- An object is in progress while its conversion runs. -/
theorem whileActive {id : Identity} {run : TransferM Value} {v : Value}
    (h : Gives K { t with active := id :: t.active } run v) : Gives K t (whileActive id run) v := by
  obtain ⟨held, t', hrun, hgains⟩ := h
  exact ⟨held, _, by simp [Outbound.whileActive, attempt_run, hrun], hgains.afterwards⟩

end Gives

/-! ### Collections -/

variable {self : Identity → TransferM Value} {path : List Identity} {inner : Identity → Value}
variable {kept : Text → Prop} {id : Identity}

/-- Each object of a graph converts to its value, wherever it is met on a path. -/
def Converting (K : Custody n) (objects : Identity → Prop) (path : List Identity)
    (self : Identity → TransferM Value) (inner : Identity → Value) : Prop :=
  ∀ id t, objects id → t.Sound K → t.active = path → Gives K t (self id) (inner id)

section
variable (hk : g₀.WellKept n) (hgraph : g₀.IsOrdinaryGraph n objects)
include hgraph

private theorem iterate_gives (hself : Converting (custodyFrom hk kept) objects path self inner)
    {items : Array Identity} (hbody : g₀.body id = .list items ∨ g₀.body id = .tuple items) (hid : objects id)
    (hitems : ∀ item ∈ items.toList, objects item) (left place : Nat) (hleft : items.size ≤ place + left)
    (ht : t.Sound (custodyFrom hk kept)) (hactive : t.active = path) :
    Gives (custodyFrom hk kept) t (iterate self left (.places id place))
      ((items.toList.drop place).map inner) := by
  have hheld := (hgraph.ordinary id hid).holds
  have hne := (hgraph.ordinary id hid).apart
  induction left generalizing place t with
  | zero =>
    rw [List.drop_eq_nil_of_le (by simpa using hleft)]
    exact .pure ht []
  | succ left ih =>
    have hlater : g₀.Later n t.guest := ht.state
    have hbody' : t.guest.body id = .list items ∨ t.guest.body id = .tuple items := by
      rwa [hlater.body_eq hheld hne]
    unfold Gives
    rw [iterate_of_sequence hbody']
    cases hitem : items[place]? with
    | none =>
      rw [List.drop_eq_nil_of_le (by simpa using hitem)]
      exact Gives.pure ht []
    | some item =>
      have hmem : objects item := hitems item (List.mem_of_mem_drop (drop_of_getElem? hitem ▸ List.mem_cons_self))
      rw [drop_of_getElem? hitem, List.map_cons]
      exact (hself item t hmem ht hactive).bind fun t₁ ht₁ _ ha₁ =>
        (ih (place + 1) (by omega) ht₁ (ha₁.trans hactive)).bind fun t₂ ht₂ _ _ => .pure ht₂ _

end

private theorem entries_gives (hself : Converting K objects path self inner) (id : Identity)
    (pairs : List (Identity × Identity)) (hpairs : ∀ pair ∈ pairs, objects pair.1 ∧ objects pair.2)
    (m : ValueMap) (h : t₀.Gains K held t) (hactive : t.active = path) : ∃ held' t',
      entries self id t₀.acquired.size m (pairs.map fun pair => .pair pair.1 pair.2) t =
        .ok (Value.ofRest id m (pairs.map fun pair => (inner pair.1, inner pair.2))) t' ∧
      t₀.Gains K held' t' := by
  induction pairs generalizing m t held with
  | nil => exact ⟨held, t, rfl, h⟩
  | cons pair rest ih =>
    obtain ⟨⟨hkey, hvalue⟩, hrest⟩ := List.forall_mem_cons.mp hpairs
    obtain ⟨more, t₁, hrun₁, hgains₁⟩ := hself pair.1 t hkey h.sound hactive
    have hpair : TransferM.guest (GuestM.pairOf (.pair pair.1 pair.2)) t = .ok (pair.1, pair.2) t := rfl
    simp only [List.map_cons, entries, bind_run, hpair, hrun₁, Value.ofRest]
    split
    · obtain ⟨t₂, hrun₂, hgains₂⟩ := record_gains .warn .marshal ("[Marshal] mapping " ++ toString id ++
        " has distinct keys converting to " ++ (inner pair.1).display ++ "; returning a handle instead")
        (h.trans hgains₁)
      obtain ⟨t₃, hrun₃, hgains₃⟩ := degrade_gains id hgains₂
      exact ⟨[id], t₃, by simp only [bind_run, hrun₂, hrun₃], hgains₃⟩
    · obtain ⟨more', t₂, hrun₂, hgains₂⟩ :=
        hself pair.2 t₁ hvalue hgains₁.sound (hgains₁.keeps.active.trans hactive)
      have hactive₂ := hgains₂.keeps.active.trans (hgains₁.keeps.active.trans hactive)
      obtain ⟨held', t₃, hrun₃, hgains₃⟩ :=
        ih hrest (m.adding (inner pair.1) (inner pair.2)) ((h.trans hgains₁).trans hgains₂) hactive₂
      exact ⟨held', t₃, by simp only [bind_run, hrun₂, hrun₃], hgains₃⟩

/-! ### Objects by their shapes -/

section
variable (hk : g₀.WellKept n) (hgraph : g₀.IsOrdinaryGraph n objects)
include hgraph

private theorem mapping_gives (hself : Converting (custodyFrom hk kept) objects path self inner) {entries : Dict}
    (hexact : g₀.home? id = none) (hbody : g₀.body id = .dict entries) (hid : objects id)
    (hparts : ∀ entry ∈ entries, objects entry.key ∧ objects entry.value)
    (ht : t.Sound (custodyFrom hk kept)) (hactive : t.active = path) :
    Gives (custodyFrom hk kept) t (mapping self id)
      (.ofMapping id (entries.map fun entry => (inner entry.key, inner entry.value))) := by
  have hlater : g₀.Later n t.guest := ht.state
  have hheld := (hgraph.ordinary id hid).holds
  have hne := (hgraph.ordinary id hid).apart
  have hexact' : t.guest.home? id = none := by rw [hlater.home?_eq hheld, hexact]
  have hbody' : t.guest.body id = .dict entries := by rw [hlater.body_eq hheld hne, hbody]
  have hrun := GuestM.mappingItems_of_dict hexact' hbody' t.guest.topContext
  have hguest : TransferM.guest (GuestM.mappingItems id) t =
      .ok (entries.map fun entry => .pair entry.key entry.value) t := by
    rw [TransferM.guest_run, GuestM.atTop_eq, hrun]
  obtain ⟨held, t', hentries, hgains⟩ := entries_gives hself id
    (entries.map fun entry => (entry.key, entry.value)) (by simpa using hparts) (Keyed.withCapacity entries.length) (.refl ht) hactive
  refine ⟨held, t', ?_, hgains⟩
  simp only [List.map_map, Function.comp_def] at hentries
  simp only [mapping, bind_run, get_run, hguest, List.length_map, hentries]
  have hvalue := ofRest_withCapacity id (entries.map fun entry => (inner entry.key, inner entry.value))
  rw [List.length_map] at hvalue
  rw [hvalue]

private theorem items_gives (hself : Converting (custodyFrom hk kept) objects path self inner)
    {items : Array Identity} (hexact : g₀.home? id = none)
    (hbody : g₀.body id = .list items ∨ g₀.body id = .tuple items) (hid : objects id)
    (hitems : ∀ item ∈ items.toList, objects item) (ht : t.Sound (custodyFrom hk kept))
    (hactive : t.active = path) :
    Gives (custodyFrom hk kept) t (Outbound.items self id) (.list (items.toList.map inner)) := by
  have hlater : g₀.Later n t.guest := ht.state
  have hheld := (hgraph.ordinary id hid).holds
  have hne := (hgraph.ordinary id hid).apart
  have hexact' : t.guest.home? id = none := by rw [hlater.home?_eq hheld, hexact]
  have hbody' : t.guest.body id = .list items ∨ t.guest.body id = .tuple items := by
    rwa [hlater.body_eq hheld hne]
  obtain ⟨held, t', hrun, hgains⟩ := iterate_gives hk hgraph hself hbody hid hitems
    (max mostItems items.size) 0 (by omega) ht hactive
  refine ⟨held, t', ?_, hgains⟩
  simp only [items_of_sequence hexact' hbody', bind_run, hrun, List.drop_zero, pure_run]

end

private theorem convert_of_chosen {g : Guest} {conversion : OutboundConversion} {v : Value}
    (hchosen : chosen? g id = some conversion) (ht : t.Sound K)
    (happly : ∀ t', t'.Sound K → K.later t.guest t'.guest → t'.active = t.active →
      Gives K t' (apply self conversion id) v) :
    Gives K t (convert self (resolve standard g id) id) v := by
  obtain ⟨c, hc, rfl⟩ := Option.map_eq_some_iff.mp hchosen
  rw [hc]
  exact (Gives.record ht _ _ _).bind happly

private theorem convert_of_unchosen {g : Guest} (hchosen : chosen? g id = none) :
    convert self (resolve standard g id) id = convert self none id := by
  rw [Option.map_eq_none_iff.mp hchosen]

/-- An integer that an object stands for as an index converts to its value. -/
def ConvertsIntegers (K : Custody n) (path : List Identity) (self : Identity → TransferM Value) : Prop :=
  ∀ id k t, t.guest.IsOwnInteger n id → t.guest.body id = .int k → t.Sound K → t.active = path →
    Gives K t (self id) (.integer k)

section
variable (hk : g₀.WellKept n) (hgraph : g₀.IsOrdinaryGraph n objects)
include hgraph

private theorem unwrap_gives (hint : ConvertsIntegers (custodyFrom hk kept) path self) {k : Int}
    (hid : objects id) (ht : t.Sound (custodyFrom hk kept)) (hactive : t.active = path) {answer : Guest → GuestM.Unwrapped → Prop}
    (hcalm : (custodyFrom hk kept).Calm t.guest (GuestM.unwrap id) answer) (hbottom : t.guest.scalar? id = none)
    (hoffers : t.guest.offersIndex id = true) (hreply : t.guest.indexReply? id = some k) :
    Gives (custodyFrom hk kept) t (convert self none id) (.integer k) := by
  obtain ⟨next, g', hrun, _, hnext, hbody⟩ :=
    GuestM.unwrap_of_index hk ht.state (hgraph.ordinary id hid).holds hbottom hoffers hreply
  have hguest : TransferM.guest (GuestM.unwrap id) t = .ok (.other next) { t with guest := g' } := by
    rw [TransferM.guest_run, hrun]
  have hgains := ((guest_gains (.refl ht) hcalm).at_ok hguest).1
  obtain ⟨held, t', hself, hgains'⟩ := hint next k { t with guest := g' } hnext hbody hgains.sound hactive
  exact ⟨held, t', by simp only [convert, bind_run, hguest, hself], by simpa using hgains.trans hgains'⟩

/-- What a recognised object converts to is the value of its shape. -/
private theorem convert_gives (hid : objects id)
    (hself : (∀ k, g₀.body id ≠ .int k) → Converting (custodyFrom hk kept) objects path self inner)
    (hint : (∀ k, g₀.body id ≠ .int k) → ConvertsIntegers (custodyFrom hk kept) path self)
    {g : Guest} (hlater : g₀.Later n g) (hr : g.Recognised id (g.shape id)) (ht : t.Sound (custodyFrom hk kept))
    (hlater' : g.Later n t.guest) (hactive : t.active = path) :
    Gives (custodyFrom hk kept) t (convert self (resolve standard g id) id) ((g.shape id).value id inner) := by
  have ho₀ := hgraph.ordinary id hid
  have hne := ho₀.apart
  have ho := ho₀.later hk hlater
  have hparts := hgraph.parts id hid
  rw [← ho₀.shape_eq hk hlater] at hparts
  have hbody₀ := hlater.body_eq ho₀.holds hne
  have hscalar : t.guest.scalar? id = g.scalar? id := by rw [scalar?, hlater'.body_eq ho.holds hne, scalar?]
  have hstable : Outbound.chosen? g id = none → t.guest.offersIndex id = g.offersIndex id := fun hchosen => by
    rw [ho.offersIndex_eq (isMarked_of_unchosen hchosen) hlater']
  generalize hs : g.shape id = s at hr hparts
  cases hr with
  | wrapped v hchosen hwrapped =>
    refine convert_of_chosen hchosen ht fun t' ht' hlater'' _ => ?_
    rw [wrapped?, ← (hlater'.trans hlater'').body_eq ho.holds hne, ← wrapped?] at hwrapped
    exact ⟨[], t', by simp [apply, hwrapped, Shape.value], .refl ht'⟩
  | marked hchosen => exact convert_of_chosen hchosen ht fun t' ht' _ _ => .handleFor ht' id
  | sequence items hchosen hexact hbody =>
    rw [hlater.home?_eq ho₀.holds] at hexact
    rw [hbody₀] at hbody
    have hno : ∀ k, g₀.body id ≠ .int k := fun k hk => by
      rw [hk] at hbody
      rcases hbody with h | h <;> cases h
    exact convert_of_chosen hchosen ht fun t' ht' _ ha =>
      items_gives hk hgraph (hself hno) hexact hbody hid hparts ht' (ha.trans hactive)
  | mapping entries hchosen hexact hbody =>
    rw [hlater.home?_eq ho₀.holds] at hexact
    rw [hbody₀] at hbody
    have hentries : ∀ entry ∈ entries, objects entry.key ∧ objects entry.value := fun entry hentry =>
      ⟨hparts _ (by simpa [Shape.parts] using ⟨entry, hentry, .inl rfl⟩),
        hparts _ (by simpa [Shape.parts] using ⟨entry, hentry, .inr rfl⟩)⟩
    simp only [Shape.value, List.map_map, Function.comp_def]
    exact convert_of_chosen hchosen ht fun t' ht' _ ha =>
      mapping_gives hk hgraph (hself fun k => by simp [hbody]) hexact hbody hid hentries ht' (ha.trans hactive)
  | integer k hchosen hbody =>
    refine convert_of_chosen hchosen ht fun t' ht' hlater'' _ => ?_
    have hplain : t'.guest.plainInt? id = some k := by
      rw [plainInt?, (hlater'.trans hlater'').body_eq ho.holds hne, hbody]
    exact ⟨[], t', by simp [apply, hplain, Shape.value], .refl ht'⟩
  | scalar v hchosen hbottom =>
    rw [convert_of_unchosen hchosen]
    have hcalm := (ordinaryGraph hk hgraph kept).unwrap hlater (.inl hid) hchosen hlater'
    refine (Gives.guest ht hcalm (GuestM.unwrap_of_scalar (v := v) (by rw [hscalar, hbottom]) _)).bind ?_
    exact fun t' ht' _ _ => .pure ht' v
  | index k hchosen hbottom hoffers hreply =>
    rw [convert_of_unchosen hchosen]
    have hcalm := (ordinaryGraph hk hgraph kept).unwrap hlater (.inl hid) hchosen hlater'
    rw [hlater.indexReply?_eq hk ho₀.holds, ← Later.indexReply?_eq ht.state hk ho₀.holds] at hreply
    have hno : ∀ k, g₀.body id ≠ .int k := fun k hk => by
      rw [← hbody₀] at hk
      simp [scalar?, hk] at hbottom
    exact unwrap_gives hk hgraph (hint hno) hid ht hactive hcalm (by rw [hscalar, hbottom])
      (by rw [hstable hchosen, hoffers]) hreply
  | unknown hchosen hbottom hoffers =>
    rw [convert_of_unchosen hchosen]
    have hcalm := (ordinaryGraph hk hgraph kept).unwrap hlater (.inl hid) hchosen hlater'
    have hrun : GuestM.unwrap id t.guest.topContext t.guest = .ok .unchanged t.guest :=
      GuestM.unwrap_of_opaque (by rw [hscalar, hbottom]) (by rw [hstable hchosen, hoffers]) _
    exact (Gives.guest ht hcalm hrun).bind fun t' ht' _ _ => .handleFor ht' id

/-- To be asked for its mark changes nothing about the conversion of an object. -/
private theorem dispatch_run (self : Identity → TransferM Value) (hid : IsGraphObject n objects t.guest id)
    (ht : t.Sound (custodyFrom hk kept)) :
    ∃ t', t.Gains (custodyFrom hk kept) [] t' ∧
      dispatch self standard id t = convert self (resolve standard t.guest id) id t' := by
  obtain ⟨_, g', hrun, _⟩ := (hid.isOrdinary hk hgraph ht.state).mark t.guest (.refl n t.guest)
  have hcalm := (ordinaryGraph hk hgraph kept).mark ht.state hid
  unfold dispatch
  simp only [bind_run, get_run]
  split
  · have hguest : TransferM.guest (GuestM.askForMark id) t = .ok ⟨⟩ { t with guest := g' } := by
      rw [TransferM.guest_run, hrun]
    exact ⟨_, ((guest_gains (.refl ht) hcalm).at_ok hguest).1, by rw [bind_run, hguest]⟩
  · exact ⟨t, .refl ht, rfl⟩

private theorem dispatch_gives {v : Value} (hid : IsGraphObject n objects t.guest id)
    (ht : t.Sound (custodyFrom hk kept)) (hconvert : ∀ t', t'.Sound (custodyFrom hk kept) →
      t.guest.Later n t'.guest → t'.active = t.active →
      Gives (custodyFrom hk kept) t' (convert self (resolve standard t.guest id) id) v) :
    Gives (custodyFrom hk kept) t (dispatch self standard id) v := by
  obtain ⟨t₁, hgains₁, hrun₁⟩ := dispatch_run hk hgraph self hid ht
  obtain ⟨held, t₂, hrun₂, hgains₂⟩ := hconvert t₁ hgains₁.sound hgains₁.keeps.later hgains₁.keeps.active
  exact ⟨held, t₂, by rw [hrun₁, hrun₂], by simpa using hgains₁.trans hgains₂⟩

/-- An integer of the interpreter's own class carries no mark, so it converts to its value. -/
private theorem converts_integers (depth : Nat)
    (hpath : ∀ other ∈ path, objects other ∧ ∀ k, g₀.body other ≠ .int k) :
    ConvertsIntegers (custodyFrom hk kept) path (marshalTo standard (depth + 1)) := by
  intro id k t hint hbody ht hactive
  have hlater : g₀.Later n t.guest := ht.state
  have hout : t.active.contains id = false := by
    rw [hactive, List.contains_eq_mem, decide_eq_false_iff_not]
    intro hmem
    obtain ⟨hother, hne⟩ := hpath id hmem
    rw [hlater.body_eq (hgraph.ordinary id hother).holds hint.apart] at hbody
    exact hne k hbody
  have hchosen : chosen? t.guest id = some .integer := by
    rw [chosen?_eq, hint.isMarked_eq]
    simp [wrapped?, countsAsMapping, special?, hint.exact, isMapping, isText, text?, isIterable, plainInt?, hbody,
      Body.isIterable]
  have hstart : Gives (custodyFrom hk kept) { t with active := id :: t.active }
      (dispatch (marshalTo standard depth) standard id) (.integer k) := by
    refine dispatch_gives hk hgraph (.inr hint) (ht.withLog _ _) ?_
    intro t' ht' hlater' _
    refine convert_of_chosen hchosen ht' fun t'' ht'' hlater'' _ => ?_
    have hplain : t''.guest.plainInt? id = some k := by
      rw [plainInt?, (hlater'.trans hlater'').body_eq hint.holds hint.apart, hbody]
    exact ⟨[], t'', by simp [apply, hplain], .refl ht''⟩
  obtain ⟨held, t', hrun, hgains⟩ := hstart.whileActive
  refine ⟨held, t', ?_, hgains⟩
  rw [marshalTo]
  simp only [bind_run, get_run, hout, Bool.false_eq_true, ↓reduceIte, hrun]

/-- Objects in progress are different ones, so there are no more of them than objects. -/
private theorem length_path_le (hpath : path.Nodup) (hheld : ∀ id ∈ path, objects id) :
    path.length ≤ g₀.heap.size := by
  have hsubset : (path.map Identity.index).toFinset ⊆ Finset.range g₀.heap.size := by
    intro index hindex
    obtain ⟨id, hid, rfl⟩ := List.mem_map.mp (List.mem_toFinset.mp hindex)
    exact Finset.mem_range.mpr (hgraph.ordinary id (hheld id hid)).holds
  have hcard := Finset.card_le_card hsubset
  rwa [List.toFinset_card_of_nodup (hpath.map Identity.index_injective), List.length_map,
    Finset.card_range] at hcard

/-- Where nothing is misread, conversions at a sufficient depth unfold the graph below a path. The objects on
the path are no integers, so an integer that an index gives is none of them. -/
private theorem marshalTo_gives (hclear : ∀ id, objects id → g₀.isMisread id = false) {depth : Nat}
    (hpath : path.Nodup) (hheld : ∀ id ∈ path, objects id ∧ ∀ k, g₀.body id ≠ .int k)
    (hdepth : g₀.heap.size + 2 ≤ depth + path.length) (hid : objects id) (ht : t.Sound (custodyFrom hk kept))
    (hactive : t.active = path) :
    Gives (custodyFrom hk kept) t (marshalTo standard depth id) (g₀.unfolding path id) := by
  induction depth generalizing path id t with
  | zero =>
    have hlength := length_path_le hgraph hpath fun id hmem => (hheld id hmem).1
    omega
  | succ depth ih =>
    have ho := hgraph.ordinary id hid
    by_cases hmem : id ∈ path
    · have hin : t.active.contains id = true := by simpa [hactive] using hmem
      obtain ⟨held₁, t₁, hnote, hgains₁⟩ := Gives.record ht .debug .marshal ("[Marshal] " ++ toString id ++
        " contains itself; returning a handle for the inner reference")
      obtain ⟨held₂, t₂, hhandle, hgains₂⟩ := Gives.handleFor hgains₁.sound id
      refine ⟨_, t₂, ?_, hgains₁.trans hgains₂⟩
      rw [marshalTo, unfolding_of_met hmem]
      simp only [bind_run, get_run, hin, ↓reduceIte, hnote, hhandle]
    · have hout : t.active.contains id = false := by simpa [hactive] using hmem
      have hpath' : (id :: path).Nodup := List.nodup_cons.mpr ⟨hmem, hpath⟩
      have hlength := length_path_le hgraph hpath' (List.forall_mem_cons.mpr ⟨hid, fun id h => (hheld id h).1⟩)
      rw [List.length_cons] at hlength
      obtain ⟨left, rfl⟩ : ∃ left, depth = left + 1 := ⟨depth - 1, by omega⟩
      have hself : (∀ k, g₀.body id ≠ .int k) → Converting (custodyFrom hk kept) objects (id :: path)
          (marshalTo standard (left + 1)) (g₀.unfolding (id :: path)) := fun hno other t' hother ht' ha =>
        ih hpath' (List.forall_mem_cons.mpr ⟨⟨hid, hno⟩, hheld⟩) (by rw [List.length_cons]; omega) hother ht' ha
      have hlater : g₀.Later n t.guest := ht.state
      have hmisread : t.guest.isMisread id = false := by rw [ho.isMisread_eq hk hlater, hclear id hid]
      have hr := (ho.later hk hlater).recognised hmisread
      have hstart : Gives (custodyFrom hk kept) { t with active := id :: t.active }
          (dispatch (marshalTo standard (left + 1)) standard id) (g₀.unfolding path id) := by
        refine dispatch_gives hk hgraph (.inl hid) (ht.withLog _ _) ?_
        intro t' ht' hlater' ha
        rw [unfolding_of_new ho.holds hmem, ← ho.shape_eq hk hlater]
        exact convert_gives hk hgraph hid hself
          (fun hno => converts_integers hk hgraph left (List.forall_mem_cons.mpr ⟨⟨hid, hno⟩, hheld⟩))
          hlater hr ht' hlater' (by rw [ha, hactive])
      obtain ⟨held, t', hrun, hgains⟩ := hstart.whileActive
      refine ⟨held, t', ?_, hgains⟩
      rw [marshalTo]
      simp only [bind_run, get_run, hout, Bool.false_eq_true, ↓reduceIte, hrun]

/-- A misread object is refused when its class turns out to have nothing to iterate over it, or to give an
integer for it. -/
private theorem convert_raises (self : Identity → TransferM Value) (hid : objects id) {g : Guest}
    (hlater : g₀.Later n g) (hmisread : g.isMisread id = true) (ht : t.Sound (custodyFrom hk kept))
    (hlater' : g.Later n t.guest) : ∃ f t', convert self (resolve standard g id) id t = .error f t' := by
  have ho₀ := hgraph.ordinary id hid
  have ho := ho₀.later hk hlater
  rcases ho.misread hmisread with ⟨⟨hm, hc⟩, ⟨hchosen, hiter⟩ | ⟨hchosen, hbottom, hoffers, hnone⟩⟩
  · obtain ⟨c, hfound, hiterable⟩ := Option.map_eq_some_iff.mp hchosen
    obtain ⟨_, t₁, hnote, hgains⟩ := Gives.record ht .trace .marshal
      ("[Marshal] outbound " ++ toString id ++ " via '" ++ c.name ++ "'")
    have hlater₁ : g.Later n t₁.guest := hlater'.trans hgains.keeps.later
    rw [← ho.isIterable_eq hm hlater₁] at hiter
    rw [← ho.isMarked_eq hlater₁] at hm
    rw [← hlater₁.home?_eq ho.holds] at hc
    obtain ⟨f, hcursor⟩ := GuestM.cursor_of_misread (ho₀.later hk (hlater.trans hlater₁)) hm hc hiter _
    have hguest : TransferM.guest (GuestM.cursor id) t₁ = .error f t₁ := by
      rw [TransferM.guest_run, GuestM.atTop_eq, hcursor]
    refine ⟨f, t₁, ?_⟩
    rw [hfound]
    simp only [convert, bind_run, hnote, hiterable, apply, Outbound.items, hguest]
  · have hlater₀ := hlater.trans hlater'
    rw [scalar?, ← hlater'.body_eq ho.holds ho.apart] at hbottom
    rw [← ho.offersIndex_eq hm hlater'] at hoffers
    rw [hlater.special?_eq hk ho₀.holds (by decide), ← hlater₀.special?_eq hk ho₀.holds (by decide)] at hnone
    obtain ⟨f, g', hrun, _⟩ := GuestM.unwrap_of_misread hk hlater₀ ho₀.holds hbottom hoffers hnone
    have hguest : TransferM.guest (GuestM.unwrap id) t = .error f { t with guest := g' } := by
      rw [TransferM.guest_run, hrun]
    exact ⟨f, _, by rw [convert_of_unchosen hchosen, convert, bind_run, hguest]⟩

private theorem marshalTo_raises (hid : objects id) (hmisread : g₀.isMisread id = true) (depth : Nat)
    (ht : t.Sound (custodyFrom hk kept)) (hactive : t.active = []) :
    ∃ f t', marshalTo standard (depth + 1) id t = .error f t' := by
  have hlater : g₀.Later n t.guest := ht.state
  have hmisread' : t.guest.isMisread id = true := by
    rw [(hgraph.ordinary id hid).isMisread_eq hk hlater, hmisread]
  obtain ⟨t₁, hgains, hdispatch⟩ := dispatch_run hk hgraph (marshalTo standard depth)
    (t := { t with active := id :: t.active }) (.inl hid) (ht.withLog _ _)
  obtain ⟨f, t₂, hraised⟩ := convert_raises hk hgraph (marshalTo standard depth) hid hlater hmisread' hgains.sound
    hgains.keeps.later
  refine ⟨f, { t₂ with active := t₂.active.erase id }, ?_⟩
  rw [hraised] at hdispatch
  rw [marshalTo]
  simp only [bind_run, get_run, hactive, List.contains_nil, Bool.false_eq_true, ↓reduceIte, whileActive,
    modify_run, attempt_run] at hdispatch ⊢
  rw [hdispatch]
  rfl

end

/-- The objects of a graph all unfold to trees exactly if none of them is misread: if no class answers to the
name of an iteration or of an index that only the class of the class has. -/
theorem marshal_unfolds_iff (hk : t.guest.WellKept t.namespaceDict) (hpositive : t.counts.Positive)
    (hactive : t.active = []) (hgraph : t.guest.IsOrdinaryGraph t.namespaceDict objects) :
    (∀ root, objects root → ∃ t', marshal standard root t = .ok (t.guest.unfolding [] root) t') ↔
      ∀ id, objects id → t.guest.isMisread id = false := by
  have ht : t.Sound (custodyFrom hk fun _ => False) :=
    ⟨rfl, .refl _ _, hpositive, fun _ h => h.elim⟩
  constructor
  · intro hall id hid
    cases hmisread : t.guest.isMisread id with
    | false => rfl
    | true =>
      obtain ⟨f, t₁, hraised⟩ := marshalTo_raises hk hgraph hid hmisread (2 * t.guest.heap.size + 1) ht hactive
      obtain ⟨t₂, hrun⟩ := hall id hid
      have hdeep : marshalTo standard (2 * t.guest.heap.size + 1 + 1) id t = .ok _ t₂ := hrun
      rw [hraised] at hdeep
      cases hdeep
  · intro hclear root hid
    have hdeep : t.guest.heap.size + 2 ≤ depth t.guest + ([] : List Identity).length := by
      rw [depth, List.length_nil]
      omega
    obtain ⟨_, t', hrun, _⟩ := marshalTo_gives hk hgraph hclear .nil (by simp) hdeep hid ht hactive
    exact ⟨t', hrun⟩

/-- A list that holds itself, a tuple twice and an object with an index: the tuple is converted each time. -/
theorem marshal_unfolds_cycle : ∃ t', marshal standard ⟨1⟩ { guest := specimen, namespaceDict := ⟨0⟩ } =
    .ok (.list [.handle ⟨1⟩, .list [.integer 7], .list [.integer 7], .integer 7]) t' := by
  have hclear : ∀ id, IsSpecimenObject id → specimen.isMisread id = false := by
    intro id hid
    simp only [IsSpecimenObject, List.mem_cons, List.not_mem_nil, or_false] at hid
    rcases hid with rfl | rfl | rfl | rfl <;> decide
  have hint : specimen.unfolding [⟨2⟩, ⟨1⟩] ⟨3⟩ = .integer 7 := unfolding_of_new (by decide) (by decide)
  have hindex : specimen.unfolding [⟨1⟩] ⟨4⟩ = .integer 7 := unfolding_of_new (by decide) (by decide)
  have htuple : specimen.unfolding [⟨1⟩] ⟨2⟩ = .list [.integer 7] := by
    have hshape : specimen.shape ⟨2⟩ = .sequence [⟨3⟩] := rfl
    rw [unfolding_of_new (by decide) (by decide), hshape, Shape.value, List.map_singleton, hint]
  have hvalue : specimen.unfolding [] ⟨1⟩ =
      .list [.handle ⟨1⟩, .list [.integer 7], .list [.integer 7], .integer 7] := by
    have hshape : specimen.shape ⟨1⟩ = .sequence [⟨1⟩, ⟨2⟩, ⟨2⟩, ⟨4⟩] := rfl
    rw [unfolding_of_new (by decide) (by decide), hshape, Shape.value]
    simp only [List.map_cons, List.map_nil, unfolding_of_met List.mem_cons_self, htuple, hindex]
  have hall := (marshal_unfolds_iff (t := { guest := specimen, namespaceDict := ⟨0⟩ }) specimen_wellKept
    Counts.positive_empty rfl specimen_isOrdinaryGraph).mpr hclear
  rw [← hvalue]
  exact hall ⟨1⟩ (by decide)

-- An integer whose class is one of a class with an `__iter__` is misread.
example : Guest.isMisread { heap := #[
    { body := .int 5, home := some ⟨1⟩ },
    { body := .classObject specimenClass, home := some ⟨2⟩ },
    { body := .classObject specimenClass, attributes := some ⟨3⟩ },
    { body := .dict [⟨[.text (.ofString "__iter__")], ⟨4⟩, ⟨4⟩⟩] },
    { body := .text (.ofString "__iter__") }] } ⟨0⟩ = true := by decide

end Outbound
end ScriptHost
