import ScriptHost.Proofs.Convert.Recognition
import ScriptHost.Proofs.Convert.Steadiness

/-! The graph of ordinary objects: what the interpreter does on the way from one of them to the next, which
is to make objects of its own at most. -/
namespace ScriptHost
variable {n id : Identity} {g₀ g g' : Guest} {items : Array Identity}

/-! ### Integers that conversions make -/

namespace Guest

/-- An integer of the interpreter's own class, on which nothing is set. -/
structure IsOwnInteger (g : Guest) (n id : Identity) : Prop where
  holds : g.Holds id
  apart : id ≠ n
  exact : g.home? id = none
  bare : (g.object id).attributes = none
  body : ∃ k, g.body id = .int k

theorem IsOwnInteger.ownAttributes?_eq (h : g.IsOwnInteger n id) : g.ownAttributes? id = none := by
  obtain ⟨k, hb⟩ := h.body
  simp only [ownAttributes?, hb, h.bare]

theorem IsOwnInteger.isMarked_eq (h : g.IsOwnInteger n id) : g.isMarked id = false := by
  obtain ⟨k, hb⟩ := h.body
  simp [isMarked, isExact, h.exact, isSettled, hb, ownAttribute?, h.ownAttributes?_eq]

theorem IsOwnInteger.isOrdinary (h : g.IsOwnInteger n id) : g.IsOrdinary n id := by
  obtain ⟨k, hb⟩ := h.body
  have hsettled : isSettled (g.body id) = true := by simp [hb, isSettled]
  have hmark : g.IsSteadilyMarked n id := isSteadilyMarked_of_own h.holds h.apart h.exact hsettled
    fun d hd => by simp [h.ownAttributes?_eq] at hd
  refine ⟨h.holds, h.apart, hmark, fun _ => h.exact, ?_, ?_, ?_⟩
  · intro t ht
    rw [hb] at ht
    cases ht
  · intro _
    simp [hb, IsOwnOrdinary, Body.isIterable]
  · intro home hc
    rw [h.exact] at hc
    cases hc

theorem IsOwnInteger.later (h : g.IsOwnInteger n id) (hlater : g.Later n g') : g'.IsOwnInteger n id where
  holds := hlater.holds h.holds
  apart := h.apart
  exact := by rw [hlater.home?_eq h.holds, h.exact]
  bare := by rw [hlater.object id h.holds h.apart, h.bare]
  body := by
    rw [hlater.body_eq h.holds h.apart]
    exact h.body

end Guest

namespace GuestM
open Stepping Guest

/-! ### Collections -/

theorem cursor_of_sequence (hexact : g.home? id = Option.none)
    (hbody : g.body id = .list items ∨ g.body id = .tuple items) (context : Context) :
    cursor id context g = .ok (.places id 0) g := by
  rcases hbody with hbody | hbody <;> simp [cursor, opening, openingOfData, openBody, hexact, hbody]

/-- An iteration over a list or a tuple gives what stands at one place after the other. -/
theorem advance_of_sequence (hbody : g.body id = .list items ∨ g.body id = .tuple items) (place : Nat)
    (context : Context) : advance (.places id place) context g =
      .ok ((items[place]?).map fun item => (item, .places id (place + 1))) g := by
  rcases hbody with hbody | hbody <;>
    simp [advance, advanceTo, itemAtPlace, keep, hbody]

/-- An object whose class has nothing to start an iteration with is refused. -/
theorem cursor_of_misread (ho : g.IsOrdinary n id) (hm : g.isMarked id = false) (hc : (g.home? id).isSome)
    (hiter : g.isIterable id = true) (context : Context) : ∃ f, cursor id context g = .error f g := by
  obtain ⟨home, hc⟩ := Option.isSome_iff_exists.mp hc
  have hu := ho.unmarked home hc hm
  have hitems : g.hasItems id = false := by
    simp [hasItems, has, entryOf, hc, hu.items hiter]
  exact ⟨_, by simp [cursor, opening, hc, hu.iteration, hitems, notIterable, typeError, raise, classLabel]; rfl⟩

theorem mappingItems_of_dict {entries : Dict} (hexact : g.home? id = Option.none)
    (hbody : g.body id = .dict entries) (context : Context) :
    mappingItems id context g = .ok (entries.map fun entry => .pair entry.key entry.value) g := by
  have htrue : g.isExact id = true := by rw [Guest.isExact, hexact, Option.isNone_none]
  simp [mappingItems, htrue, hbody]

/-! ### Objects without a converter -/

theorem unwrap_of_scalar {v : Value} (h : g.scalar? id = some (.ok v)) (context : Context) :
    unwrap id context g = .ok (.native v) g := by
  simp only [unwrap, reader_bind_run, reader_get_run, h]
  rfl

theorem unwrap_of_opaque (h : g.scalar? id = Option.none) (hoffers : g.offersIndex id = false)
    (context : Context) : unwrap id context g = .ok .unchanged g := by
  simp [unwrap, asIndex, h, hoffers]

private theorem runFunction_of_returned {f : Function} {object : Identity} (hf : f.returned? = some object)
    (title : String) (home : Place) (id : Identity) (context : Context) :
    runFunction title home [id] f context g = .ok object g := by
  induction f with
  | renamed _ _ f ih => exact ih hf
  | feature name count does =>
    cases does with
    | reply answer =>
      cases answer with
      | returns _ =>
        cases hf
        rfl
      | raises => cases hf
    | _ => cases hf
  | raising | increment => cases hf

/-- A function that just returns an object does so. -/
theorem callFor_of_returned (id : Identity) {value object : Identity} {f : Function} {home : Place}
    (hvalue : g.body value = .function f home) (hf : f.returned? = some object) (depth : Nat) (here : Place) :
    callFor value id [] { place := here, call := callTo (depth + 1) } g = .ok object g := by
  have hcall : callTo (depth + 1) here value [id] g = .ok object g := by
    simp only [callTo, bodyOf, reader_bind_run, reader_get_run, reader_pure_run, hvalue]
    exact runFunction_of_returned hf _ _ _ _
  simp only [callFor, bodyOf, reader_bind_run, reader_get_run, reader_pure_run, hvalue, call]
  exact hcall

/-- The integer of an object whose class has a function that just returns it. -/
theorem indexOf_of_reply {k : Int} (h : g.scalar? id = Option.none) (hreply : g.indexReply? id = some k)
    (depth : Nat) (here : Place) : indexOf id { place := here, call := callTo (depth + 1) } g = .ok k g := by
  unfold indexReply? at hreply
  cases hspecial : g.special? id "__index__" with
  | none => simp [hspecial] at hreply
  | some value =>
    rw [hspecial, Option.map_some] at hreply
    split at hreply
    case h_2 => cases hreply
    case h_1 f at? hb =>
      obtain ⟨object, hf, hreply⟩ := Option.bind_eq_some_iff.mp hreply
      have hcall := callFor_of_returned id (Option.some.inj hb) hf depth here
      simp only [indexOf, bodyOf, specially?, reader_bind_run, reader_get_run, reader_pure_run]
      unfold wholeNumber? at hreply
      cases hbody : g.body id with
      | bool | int => simp [scalar?, hbody] at h
      | _ =>
        simp only [reader_bind_run, reader_get_run, hspecial, reader_map_run, hcall]
        split at hreply
        · next hk => cases hreply; simp [hk]
        · next hk => cases hreply; simp [hk]
        · cases hreply

/-- An object whose class has nothing that gives an integer is refused. -/
theorem indexOf_of_misread (h : g.scalar? id = Option.none) (hnone : g.special? id "__index__" = Option.none)
    (context : Context) : ∃ f, indexOf id context g = .error f g := by
  simp only [indexOf, bodyOf, specially?, reader_bind_run, reader_get_run, reader_pure_run]
  cases hbody : g.body id with
  | bool | int => simp [scalar?, hbody] at h
  | _ =>
    simp only [reader_bind_run, reader_get_run, hnone, reader_pure_run]
    exact ⟨_, rfl⟩

/-- The operators' module comes up for an object that offers an index. -/
private theorem unwrap_run (h : g.scalar? id = Option.none) (hoffers : g.offersIndex id = true)
    (hoperators : "builtins" ∉ g.halted ∧ "operator" ∉ g.halted) : ∃ g₁, g.Grows g₁ ∧
      atTop (unwrap id) g = match indexOf id g.topContext g₁ with
        | .ok k g₂ => (Unwrapped.other <$> int k) g.topContext g₂
        | .error f g₂ => .error f g₂ := by
  obtain ⟨module, g₁, hrun, hgrows, _⟩ :=
    builds_hostImport hoperators.1 hoperators.2 g.topContext g (.refl g)
  refine ⟨g₁, hgrows, ?_⟩
  rw [atTop_eq]
  simp only [unwrap, asIndex, reader_bind_run, reader_get_run, h, hoffers, ↓reduceIte, reader_discard_run, hrun]
  cases indexOf id g.topContext g₁ <;> rfl

/-- An object that offers an index is an integer at bottom, which may be a new object. -/
theorem unwrap_of_index {k : Int} (hk : g₀.WellKept n) (hlater : g₀.Later n g) (hheld : g₀.Holds id)
    (h : g.scalar? id = Option.none) (hoffers : g.offersIndex id = true) (hreply : g.indexReply? id = some k) :
    ∃ next g', atTop (unwrap id) g = .ok (.other next) g' ∧ g.Grows g' ∧ g'.IsOwnInteger n next ∧
      g'.body next = .int k := by
  obtain ⟨g₁, hgrows, hrun⟩ := unwrap_run h hoffers (by rw [hlater.halted]; exact hk.operators)
  have hlater₁ : g₀.Later n g₁ := hlater.trans (hgrows.later (hlater.holds hk.holds))
  have h₁ : g₁.scalar? id = Option.none := by
    rw [scalar?, body, hgrows.object id (hlater.holds hheld)]
    exact h
  have hreply₁ : g₁.indexReply? id = some k := by
    rw [hlater₁.indexReply?_eq hk hheld, ← hlater.indexReply?_eq hk hheld, hreply]
  have hindex : indexOf id g.topContext g₁ = .ok k g₁ := indexOf_of_reply h₁ hreply₁ 994 _
  obtain ⟨next, g₂, hint, hadds, hheld₂, hexact, hbody⟩ := int_run k g.topContext g₁
  have hgrows₂ := hgrows.trans hadds.grows
  have hapart : next ≠ n := by
    rintro rfl
    obtain ⟨d, hd⟩ := (hlater.trans (hgrows₂.later (hlater.holds hk.holds))).isDict hk.isDict
    rw [hd] at hbody
    cases hbody
  have hbare := (hgrows₂.bare (hlater.bare hk.bare)) next k hexact hbody
  refine ⟨next, g₂, ?_, hgrows₂, ⟨hheld₂, hapart, by simpa [Guest.isExact] using hexact, hbare, k, hbody⟩, hbody⟩
  rw [hrun, hindex]
  simp only [reader_map_run, hint]

theorem unwrap_of_misread (hk : g₀.WellKept n) (hlater : g₀.Later n g) (hheld : g₀.Holds id)
    (h : g.scalar? id = Option.none) (hoffers : g.offersIndex id = true)
    (hnone : g.special? id "__index__" = Option.none) :
    ∃ f g', atTop (unwrap id) g = .error f g' ∧ g.Grows g' := by
  obtain ⟨g₁, hgrows, hrun⟩ := unwrap_run h hoffers (by rw [hlater.halted]; exact hk.operators)
  have hlater₁ : g₀.Later n g₁ := hlater.trans (hgrows.later (hlater.holds hk.holds))
  have h₁ : g₁.scalar? id = Option.none := by
    rw [scalar?, body, hgrows.object id (hlater.holds hheld)]
    exact h
  have hnone₁ : g₁.special? id "__index__" = Option.none := by
    rw [hlater₁.special?_eq hk hheld (by decide), ← hlater.special?_eq hk hheld (by decide), hnone]
  obtain ⟨f, hindex⟩ := indexOf_of_misread h₁ hnone₁ g.topContext
  exact ⟨f, g₁, by rw [hrun, hindex], hgrows⟩

end GuestM

namespace Outbound
open Stepping
variable {self : Identity → TransferM Value} {t : Transfer}

/-- An iteration over a list or a tuple converts what stands at one place after the other. -/
theorem iterate_of_sequence (hbody : t.guest.body id = .list items ∨ t.guest.body id = .tuple items)
    (left place : Nat) : iterate self (left + 1) (.places id place) t =
      match items[place]? with
      | none => .ok [] t
      | some item => (do return (← self item) :: (← iterate self left (.places id (place + 1)))) t := by
  have hstep : TransferM.guest (GuestM.advance (.places id place)) t =
      .ok ((items[place]?).map fun item => (item, .places id (place + 1))) t := by
    rw [TransferM.guest_run, GuestM.atTop_eq, GuestM.advance_of_sequence hbody]
  rw [iterate, bind_run, hstep]
  cases items[place]? <;> rfl

theorem items_of_sequence (hexact : t.guest.home? id = none)
    (hbody : t.guest.body id = .list items ∨ t.guest.body id = .tuple items) : Outbound.items self id t =
      (do return .list (← iterate self (max mostItems items.size) (.places id 0)) : TransferM Value) t := by
  have hguest : TransferM.guest (GuestM.cursor id) t = .ok (.places id 0) t := by
    rw [TransferM.guest_run, GuestM.atTop_eq, GuestM.cursor_of_sequence hexact hbody]
  have htold : t.guest.hint? (.places id 0) = some items.size := by
    rcases hbody with hbody | hbody <;> simp [Guest.hint?, hbody]
  simp only [Outbound.items, bind_run, get_run, hguest, htold, Option.getD_some]

/-- What stands at a place of a sequence comes before the rest. -/
theorem drop_of_getElem? {place : Nat} {item : Identity} (h : items[place]? = some item) :
    items.toList.drop place = item :: items.toList.drop (place + 1) := by
  rw [List.drop_eq_getElem?_toList_append, Array.getElem?_toList, h]
  rfl

end Outbound

/-! ### The graph -/

namespace Guest
variable {objects : Identity → Prop}

/-- An object of the graph, or an integer that a conversion made of one. -/
def IsGraphObject (n : Identity) (objects : Identity → Prop) (g : Guest) (id : Identity) : Prop :=
  objects id ∨ g.IsOwnInteger n id

/-- A key and a value of the graph. -/
def IsGraphEntry (n : Identity) (objects : Identity → Prop) (g : Guest) (item : MappingItem) : Prop :=
  ∃ key value, item = .pair key value ∧ IsGraphObject n objects g key ∧ IsGraphObject n objects g value

/-- An iteration over a list or a tuple whose items are objects of the graph. -/
def IsGraphIteration (n : Identity) (objects : Identity → Prop) (g : Guest) (c : Cursor) : Prop :=
  ∃ id place items, c = .places id place ∧ g.Holds id ∧ id ≠ n ∧
    (g.body id = .list items ∨ g.body id = .tuple items) ∧ ∀ item ∈ items.toList, objects item

namespace IsGraphObject

theorem later (h : IsGraphObject n objects g id) (hlater : g.Later n g') : IsGraphObject n objects g' id :=
  h.imp_right fun h => h.later hlater

theorem isOrdinary (h : IsGraphObject n objects g id) (hk : g₀.WellKept n)
    (hgraph : g₀.IsOrdinaryGraph n objects) (hlater : g₀.Later n g) : g.IsOrdinary n id := by
  rcases h with ho | h
  · exact (hgraph.ordinary id ho).later hk hlater
  · exact h.isOrdinary

theorem parts (h : IsGraphObject n objects g id) (hk : g₀.WellKept n)
    (hgraph : g₀.IsOrdinaryGraph n objects) (hlater : g₀.Later n g) :
    ∀ part ∈ (g.shape id).parts, objects part := by
  rcases h with ho | h
  · rw [(hgraph.ordinary id ho).shape_eq hk hlater]
    exact hgraph.parts id ho
  · obtain ⟨k, hb⟩ := h.body
    intro part hpart
    unfold shape at hpart
    split at hpart <;> simp [scalar?, hb, Shape.parts] at hpart

/-- The wrappers of a graph wrap what they wrapped when it was begun. -/
theorem wrapped? (h : IsGraphObject n objects g id) (hgraph : g₀.IsOrdinaryGraph n objects)
    (hlater : g₀.Later n g) {v : Value} (hv : g.wrapped? id = some v) : objects id ∧ g₀.wrapped? id = some v := by
  rcases h with ho | h
  · have hordinary := hgraph.ordinary id ho
    rw [Guest.wrapped?, hlater.body_eq hordinary.holds hordinary.apart] at hv
    exact ⟨ho, hv⟩
  · obtain ⟨k, hb⟩ := h.body
    simp [Guest.wrapped?, hb] at hv

end IsGraphObject

private theorem calm_of_ok {α : Type} {K : Custody n} {run : GuestM α} {answer : Guest → α → Prop} {a : α}
    (hrun : GuestM.atTop run g = .ok a g') (hgrows : g.Grows g') (hn : g.Holds n) (hlater : K.later g g')
    (ha : answer g' a) : K.Calm g run answer := by
  refine .of_ok hrun ⟨hlater, fun name _ => ?_, fun b hb => by cases hb; exact ha⟩
  rw [Guest.lookup, entries, body, hgrows.object n hn, Guest.lookup, entries, body]

private theorem calm_of_error {α : Type} {K : Custody n} {run : GuestM α} {answer : Guest → α → Prop} {f : Fault}
    (hrun : GuestM.atTop run g = .error f g') (hgrows : g.Grows g') (hn : g.Holds n) (hlater : K.later g g') :
    K.Calm g run answer := by
  refine .of_error hrun ⟨hlater, fun name _ => ?_, fun b hb => by cases hb⟩
  rw [Guest.lookup, entries, body, hgrows.object n hn, Guest.lookup, entries, body]

/-- What the registry can rely on in an interpreter from some state on, whatever names it is to keep. -/
def custodyFrom (hk : g₀.WellKept n) (kept : Text → Prop) : Custody n where
  state g := g₀.Later n g
  later g g' := g.Later n g'
  kept := kept
  refl g := .refl n g
  trans h h' := h.trans h'
  state_later h h' := h.trans h'
  holds h _ := h.holds hk.holds
  noted r _ := later_noted r
  parked id h := later_parked (h.holds hk.holds) id
  dropped id h := later_dropped (h.holds hk.holds) id

section
variable (hk : g₀.WellKept n) (hgraph : g₀.IsOrdinaryGraph n objects) (kept : Text → Prop)
include hk hgraph

private theorem calm_askForMark (hlater : g₀.Later n g) (hid : IsGraphObject n objects g id) :
    (custodyFrom hk kept).Calm g (GuestM.askForMark id) fun _ _ => True := by
  obtain ⟨_, g', hrun, hgrows⟩ := (hid.isOrdinary hk hgraph hlater).mark g (.refl n g)
  have hn := hlater.holds hk.holds
  exact calm_of_ok hrun hgrows hn (hgrows.later hn) trivial

private theorem calm_mappingItems (hlater : g₀.Later n g) (hid : IsGraphObject n objects g id)
    (hchosen : Outbound.chosen? g id = some .mapping) (hlater' : g.Later n g') :
    (custodyFrom hk kept).Calm g' (GuestM.mappingItems id) fun g items =>
      ∀ item ∈ items, IsGraphEntry n objects g item := by
  have ho := hid.isOrdinary hk hgraph hlater
  obtain ⟨entries, hexact, hbody, hshape⟩ := ho.of_mapping hchosen
  have hparts := hid.parts hk hgraph hlater
  rw [hshape] at hparts
  have hexact' : g'.home? id = none := by rw [hlater'.home?_eq ho.holds, hexact]
  have hbody' : g'.body id = .dict entries := by rw [hlater'.body_eq ho.holds ho.apart, hbody]
  have hn := (hlater.trans hlater').holds hk.holds
  refine calm_of_ok (GuestM.mappingItems_of_dict hexact' hbody' _) (.refl g') hn (.refl n g') ?_
  intro item hitem
  obtain ⟨entry, hentry, rfl⟩ := List.mem_map.mp hitem
  simp only [Shape.parts, List.flatMap_map, List.mem_flatMap] at hparts
  exact ⟨_, _, rfl, .inl (hparts entry.key ⟨entry, hentry, by simp⟩),
    .inl (hparts entry.value ⟨entry, hentry, by simp⟩)⟩

private theorem calm_cursor (hlater : g₀.Later n g) (hid : IsGraphObject n objects g id)
    (hchosen : Outbound.chosen? g id = some .iterable) (hlater' : g.Later n g') :
    (custodyFrom hk kept).Calm g' (GuestM.cursor id) (IsGraphIteration n objects) := by
  have ho := hid.isOrdinary hk hgraph hlater
  have hn := (hlater.trans hlater').holds hk.holds
  have hbody_eq := hlater'.body_eq ho.holds ho.apart
  rcases ho.of_iterable hchosen with ⟨items, hexact, hbody, hshape⟩ | ⟨hm, hc, hiter⟩
  · have hparts := hid.parts hk hgraph hlater
    rw [hshape] at hparts
    have hexact' : g'.home? id = none := by rw [hlater'.home?_eq ho.holds, hexact]
    rw [← hbody_eq] at hbody
    refine calm_of_ok (GuestM.cursor_of_sequence hexact' hbody _) (.refl g') hn (.refl n g') ?_
    exact ⟨id, 0, items, rfl, hlater'.holds ho.holds, ho.apart, hbody, hparts⟩
  · rw [← ho.isIterable_eq hm hlater'] at hiter
    rw [← ho.isMarked_eq hlater'] at hm
    rw [← hlater'.home?_eq ho.holds] at hc
    have ho' := (hid.later hlater').isOrdinary hk hgraph (hlater.trans hlater')
    obtain ⟨f, hrun⟩ := GuestM.cursor_of_misread ho' hm hc hiter g'.topContext
    exact calm_of_error hrun (.refl g') hn (.refl n g')

private theorem calm_unwrap (hlater : g₀.Later n g) (hid : IsGraphObject n objects g id)
    (hchosen : Outbound.chosen? g id = none) (hlater' : g.Later n g') :
    (custodyFrom hk kept).Calm g' (GuestM.unwrap id) fun g bottom =>
      ∀ next, bottom = .other next → IsGraphObject n objects g next := by
  have ho := hid.isOrdinary hk hgraph hlater
  have hne := ho.apart
  have hn := (hlater.trans hlater').holds hk.holds
  have hscalar : g'.scalar? id = g.scalar? id := by rw [scalar?, hlater'.body_eq ho.holds hne, scalar?]
  have hm := isMarked_of_unchosen hchosen
  rcases ho.of_none hchosen with ⟨v, hv⟩ | ⟨hbottom, hbelow⟩
  · rw [← hscalar] at hv
    exact calm_of_ok (GuestM.unwrap_of_scalar hv _) (.refl g') hn (.refl n g') fun next h => by cases h
  · rcases hid with hid | hid
    · have hlater₁ := hlater.trans hlater'
      have ho₀ := hgraph.ordinary id hid
      rw [← hscalar] at hbottom
      rw [← ho.offersIndex_eq hm hlater'] at hbelow
      rcases hbelow with hrefused | ⟨hoffered, ⟨k, hreply⟩ | hnone⟩
      · have hrun := GuestM.unwrap_of_opaque hbottom hrefused g'.topContext
        exact calm_of_ok hrun (.refl g') hn (.refl n g') fun next h => by cases h
      · rw [hlater.indexReply?_eq hk ho₀.holds, ← hlater₁.indexReply?_eq hk ho₀.holds] at hreply
        obtain ⟨next, g₂, hrun, hgrows, hint, _⟩ :=
          GuestM.unwrap_of_index hk hlater₁ ho₀.holds hbottom hoffered hreply
        refine calm_of_ok hrun hgrows hn (hgrows.later hn) fun next' h => ?_
        cases h
        exact .inr hint
      · rw [hlater.special?_eq hk ho₀.holds (by decide), ← hlater₁.special?_eq hk ho₀.holds (by decide)] at hnone
        obtain ⟨f, g₂, hrun, hgrows⟩ := GuestM.unwrap_of_misread hk hlater₁ ho₀.holds hbottom hoffered hnone
        exact calm_of_error hrun hgrows hn (hgrows.later hn)
    · obtain ⟨k, hb⟩ := hid.body
      simp [scalar?, hb] at hbottom

end

private theorem calm_pairOf (hk : g₀.WellKept n) (kept : Text → Prop) (hlater : g₀.Later n g)
    {item : MappingItem} (h : IsGraphEntry n objects g item) : (custodyFrom hk kept).Calm g (GuestM.pairOf item)
      fun g p => IsGraphObject n objects g p.1 ∧ IsGraphObject n objects g p.2 := by
  obtain ⟨key, value, rfl, hparts⟩ := h
  exact calm_of_ok (a := (key, value)) rfl (.refl g) (hlater.holds hk.holds) (.refl n g) hparts

private theorem calm_advance (hk : g₀.WellKept n) (kept : Text → Prop) (hlater : g₀.Later n g) {c : Cursor}
    (hc : IsGraphIteration n objects g c) (hlater' : g.Later n g') :
    (custodyFrom hk kept).Calm g' (GuestM.advance c) fun g step => ∀ item c', step = some (item, c') →
      IsGraphObject n objects g item ∧ IsGraphIteration n objects g c' := by
  obtain ⟨id, place, items, rfl, hheld, hne, hbody, hitems⟩ := hc
  rw [← hlater'.body_eq hheld hne] at hbody
  have hn := (hlater.trans hlater').holds hk.holds
  refine calm_of_ok (GuestM.advance_of_sequence hbody place _) (.refl g') hn (.refl n g') ?_
  intro item c' hstep
  obtain ⟨found, hfound, hpair⟩ := Option.map_eq_some_iff.mp hstep
  cases hpair
  refine ⟨.inl (hitems item (Array.mem_toList_iff.mpr (Array.mem_of_getElem? hfound))), ?_⟩
  exact ⟨id, place + 1, items, rfl, hlater'.holds hheld, hne, hbody, hitems⟩

/-- The ordinary objects of an interpreter as a graph that conversions go through. -/
def ordinaryGraph (hk : g₀.WellKept n) (hgraph : g₀.IsOrdinaryGraph n objects) (kept : Text → Prop) :
    ObjectGraph n where
  toCustody := custodyFrom hk kept
  object := IsGraphObject n objects
  entry := IsGraphEntry n objects
  iteration := IsGraphIteration n objects
  object_later hlater h := h.later hlater
  entry_later hlater h := by
    obtain ⟨key, value, rfl, hkey, hvalue⟩ := h
    exact ⟨key, value, rfl, hkey.later hlater, hvalue.later hlater⟩
  mark := calm_askForMark hk hgraph kept
  mappingItems := calm_mappingItems hk hgraph kept
  pair hlater h := calm_pairOf hk kept hlater h
  cursor := calm_cursor hk hgraph kept
  advance hlater hc hlater' := calm_advance hk kept hlater hc hlater'
  unwrap := calm_unwrap hk hgraph kept

/-! ### A specimen -/

def specimenClass : ScriptClass where
  name := "C"
  fullName := "C"
  bases := []
  ancestors := []
  base := ⟨5⟩
  layout := "object"

/-- An interpreter with a list that holds itself, a tuple twice, and an object whose class gives an index. -/
def specimen : Guest where
  heap := #[
    { body := .dict [] },
    { body := .list #[⟨1⟩, ⟨2⟩, ⟨2⟩, ⟨4⟩] },
    { body := .tuple #[⟨3⟩] },
    { body := .int 7 },
    { body := .plain "object", home := some ⟨5⟩ },
    { body := .classObject specimenClass, attributes := some ⟨6⟩ },
    { body := .dict [⟨[.text (.ofString "__index__")], ⟨8⟩, ⟨7⟩⟩] },
    { body := .function (.feature "<lambda>" 0 (.reply (.returns ⟨3⟩))) default },
    { body := .text (.ofString "__index__") }]

/-- The list of the specimen, the tuple, the integer and the object with an index. -/
def IsSpecimenObject (id : Identity) : Prop := id ∈ [⟨1⟩, ⟨2⟩, ⟨3⟩, (⟨4⟩ : Identity)]

instance : DecidablePred IsSpecimenObject := fun id =>
  inferInstanceAs (Decidable (id ∈ [⟨1⟩, ⟨2⟩, ⟨3⟩, (⟨4⟩ : Identity)]))

private theorem forall_object {P : Object → Prop} (hdefault : P default) (h : ∀ o ∈ g.heap.toList, P o)
    (id : Identity) : P (g.object id) := by
  rw [object, Array.getD_eq_getD_getElem?]
  cases ho : g.heap[id.index]? with
  | none => exact hdefault
  | some o => exact h o (Array.mem_toList_iff.mpr (Array.mem_of_getElem? ho))

theorem specimen_wellKept : specimen.WellKept ⟨0⟩ where
  holds := by decide
  isDict := ⟨[], rfl⟩
  grounded := forall_object (P := fun o => ∀ ref ∈ o.references, specimen.Holds ref) nofun (by decide)
  bare id k _ hbody := by
    have hobject := forall_object (g := specimen)
      (P := fun o => o.attributes = none ∨ o.body.constant? = none) (.inl rfl) (by decide) id
    rw [show (specimen.object id).body = .int k from hbody] at hobject
    exact hobject.resolve_right (by simp [Body.constant?])
  operators := by decide

private theorem specimen_unmarked : specimen.IsUnmarkedInstance ⟨0⟩ ⟨4⟩ ⟨5⟩ where
  scalar := .inl rfl
  data := rfl
  said := by decide
  lookup := by decide
  mapping := by decide
  iteration := by decide
  items _ := by decide
  index := .inr (.inl (by decide))
  steady := ⟨answersSteadily_of_plain specimen_wellKept (by decide) (by decide) (by decide) rfl nofun,
    answersSteadily_of_plain specimen_wellKept (by decide) (by decide) (by decide) rfl nofun⟩

private theorem specimen_isOrdinary_of_own {id : Identity} (hid : specimen.Holds id) (hne : id ≠ ⟨0⟩)
    (hc : specimen.home? id = none) (hsettled : isSettled (specimen.body id) = true)
    (hattributes : specimen.ownAttributes? id = none)
    (htext : specimen.text? id = none) (hown : IsOwnOrdinary (specimen.body id)) :
    specimen.IsOrdinary ⟨0⟩ id where
  holds := hid
  apart := hne
  mark := isSteadilyMarked_of_own hid hne hc hsettled fun d hd => by simp [hattributes] at hd
  wrapped _ := hc
  text t ht := by simp [text?, ht] at htext
  own _ := hown
  unmarked home h := by simp [hc] at h

private theorem specimen_isOrdinary {id : Identity} (hid : IsSpecimenObject id) :
    specimen.IsOrdinary ⟨0⟩ id := by
  simp only [IsSpecimenObject, List.mem_cons, List.not_mem_nil, or_false] at hid
  rcases hid with rfl | rfl | rfl | rfl
  · exact specimen_isOrdinary_of_own (by decide) (by decide) rfl rfl rfl rfl trivial
  · exact specimen_isOrdinary_of_own (by decide) (by decide) rfl rfl rfl rfl trivial
  · exact specimen_isOrdinary_of_own (by decide) (by decide) rfl rfl rfl rfl rfl
  · refine ⟨by decide, by decide, ?_, nofun, nofun, nofun, fun home h _ => ?_⟩
    · exact isSteadilyMarked_of_instance specimen_wellKept (by decide) (by decide) rfl rfl rfl (by decide)
        trivial
    · cases h
      exact specimen_unmarked

theorem specimen_isOrdinaryGraph : specimen.IsOrdinaryGraph ⟨0⟩ IsSpecimenObject where
  ordinary _ hid := specimen_isOrdinary hid
  parts id hid := by
    simp only [IsSpecimenObject, List.mem_cons, List.not_mem_nil, or_false] at hid
    rcases hid with rfl | rfl | rfl | rfl <;> decide

end Guest
end ScriptHost
