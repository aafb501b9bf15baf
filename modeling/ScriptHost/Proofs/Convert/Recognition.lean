import ScriptHost.Proofs.Convert.ObjectGraph
import ScriptHost.Proofs.Convert.Ordinary

/-! What ordinary objects are recognised as: the converter that each of them goes to, and the index that one
without a converter may offer. -/
namespace ScriptHost.Guest
variable {n id home : Identity} {g : Guest}

/-! ### Mappings -/

theorem countsAsMapping_of_own (hc : g.home? id = none) (ho : IsOwnOrdinary (g.body id)) :
    g.countsAsMapping id = g.isDict id := by
  unfold countsAsMapping
  simp only [special?, hc, Option.bind_none, Option.isSome_none, Bool.or_false, Bool.not_false, Bool.or_true,
    ↓reduceIte]
  unfold isMapping isDict
  rw [hc]
  cases hb : g.body id with
  | proxy => simp [hb, IsOwnOrdinary, Body.isIterable] at ho
  | _ => rfl

private theorem countsAsMapping_of_instance (hc : g.home? id = some home) (hu : g.IsUnmarkedInstance n id home) :
    g.countsAsMapping id = false := by
  unfold countsAsMapping
  simp only [hu.said, hu.lookup, Option.isSome_none, Bool.or_false, Bool.not_false, Bool.or_true, ↓reduceIte]
  rw [isMapping, hc]
  exact hu.mapping

/-! ### Converters -/

/-- The built-in converters are asked one after the other. -/
theorem chosen?_eq (g : Guest) (id : Identity) : Outbound.chosen? g id =
    if (g.wrapped? id).isSome then some .wrapped else if g.isMarked id then some .keep
    else if g.countsAsMapping id then some .mapping else if !g.isText id && g.isIterable id then some .iterable
    else if (g.plainInt? id).isSome then some .integer else none := by
  unfold Outbound.chosen? Outbound.resolve Outbound.standard
  simp only [List.find?_cons, List.find?_nil]
  cases (g.wrapped? id).isSome <;> cases g.isMarked id <;> cases g.countsAsMapping id <;>
    cases (!g.isText id && g.isIterable id) <;> cases (g.plainInt? id).isSome <;> rfl

private theorem chosen?_of_unmarked (hw : g.wrapped? id = none) (hm : g.isMarked id = false) :
    Outbound.chosen? g id = if g.countsAsMapping id then some .mapping
      else if !g.isText id && g.isIterable id then some .iterable
      else if (g.plainInt? id).isSome then some .integer else none := by
  rw [chosen?_eq, hw, hm]
  rfl

/-- Only the data of a wrapper is tried before the mark. -/
private theorem chosen?_of_marked (hw : g.wrapped? id = none) (hm : g.isMarked id = true) :
    Outbound.chosen? g id = some .keep := by
  rw [chosen?_eq, hw, hm]
  rfl

theorem IsOrdinary.unwrapped (ho : g.IsOrdinary n id) (hc : g.home? id = some home) : g.wrapped? id = none := by
  cases hw : g.wrapped? id with
  | none => rfl
  | some v =>
    rw [ho.wrapped (by simp [hw])] at hc
    cases hc

/-- What an ordinary object is taken for by the built-in converters, with what its value is made of. -/
inductive Recognised (g : Guest) (id : Identity) : Shape → Prop
  | wrapped (v : Value) (hchosen : Outbound.chosen? g id = some .wrapped) (hwrapped : g.wrapped? id = some v) :
    Recognised g id (.scalar v)
  | marked (hchosen : Outbound.chosen? g id = some .keep) : Recognised g id .kept
  | sequence (items : Array Identity) (hchosen : Outbound.chosen? g id = some .iterable)
    (hexact : g.home? id = none) (hbody : g.body id = .list items ∨ g.body id = .tuple items) :
    Recognised g id (.sequence items.toList)
  | mapping (entries : Dict) (hchosen : Outbound.chosen? g id = some .mapping)
    (hexact : g.home? id = none) (hbody : g.body id = .dict entries) :
    Recognised g id (.mapping (entries.map fun entry => (entry.key, entry.value)))
  | integer (k : Int) (hchosen : Outbound.chosen? g id = some .integer) (hbody : g.body id = .int k) :
    Recognised g id (.scalar (.integer k))
  | scalar (v : Value) (hchosen : Outbound.chosen? g id = none) (hbottom : g.scalar? id = some (.ok v)) :
    Recognised g id (.scalar v)
  | index (k : Int) (hchosen : Outbound.chosen? g id = none) (hbottom : g.scalar? id = none)
    (hoffers : g.offersIndex id = true) (hreply : g.indexReply? id = some k) :
    Recognised g id (.scalar (.integer k))
  | unknown (hchosen : Outbound.chosen? g id = none) (hbottom : g.scalar? id = none)
    (hoffers : g.offersIndex id = false) : Recognised g id .kept

/-- An object of one of the interpreter's own classes is recognised by what it holds. -/
private theorem recognised_of_own (ho : g.IsOrdinary n id) (hw : g.wrapped? id = none)
    (hm : g.isMarked id = false) (hc : g.home? id = none) : g.Recognised id (g.shape id) := by
  have hown := ho.own hc
  have hchosen := chosen?_of_unmarked hw hm
  rw [countsAsMapping_of_own hc hown] at hchosen
  have hoffers : g.offersIndex id = false := by simp [offersIndex, hc]
  have hreply : g.indexReply? id = none := by simp [indexReply?, special?, hc]
  have hiterable : g.isIterable id = (g.body id).isIterable := by simp [isIterable, hc]
  rw [hiterable] at hchosen
  cases hb : g.body id with
  | list items =>
    have hfound : Outbound.chosen? g id = some .iterable := by
      simpa [isDict, isText, text?, hb, Body.isIterable] using hchosen
    simpa [shape, hm, scalar?, hb] using Recognised.sequence items hfound hc (.inl hb)
  | tuple items =>
    have hfound : Outbound.chosen? g id = some .iterable := by
      simpa [isDict, isText, text?, hb, Body.isIterable] using hchosen
    simpa [shape, hm, scalar?, hb] using Recognised.sequence items hfound hc (.inr hb)
  | dict entries =>
    have hfound : Outbound.chosen? g id = some .mapping := by simpa [isDict, hb] using hchosen
    simpa [shape, hm, scalar?, hb] using Recognised.mapping entries hfound hc hb
  | int k =>
    have hfound : Outbound.chosen? g id = some .integer := by
      simpa [isDict, isText, text?, plainInt?, hb, Body.isIterable] using hchosen
    simpa [shape, hm, scalar?, hb] using Recognised.integer k hfound hb
  | text t =>
    obtain ⟨s, hs⟩ := ho.text t hb
    have hfound : Outbound.chosen? g id = none := by
      simpa [isDict, isText, text?, plainInt?, hb] using hchosen
    have hbottom : g.scalar? id = some (.ok (.string s)) := by
      simp only [scalar?, hb, hs]
      rfl
    simpa [shape, hm, hbottom] using Recognised.scalar _ hfound hbottom
  | none | bool | float =>
    have hfound : Outbound.chosen? g id = none := by
      simpa [isDict, isText, text?, plainInt?, hb, Body.isIterable] using hchosen
    obtain ⟨v, hbottom⟩ : ∃ v, g.scalar? id = some (.ok v) := by simp [scalar?, hb]
    simpa [shape, hm, hbottom] using Recognised.scalar v hfound hbottom
  | wrapper v => simp [wrapped?, hb] at hw
  | _ =>
    have hfixed : (g.body id).isIterable = false := by simpa [hb, IsOwnOrdinary] using hown
    rw [hfixed] at hchosen
    have hfound : Outbound.chosen? g id = none := by
      simpa [isDict, plainInt?, hb] using hchosen
    have hbottom : g.scalar? id = none := by simp [scalar?, hb]
    simpa [shape, hm, hreply, hbottom, hb] using Recognised.unknown hfound hbottom hoffers

private theorem chosen?_of_instance (ho : g.IsOrdinary n id) (hm : g.isMarked id = false)
    (hc : g.home? id = some home) : Outbound.chosen? g id =
      if g.isIterable id then some .iterable else if (g.plainInt? id).isSome then some .integer else none := by
  have hu := ho.unmarked home hc hm
  have htext : g.isText id = false := by
    have hdata := hu.data
    cases hb : g.body id with
    | text => simp [hb, Body.isIterable] at hdata
    | _ => simp [isText, text?, hb]
  rw [chosen?_of_unmarked (ho.unwrapped hc) hm, countsAsMapping_of_instance hc hu, htext]
  simp

private theorem isMisread_of_instance (hm : g.isMarked id = false) (hc : g.home? id = some home)
    (hu : g.IsUnmarkedInstance n id home) : g.isMisread id = (g.isIterable id ||
      (g.offersIndex id && (g.plainInt? id).isNone && (g.entryIn home (.ofString "__index__")).isNone)) := by
  simp [isMisread, hm, hc, hu.iteration]

/-- An object of a script's class is recognised by the index that its class gives for it. -/
private theorem recognised_of_instance (ho : g.IsOrdinary n id) (hm : g.isMarked id = false)
    (hc : g.home? id = some home) (hmisread : g.isMisread id = false) : g.Recognised id (g.shape id) := by
  have hu := ho.unmarked home hc hm
  rw [isMisread_of_instance hm hc hu, Bool.or_eq_false_iff] at hmisread
  have hchosen := chosen?_of_instance ho hm hc
  rw [hmisread.1] at hchosen
  rcases hu.scalar with hbottom | ⟨k, hb⟩
  · have hint : g.plainInt? id = none := by
      cases hb : g.body id with
      | int => simp [scalar?, hb] at hbottom
      | _ => simp [plainInt?, hb]
    have hfound : Outbound.chosen? g id = none := by simpa [hint] using hchosen
    have hshape : g.shape id = (g.indexReply? id).elim .kept fun k => .scalar (.integer k) := by
      have hdata := hu.data
      have hw := ho.unwrapped hc
      simp only [shape, hm, Bool.false_and, Bool.false_eq_true, ↓reduceIte, hbottom]
      cases hb : g.body id with
      | list | tuple | dict => simp [hb, Body.isIterable] at hdata
      | wrapper v => simp [wrapped?, hb] at hw
      | _ => rfl
    rw [hshape]
    cases hreply : g.indexReply? id with
    | some k =>
      refine .index k hfound hbottom ?_ hreply
      cases he : g.entryIn home (.ofString "__index__") with
      | some entry => simp [offersIndex, classAnswers, hc, he]
      | none => simp [indexReply?, special?, hc, he] at hreply
    | none =>
      refine .unknown hfound hbottom ?_
      rcases hu.index with h | h | h
      · simp [hint] at h
      · simp [hreply] at h
      · simpa [h, hint] using hmisread.2
  · have hfound : Outbound.chosen? g id = some .integer := by simpa [plainInt?, hb] using hchosen
    simpa [shape, hm, scalar?, hb] using Recognised.integer k hfound hb

/-- Ordinary objects are recognised as what they are, unless they are misread. -/
theorem IsOrdinary.recognised (ho : g.IsOrdinary n id) (hmisread : g.isMisread id = false) :
    g.Recognised id (g.shape id) := by
  cases hw : g.wrapped? id with
  | some v =>
    have hbody : g.body id = .wrapper v := by
      unfold wrapped? at hw
      split at hw
      · next hb =>
        cases hw
        exact hb
      · cases hw
    have hshape : g.shape id = .scalar v := by simp [shape, hw, scalar?, hbody]
    rw [hshape]
    exact .wrapped v (by rw [chosen?_eq, hw, Option.isSome_some, if_pos rfl]) hw
  | none =>
    cases hm : g.isMarked id with
    | true =>
      have hshape : g.shape id = .kept := by simp [shape, hm, hw]
      rw [hshape]
      exact .marked (chosen?_of_marked hw hm)
    | false =>
      cases hc : g.home? id with
      | none => exact recognised_of_own ho hw hm hc
      | some home => exact recognised_of_instance ho hm hc hmisread

/-- A misread object is taken for an iterable one that gives no items, or for one with an index that its
class does not give. -/
theorem IsOrdinary.misread (ho : g.IsOrdinary n id) (hmisread : g.isMisread id = true) :
    (g.isMarked id = false ∧ (g.home? id).isSome) ∧
      (Outbound.chosen? g id = some .iterable ∧ g.isIterable id = true ∨
        Outbound.chosen? g id = none ∧ g.scalar? id = none ∧ g.offersIndex id = true ∧
          g.special? id "__index__" = none) := by
  have hm : g.isMarked id = false := by
    simp only [isMisread, Bool.and_eq_true, Bool.not_eq_true'] at hmisread
    exact hmisread.1
  cases hc : g.home? id with
  | none => simp [isMisread, hc] at hmisread
  | some home =>
    have hu := ho.unmarked home hc hm
    have hchosen := chosen?_of_instance ho hm hc
    rw [isMisread_of_instance hm hc hu] at hmisread
    refine ⟨⟨hm, rfl⟩, ?_⟩
    cases hiter : g.isIterable id with
    | true => exact .inl ⟨by simpa [hiter] using hchosen, rfl⟩
    | false =>
      simp only [hiter, Bool.false_or, Bool.and_eq_true, Option.isNone_iff_eq_none] at hmisread
      obtain ⟨⟨hoffers, hint⟩, hnone⟩ := hmisread
      refine .inr ⟨by simpa [hiter, hint] using hchosen, ?_, hoffers, by simp [special?, hc, hnone]⟩
      rcases hu.scalar with h | ⟨k, hb⟩
      · exact h
      · simp [plainInt?, hb] at hint

/-! ### Objects by their converters -/

theorem IsOrdinary.of_mapping (ho : g.IsOrdinary n id) (hchosen : Outbound.chosen? g id = some .mapping) :
    ∃ entries, g.home? id = none ∧ g.body id = .dict entries ∧
      g.shape id = .mapping (entries.map fun entry => (entry.key, entry.value)) := by
  cases hmisread : g.isMisread id with
  | true =>
    rcases ho.misread hmisread with ⟨_, h | h⟩ <;> simp [hchosen] at h
  | false =>
    have hr := ho.recognised hmisread
    generalize hs : g.shape id = s at hr
    cases hr with
    | mapping entries _ hexact hbody => exact ⟨entries, hexact, hbody, rfl⟩
    | wrapped _ h | marked h | sequence _ h | integer _ h | scalar _ h | index _ h | unknown h => simp [hchosen] at h

theorem IsOrdinary.of_iterable (ho : g.IsOrdinary n id) (hchosen : Outbound.chosen? g id = some .iterable) :
    (∃ items : Array Identity, g.home? id = none ∧ (g.body id = .list items ∨ g.body id = .tuple items) ∧
      g.shape id = .sequence items.toList) ∨
    g.isMarked id = false ∧ (g.home? id).isSome ∧ g.isIterable id = true := by
  cases hmisread : g.isMisread id with
  | true =>
    rcases ho.misread hmisread with ⟨⟨hm, hc⟩, h | h⟩
    · exact .inr ⟨hm, hc, h.2⟩
    · simp [hchosen] at h
  | false =>
    have hr := ho.recognised hmisread
    generalize hs : g.shape id = s at hr
    cases hr with
    | sequence items _ hexact hbody => exact .inl ⟨items, hexact, hbody, rfl⟩
    | wrapped _ h | marked h | mapping _ h | integer _ h | scalar _ h | index _ h | unknown h => simp [hchosen] at h

theorem IsOrdinary.of_none (ho : g.IsOrdinary n id) (hchosen : Outbound.chosen? g id = none) :
    (∃ v, g.scalar? id = some (.ok v)) ∨ g.scalar? id = none ∧ (g.offersIndex id = false ∨
      g.offersIndex id = true ∧ ((∃ k, g.indexReply? id = some k) ∨ g.special? id "__index__" = none)) := by
  cases hmisread : g.isMisread id with
  | true =>
    rcases ho.misread hmisread with ⟨_, h | ⟨_, hbottom, hoffers, hnone⟩⟩
    · simp [hchosen] at h
    · exact .inr ⟨hbottom, .inr ⟨hoffers, .inr hnone⟩⟩
  | false =>
    have hr := ho.recognised hmisread
    generalize hs : g.shape id = s at hr
    cases hr with
    | scalar v _ hbottom => exact .inl ⟨v, hbottom⟩
    | index k _ hbottom hoffers hreply => exact .inr ⟨hbottom, .inr ⟨hoffers, .inl ⟨k, hreply⟩⟩⟩
    | unknown _ hbottom hoffers => exact .inr ⟨hbottom, .inl hoffers⟩
    | wrapped _ h | marked h | sequence _ h | mapping _ h | integer _ h => simp [hchosen] at h

theorem isMarked_of_unchosen (hchosen : Outbound.chosen? g id = none) : g.isMarked id = false := by
  cases hm : g.isMarked id with
  | false => rfl
  | true =>
    rw [chosen?_eq, hm] at hchosen
    split at hchosen <;> simp at hchosen

end ScriptHost.Guest
