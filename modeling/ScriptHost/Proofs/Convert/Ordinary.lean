import ScriptHost.Convert.Outbound
import ScriptHost.Proofs.Guest.Later

/-! Ordinary objects: constants, numbers, texts, lists, tuples, dictionaries, wrappers of host values and objects
that nothing is known of, whose classes may mark them or give an integer for them, but run no other code. -/
namespace ScriptHost

/-- What an object converts to: a handle of its own, a value, or the values of other objects. -/
inductive Shape where
  | kept
  | scalar (v : Value)
  | sequence (items : List Identity)
  | mapping (entries : List (Identity × Identity))

/-- The objects whose values make up the one of an object. -/
def Shape.parts : Shape → List Identity
  | .sequence items => items
  | .mapping entries => entries.flatMap fun entry => [entry.1, entry.2]
  | _ => []

namespace Guest

/-- The integer of an object that is one. -/
def wholeNumber? (g : Guest) (id : Identity) : Option Int :=
  match g.body id with
  | .int k => some k
  | .bool b => some (if b then 1 else 0)
  | _ => none

/-- The integer that a function of its class just returns for an object. -/
def indexReply? (g : Guest) (id : Identity) : Option Int :=
  match (g.special? id "__index__").map g.body with
  | some (.function f _) => f.returned?.bind g.wholeNumber?
  | _ => none

/-- What an ordinary object converts to. -/
def shape (g : Guest) (id : Identity) : Shape :=
  if g.isMarked id && (g.wrapped? id).isNone then .kept
  else match g.scalar? id, g.body id with
    | some (.ok v), _ => .scalar v
    | some (.error _), _ => .kept
    | none, .list items | none, .tuple items => .sequence items.toList
    | none, .dict entries => .mapping (entries.map fun entry => (entry.key, entry.value))
    | none, .wrapper v => .scalar v
    | none, _ => (g.indexReply? id).elim .kept fun k => .scalar (.integer k)

/-- Whether an object is taken for an iterable one, or for one with an index, although neither its class nor
those that this extends hold anything for that. -/
def isMisread (g : Guest) (id : Identity) : Bool :=
  !g.isMarked id && (g.home? id).any fun home =>
    (g.isIterable id && (g.entryIn home (.ofString "__iter__")).isNone) ||
      (g.offersIndex id && (g.plainInt? id).isNone && (g.entryIn home (.ofString "__index__")).isNone)

/-- However often an object is asked for its mark, it answers the same, and no object is changed. -/
def IsSteadilyMarked (g : Guest) (n id : Identity) : Prop := ∀ g', g.Later n g' →
  g'.isMarked id = g.isMarked id ∧ ∃ g'', GuestM.atTop (GuestM.askForMark id) g' = .ok ⟨⟩ g'' ∧ g'.Grows g''

/-- However often a class is asked for a name, it answers the same. -/
def AnswersSteadily (g : Guest) (n home : Identity) (name : String) : Prop := ∀ g', g.Later n g' →
  g'.classAnswers home name = g.classAnswers home name

/-- An object of the interpreter's own class that is a collection only if it is a list, a tuple or a
dictionary. -/
def IsOwnOrdinary : Body → Prop
  | .list _ | .tuple _ | .dict _ | .text _ => True
  | body => body.isIterable = false

/-- An object without the mark, of a class that starts no iterations and gives an integer for it at most. -/
structure IsUnmarkedInstance (g : Guest) (n id home : Identity) : Prop where
  scalar : g.scalar? id = none ∨ ∃ k, g.body id = .int k
  data : (g.body id).isIterable = false
  said : g.special? id "__class__" = none
  lookup : g.special? id "__getattribute__" = none
  mapping : g.isMappingClass home = false
  iteration : g.entryIn home (.ofString "__iter__") = none
  items : g.isIterable id = true → g.entryIn home (.ofString "__getitem__") = none
  index : (g.plainInt? id).isSome ∨ (g.indexReply? id).isSome ∨
    g.entryIn home (.ofString "__index__") = none
  steady : g.AnswersSteadily n home "__iter__" ∧ g.AnswersSteadily n home "__index__"

/-- An ordinary object: a text has no surrogates, and an object of a script's class is no wrapper, and is marked,
gives an integer as an index, or is opaque. -/
structure IsOrdinary (g : Guest) (n id : Identity) : Prop where
  holds : g.Holds id
  apart : id ≠ n
  mark : g.IsSteadilyMarked n id
  wrapped : (g.wrapped? id).isSome → g.home? id = none
  text : ∀ t, g.body id = .text t → ∃ s, t.encode = .ok s
  own : g.home? id = none → IsOwnOrdinary (g.body id)
  unmarked : ∀ home, g.home? id = some home → g.isMarked id = false → g.IsUnmarkedInstance n id home

/-- Ordinary objects that are made up of each other. The namespace is none of them. -/
structure IsOrdinaryGraph (g : Guest) (n : Identity) (objects : Identity → Prop) : Prop where
  ordinary : ∀ id, objects id → g.IsOrdinary n id
  parts : ∀ id, objects id → ∀ part ∈ (g.shape id).parts, objects part

/-! ### Later states -/

variable {n id home : Identity} {g g' : Guest}

theorem Later.wholeNumber?_eq (h : g.Later n g') (hk : g.WellKept n) (hid : g.Holds id) :
    g'.wholeNumber? id = g.wholeNumber? id := by
  unfold wholeNumber?
  rcases h.body_cases hk hid with he | ⟨d, d', hd, hd'⟩
  · rw [he]
  · rw [hd, hd']

theorem Later.indexReply?_eq (h : g.Later n g') (hk : g.WellKept n) (hid : g.Holds id) :
    g'.indexReply? id = g.indexReply? id := by
  unfold indexReply?
  rw [h.special?_eq hk hid (by decide)]
  cases hs : g.special? id "__index__" with
  | none => rfl
  | some value =>
    rcases h.body_cases hk (hk.grounded.special hs) with he | ⟨d, d', hd, hd'⟩
    · rw [Option.map_some, Option.map_some, he]
      split
      · next f at? hb =>
        cases hf : f.returned? with
        | none => rfl
        | some object =>
          have hbody : (g.object value).body = .function f at? := Option.some.inj hb
          rw [Option.bind_some, Option.bind_some]
          exact h.wholeNumber?_eq hk (hk.grounded value object
            (by simp [Object.references, hbody, Body.references, hf]))
      · rfl
    · rw [Option.map_some, Option.map_some, hd, hd']

namespace IsOrdinary

theorem isMarked_eq (ho : g.IsOrdinary n id) (h : g.Later n g') : g'.isMarked id = g.isMarked id :=
  (ho.mark g' h).1

theorem isIterable_eq (ho : g.IsOrdinary n id) (hm : g.isMarked id = false) (h : g.Later n g') :
    g'.isIterable id = g.isIterable id := by
  rw [isIterable, isIterable, h.home?_eq ho.holds]
  cases hc : g.home? id with
  | none => rw [h.body_eq ho.holds ho.apart]
  | some home => exact (ho.unmarked home hc hm).steady.1 g' h

theorem offersIndex_eq (ho : g.IsOrdinary n id) (hm : g.isMarked id = false) (h : g.Later n g') :
    g'.offersIndex id = g.offersIndex id := by
  rw [offersIndex, offersIndex, h.home?_eq ho.holds]
  cases hc : g.home? id with
  | none => rfl
  | some home => rw [Option.any_some, Option.any_some, (ho.unmarked home hc hm).steady.2 g' h]

theorem shape_eq (ho : g.IsOrdinary n id) (hk : g.WellKept n) (h : g.Later n g') : g'.shape id = g.shape id := by
  unfold shape scalar? wrapped?
  rw [ho.isMarked_eq h, h.body_eq ho.holds ho.apart, h.indexReply?_eq hk ho.holds]

theorem isMisread_eq (ho : g.IsOrdinary n id) (hk : g.WellKept n) (h : g.Later n g') :
    g'.isMisread id = g.isMisread id := by
  rw [isMisread, isMisread, ho.isMarked_eq h]
  cases hm : g.isMarked id with
  | true => rfl
  | false =>
    rw [ho.isIterable_eq hm h, ho.offersIndex_eq hm h, plainInt?, plainInt?, h.home?_eq ho.holds,
      h.body_eq ho.holds ho.apart]
    cases hc : g.home? id with
    | none => rfl
    | some home =>
      have hhome := hk.grounded.home hc
      rw [Option.any_some, Option.any_some, h.entryIn_eq hk hhome (by decide), h.entryIn_eq hk hhome (by decide)]

private theorem unmarked_later (ho : g.IsOrdinary n id) (hk : g.WellKept n) (h : g.Later n g')
    (hc : g.home? id = some home) (hm : g.isMarked id = false) : g'.IsUnmarkedInstance n id home := by
  have hu := ho.unmarked home hc hm
  have hid := ho.holds
  have hhome := hk.grounded.home hc
  have hbody := h.body_eq hid ho.apart
  refine ⟨?_, ?_, ?_, ?_, ?_, ?_, ?_, ?_, ?_⟩
  · simp only [scalar?, hbody]
    exact hu.scalar
  · rw [hbody]
    exact hu.data
  · rw [h.special?_eq hk hid (by decide)]
    exact hu.said
  · rw [h.special?_eq hk hid (by decide)]
    exact hu.lookup
  · rw [h.isMappingClass_eq hk hhome]
    exact hu.mapping
  · rw [h.entryIn_eq hk hhome (by decide)]
    exact hu.iteration
  · rw [ho.isIterable_eq hm h, h.entryIn_eq hk hhome (by decide)]
    exact hu.items
  · rw [plainInt?, hbody, h.indexReply?_eq hk hid, h.entryIn_eq hk hhome (by decide)]
    exact hu.index
  · refine ⟨fun g'' h' => ?_, fun g'' h' => ?_⟩
    · rw [hu.steady.1 g'' (h.trans h'), hu.steady.1 g' h]
    · rw [hu.steady.2 g'' (h.trans h'), hu.steady.2 g' h]

/-- Ordinary objects stay ordinary. -/
theorem later (ho : g.IsOrdinary n id) (hk : g.WellKept n) (h : g.Later n g') : g'.IsOrdinary n id where
  holds := h.holds ho.holds
  apart := ho.apart
  mark g'' h' := by
    obtain ⟨hsame, hrun⟩ := ho.mark g'' (h.trans h')
    exact ⟨by rw [hsame, ho.isMarked_eq h], hrun⟩
  wrapped := by
    rw [wrapped?, h.body_eq ho.holds ho.apart, h.home?_eq ho.holds]
    exact ho.wrapped
  text t ht := by
    rw [h.body_eq ho.holds ho.apart] at ht
    exact ho.text t ht
  own hc := by
    rw [h.home?_eq ho.holds] at hc
    rw [h.body_eq ho.holds ho.apart]
    exact ho.own hc
  unmarked home hc hm := by
    rw [h.home?_eq ho.holds] at hc
    rw [ho.isMarked_eq h] at hm
    exact ho.unmarked_later hk h hc hm

end IsOrdinary
end Guest
end ScriptHost
