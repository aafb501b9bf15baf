import Mathlib.Data.String.Basic
import ScriptHost.Script.Import
import ScriptHost.Proofs.Guest.Namespace

/-! Growth of the heap: computations that make objects of their own and touch no other, up to the import
of a module that is part of the interpreter. -/
namespace ScriptHost

/-! ### Texts in one piece -/

private theorem splitOnAux_of_not_mem {c : Char} (front rest : List Char) (h : c ∉ rest) :
    String.splitOnAux (.ofList (front ++ rest)) (.singleton c) 0 ⟨String.utf8Len front⟩ 0 [] =
      [.ofList (front ++ rest)] := by
  induction rest generalizing front with
  | nil =>
    rw [String.splitOnAux, if_pos ((String.atEnd_of_valid front []).mpr rfl)]
    simpa using String.extract_of_valid [] front []
  | cons d rest ih =>
    rw [List.mem_cons, not_or] at h
    have hmore := mt (String.atEnd_of_valid front (d :: rest)).mp (List.cons_ne_nil d rest)
    have hget : String.Pos.Raw.get (.singleton c) 0 = c := by
      simpa using String.get_of_valid [] [c]
    have hnext : String.Pos.Raw.next (.ofList (front ++ d :: rest))
        (String.Pos.Raw.unoffsetBy ⟨String.utf8Len front⟩ 0) = ⟨String.utf8Len (front ++ [d])⟩ := by
      rw [String.utf8Len_append, String.utf8Len_cons, String.utf8Len_nil, Nat.zero_add]
      exact String.next_of_valid front d rest
    have hrest := ih (front ++ [d]) h.2
    rw [List.append_assoc, List.singleton_append] at hrest
    rw [String.splitOnAux, if_neg hmore, String.get_of_valid, hget, List.headD_cons,
      if_neg (by simpa using Ne.symm h.1), hnext, hrest]

/-- A text without a character is not divided at it. -/
theorem splitOn_of_not_mem {s : String} {c : Char} (h : c ∉ s.toList) : s.splitOn (.singleton c) = [s] := by
  have hsplit := splitOnAux_of_not_mem [] s.toList h
  rw [List.nil_append, String.ofList_toList] at hsplit
  rw [String.splitOn, if_neg (by simp)]
  exact hsplit

namespace Guest

/-- No integer of the interpreter's own class carries attributes. -/
def Bare (g : Guest) : Prop :=
  ∀ id k, g.isExact id = true → g.body id = .int k → (g.object id).attributes = none

/-- An interpreter with more objects, where those that were there are as they were. -/
structure Grows (g g' : Guest) : Prop where
  size_le : g.heap.size ≤ g'.heap.size
  object : ∀ id, g.Holds id → g'.object id = g.object id
  halted : g'.halted = g.halted
  bare : g.Bare → g'.Bare

namespace Grows
variable {g g' g'' : Guest}

theorem refl (g : Guest) : Grows g g := ⟨Nat.le_refl _, fun _ _ => rfl, rfl, fun h => h⟩

theorem holds (h : Grows g g') {id : Identity} (hid : g.Holds id) : g'.Holds id :=
  Nat.lt_of_lt_of_le hid h.size_le

theorem trans (h : Grows g g') (h' : Grows g' g'') : Grows g g'' where
  size_le := Nat.le_trans h.size_le h'.size_le
  object id hid := (h'.object id (h.holds hid)).trans (h.object id hid)
  halted := h'.halted.trans h.halted
  bare hb := h'.bare (h.bare hb)

end Grows

theorem Adds.grows {g g' : Guest} (h : g.Adds g') : g.Grows g' where
  size_le := h.size_le
  object id hid := h.object_eq hid
  halted := by
    obtain ⟨bodies, constants, rfl⟩ := h
    rfl
  bare hb id k hexact hbody := by
    by_cases hid : g.Holds id
    · rw [isExact, home?, h.object_eq hid] at hexact
      rw [body, h.object_eq hid] at hbody
      rw [h.object_eq hid]
      exact hb id k hexact hbody
    · exact (h.fresh hid).2

end Guest

namespace GuestM
open Stepping
variable {g₀ : Guest} {α β : Type}

/-- A computation that does not raise and changes no object that was there in some state. -/
def Builds (g₀ : Guest) (run : GuestM α) (answer : α → Prop) : Prop :=
  ∀ context g, g₀.Grows g → ∃ a g', run context g = .ok a g' ∧ g₀.Grows g' ∧ answer a

namespace Builds

theorem pure {a : α} {answer : α → Prop} (h : answer a) : Builds g₀ (Pure.pure a) answer :=
  fun _ g hg => ⟨a, g, rfl, hg, h⟩

theorem bind {run : GuestM α} {next : α → GuestM β} {mid : α → Prop} {answer : β → Prop}
    (h : Builds g₀ run mid) (hnext : ∀ a, mid a → Builds g₀ (next a) answer) :
    Builds g₀ (run >>= next) answer := by
  intro context g hg
  obtain ⟨a, g', hrun, hg', ha⟩ := h context g hg
  obtain ⟨b, g'', hrun', hg'', hb⟩ := hnext a ha context g' hg'
  exact ⟨b, g'', by simp [hrun, hrun'], hg'', hb⟩

theorem mono {run : GuestM α} {mid answer : α → Prop} (h : Builds g₀ run mid)
    (hanswer : ∀ a, mid a → answer a) : Builds g₀ run answer := by
  intro context g hg
  obtain ⟨a, g', hrun, hg', ha⟩ := h context g hg
  exact ⟨a, g', hrun, hg', hanswer a ha⟩

theorem get {next : Guest → GuestM β} {answer : β → Prop} (h : ∀ g, Builds g₀ (next g) answer) :
    Builds g₀ (MonadState.get >>= next) answer := by
  intro context g hg
  obtain ⟨b, g', hrun, hg', hb⟩ := h g context g hg
  exact ⟨b, g', by simp [hrun], hg', hb⟩

/-- A loop builds if each of its rounds does and none of them leaves it. -/
theorem forIn {γ : Type} {items : List γ} {round : γ → PUnit → GuestM (ForInStep PUnit)}
    (h : ∀ item ∈ items, Builds g₀ (round item ⟨⟩) fun step => step = .yield ⟨⟩) :
    Builds g₀ (ForIn.forIn items ⟨⟩ round) fun _ => True := by
  induction items with
  | nil => exact pure trivial
  | cons item items ih =>
    obtain ⟨hitem, hitems⟩ := List.forall_mem_cons.mp h
    rw [List.forIn_cons]
    refine hitem.bind fun step hstep => ?_
    subst hstep
    exact ih hitems

end Builds

/-! ### Objects of their own -/

theorem builds_allocate (body : Body) : Builds g₀ (allocate body) fun id => ¬ g₀.Holds id := by
  intro context g hg
  refine ⟨_, _, allocate_run body context g, hg.trans (Guest.Adds.push g body).grows, ?_⟩
  exact Nat.not_lt_of_le hg.size_le

theorem builds_intern (c : Constant) : Builds g₀ (intern c) fun _ => True := by
  intro context g hg
  obtain ⟨id, g', hrun, hadds, _⟩ := internIn_run 0 c context g
  exact ⟨id, g', hrun, hg.trans hadds.grows, trivial⟩

theorem builds_string (s : String) : Builds g₀ (string s) fun _ => True := by
  unfold string text
  split
  · exact builds_intern _
  · exact (builds_allocate _).mono fun _ _ => trivial

theorem builds_list (items : List Identity) : Builds g₀ (list items) fun _ => True :=
  (builds_allocate _).mono fun _ _ => trivial

/-- The object of an integer is one of the interpreter's own class. -/
theorem int_run (k : Int) (context : Context) (g : Guest) :
    ∃ id g', int k context g = .ok id g' ∧ g.Adds g' ∧ g'.Holds id ∧ g'.isExact id = true ∧
      g'.body id = .int k := by
  unfold int
  split
  · exact internIn_run 0 (.int k) context g
  · refine ⟨_, _, allocate_run (.int k) context g, .push g _, ?_, ?_, ?_⟩
    · simp [Guest.Holds, Guest.next, Guest.adding]
    · simp [Guest.isExact, Guest.home?, Guest.object_adding]
    · simp [Guest.body, Guest.object_adding]

/-- Writing a namespace touches no other object and makes no integer. -/
theorem bare_withBody {g : Guest} (hb : g.Bare) (id : Identity) (d : Dict) :
    (g.withBody id (.dict d)).Bare := by
  intro other k hexact hbody
  by_cases he : other = id
  · subst he
    rw [Guest.body_withBody_dict] at hbody
    split at hbody <;> cases hbody
  · rw [Guest.isExact, Guest.home?, Guest.object_withBody_of_ne g he] at hexact
    rw [Guest.body, Guest.object_withBody_of_ne g he] at hbody
    rw [Guest.object_withBody_of_ne g he]
    exact hb other k hexact hbody

private theorem grows_withBody {g : Guest} (hg : g₀.Grows g) {id : Identity} (hid : ¬ g₀.Holds id)
    (d : Dict) : g₀.Grows (g.withBody id (.dict d)) where
  size_le := by simpa using hg.size_le
  object other ho := by
    have hne : other ≠ id := fun he => hid (he ▸ ho)
    rw [Guest.object_withBody_of_ne g hne, hg.object other ho]
  halted := hg.halted
  bare hb := bare_withBody (hg.bare hb) id d

/-- Setting a name of a namespace that is new touches nothing that was there. -/
theorem builds_setName {attributes : Identity} (hattributes : ¬ g₀.Holds attributes) (t : Text)
    (value : Identity) : Builds g₀ (setName attributes t value) fun _ => True := by
  intro context g hg
  obtain ⟨key, g', hadds, hrun⟩ := setName_run attributes t value context g
  exact ⟨_, _, hrun, grows_withBody (hg.trans hadds.grows) hattributes _, trivial⟩

/-! ### Modules that are part of the interpreter -/

private theorem grows_modify {g : Guest} (hg : g₀.Grows g) {id : Identity} (hid : ¬ g₀.Holds id)
    (hbody : ∀ k, g.body id ≠ .int k) (change : Object → Object)
    (hchange : ∀ o, (change o).body = o.body) :
    g₀.Grows { g with heap := g.heap.modify id.index change } := by
  have hother : ∀ other, other ≠ id →
      Guest.object { g with heap := g.heap.modify id.index change } other = g.object other := by
    intro other hne
    have hi : id.index ≠ other.index := by
      intro hi
      cases other; cases id
      simp_all
    simp [Guest.object, Array.getD_eq_getD_getElem?, Array.getElem?_modify, hi]
  refine ⟨by simpa using hg.size_le, fun other ho => ?_, hg.halted, fun hb other k hexact hk => ?_⟩
  · rw [hother other fun he => hid (he ▸ ho), hg.object other ho]
  · by_cases he : other = id
    · subst he
      refine absurd ?_ (hbody k)
      by_cases hin : other.index < g.heap.size
      · simpa [Guest.body, Guest.object, Array.getD_eq_getD_getElem?, Array.getElem_modify, hin,
          hchange] using hk
      · simp [Guest.body, Guest.object, Array.getD_eq_getD_getElem?, hin, default] at hk
    · rw [Guest.isExact, Guest.home?, hother other he] at hexact
      rw [Guest.body, hother other he] at hk
      rw [hother other he]
      exact hg.bare hb other k hexact hk

/-- A new object that is given attributes gets a new dictionary for them. -/
private theorem attributesOf_run {id : Identity} {g : Guest} (hg : g₀.Grows g) (hid : ¬ g₀.Holds id)
    (hheld : g.Holds id) (hbody : ∀ k, g.body id ≠ .int k) (hnone : g.ownAttributes? id = Option.none)
    (context : Context) : ∃ attributes g', attributesOf id context g = .ok attributes g' ∧
      g₀.Grows g' ∧ ¬ g₀.Holds attributes := by
  have hgrown := hg.trans (Guest.Adds.push g (.dict [])).grows
  have hbody' : ∀ k, (g.adding { body := .dict [] }).body id ≠ .int k := by
    intro k
    rw [Guest.body, (Guest.Adds.push g (.dict [])).object_eq hheld]
    exact hbody k
  refine ⟨g.next, _, ?_, grows_modify hgrown hid hbody' (fun o => { o with attributes := some g.next })
    fun _ => rfl, Nat.not_lt_of_le hg.size_le⟩
  unfold attributesOf
  simp only [reader_bind_run, reader_get_run, hnone]
  rw [allocate_run]
  rfl

theorem builds_optionalString (s : Option String) : Builds g₀ (optionalString s) fun _ => True := by
  cases s with
  | some s => exact builds_string s
  | none => exact builds_intern _

/-- A module's specification is a new object with new attributes. -/
private theorem builds_specification (name : String) (origin : Option String) (loader parts : Identity)
    (hasFile : Bool) : Builds g₀ (specification name origin loader parts hasFile) fun _ => True := by
  intro context g hg
  unfold specification
  rw [reader_bind_run, allocate_run]
  dsimp only
  have hbody : (g.adding { body := .plain "ModuleSpec" }).body g.next = .plain "ModuleSpec" := by
    rw [Guest.body, Guest.object_adding]
  have hnone : (g.adding { body := .plain "ModuleSpec" }).ownAttributes? g.next = Option.none := by
    rw [Guest.ownAttributes?, hbody, Guest.object_adding]
  have hheld : (g.adding { body := .plain "ModuleSpec" }).Holds g.next := by
    simp [Guest.Holds, Guest.next, Guest.adding]
  have hnew : ¬ g₀.Holds g.next := Nat.not_lt_of_le hg.size_le
  obtain ⟨attributes, g₁, hrun, hg₁, hattributes⟩ := attributesOf_run
    (hg.trans (Guest.Adds.push g (.plain "ModuleSpec")).grows) hnew hheld
    (fun k hk => by rw [hbody] at hk; cases hk) hnone context
  rw [reader_bind_run, hrun]
  dsimp only
  refine Builds.bind (builds_optionalString origin) (fun origin _ => .get fun _ => ?_) context g₁ hg₁
  refine (builds_string name).bind fun _ _ => (builds_intern _).bind fun _ _ => ?_
  refine (builds_intern _).bind fun _ _ => (builds_intern _).bind fun _ _ => ?_
  refine (builds_string _).bind fun _ _ => (builds_list []).bind fun _ _ => ?_
  refine Builds.bind (.forIn fun item _ => ?_) fun _ _ => .pure trivial
  exact (builds_setName hattributes _ _).bind fun _ _ => .pure rfl

private theorem builds_standardLoader (name : String) : Builds g₀ (standardLoader name) fun _ => True := by
  unfold standardLoader
  split
  · exact builds_intern _
  · split
    · exact builds_intern _
    · exact (builds_allocate _).mono fun _ _ => trivial

private theorem builds_standardParts (name : String) : Builds g₀ (standardParts name) fun _ => True := by
  unfold standardParts
  split
  · split
    · exact (builds_string _).bind fun _ _ => builds_list _
    · exact builds_intern _
  · exact builds_intern _

private theorem builds_presentSource {attributes : Identity} (hattributes : ¬ g₀.Holds attributes)
    (parts : Identity) (source : Option String) :
    Builds g₀ (presentSource attributes parts source) fun _ => True := by
  cases source with
  | some file =>
    refine (builds_string file).bind fun _ _ => (builds_setName hattributes _ _).bind fun _ _ => .get fun g => ?_
    split
    · exact builds_setName hattributes _ _
    · exact .pure trivial
  | none => exact .pure trivial

private theorem builds_presentStandard {attributes : Identity} (hattributes : ¬ g₀.Holds attributes)
    {name : String} (hname : name ≠ "math") : Builds g₀ (presentStandard attributes name) fun _ => True := by
  unfold presentStandard
  simp only [hname, if_false]
  refine (builds_standardLoader name).bind fun _ _ => (builds_standardParts name).bind fun _ _ => ?_
  refine (builds_string name).bind fun _ _ => (builds_setName hattributes _ _).bind fun _ _ => ?_
  refine (builds_intern _).bind fun _ _ => (builds_setName hattributes _ _).bind fun _ _ => ?_
  refine (builds_string _).bind fun _ _ => (builds_setName hattributes _ _).bind fun _ _ => ?_
  refine (builds_setName hattributes _ _).bind fun _ _ => ?_
  refine (builds_specification _ _ _ _ _).bind fun _ _ => (builds_setName hattributes _ _).bind fun _ _ => ?_
  exact (builds_presentSource hattributes _ _).bind fun _ _ => .pure trivial

private theorem builds_standardModule {name : String} (hname : Standard.trueName name ≠ "math") :
    Builds g₀ (standardModule name) fun _ => True := by
  unfold standardModule
  refine .get fun g => ?_
  split
  · exact .pure trivial
  · refine (builds_allocate _).bind fun attributes hattributes => ?_
    refine (builds_presentStandard hattributes hname).bind fun _ _ => (builds_allocate _).bind fun id _ => ?_
    have hfiled : Builds g₀ (modify fun g => { g with
        standardModules := g.standardModules ++ [(Standard.trueName name, id)] }) fun _ => True :=
      fun _ _ hg => ⟨⟨⟩, _, rfl, ⟨hg.size_le, hg.object, hg.halted, hg.bare⟩, trivial⟩
    exact hfiled.bind fun _ _ => .pure trivial

private theorem builds_refuseHalted {name : String} (h : name ∉ g₀.halted) :
    Builds g₀ (refuseHalted name) fun _ => True := by
  intro context g hg
  have hname : name ∉ g.halted := by rwa [hg.halted]
  exact ⟨⟨⟩, g, by simp [refuseHalted, hname], hg, trivial⟩

/-- The operators' module comes up without a change to what was there. -/
theorem builds_hostImport (hbuiltins : "builtins" ∉ g₀.halted) (hoperator : "operator" ∉ g₀.halted) :
    Builds g₀ (hostImport "operator") fun _ => True := by
  have hwhole : "operator".splitOn "." = ["operator"] := splitOn_of_not_mem (c := '.') (by decide)
  unfold hostImport
  rw [hwhole]
  refine (builds_refuseHalted hbuiltins).bind fun _ _ => ?_
  refine (builds_refuseHalted hoperator).bind fun _ _ => ?_
  exact (builds_refuseHalted hoperator).bind fun _ _ => builds_standardModule (by decide)

end GuestM
end ScriptHost
