import ScriptHost.Evaluator.World

/-! The order of resolution: whatever is registered, a table has the converters of each direction in the stable order
of falling priority. What accepts a value first is then what has the highest priority and was registered earliest. -/
namespace ScriptHost
namespace Converter
variable {Guard Conversion : Type} {c d : Converter Guard Conversion}
variable {registered list list' : List (Converter Guard Conversion)} {accepts : Converter Guard Conversion → Bool}

/-- Whether a converter may stand before another. -/
def mayPrecede (c d : Converter Guard Conversion) : Bool := decide (d.priority ≤ c.priority)

theorem mayPrecede_iff : c.mayPrecede d = true ↔ d.priority ≤ c.priority := decide_eq_true_iff

theorem mayPrecede_trans (c d e : Converter Guard Conversion) (h : c.mayPrecede d = true)
    (h' : d.mayPrecede e = true) : c.mayPrecede e = true := by
  rw [mayPrecede_iff] at h h' ⊢
  omega

theorem mayPrecede_total (c d : Converter Guard Conversion) : (c.mayPrecede d || d.mayPrecede c) = true := by
  rw [Bool.or_eq_true, mayPrecede_iff, mayPrecede_iff]
  omega

/-- A list of the registered converters, those of a higher priority first and those of one priority in the order of
their registrations. -/
structure InOrder (registered list : List (Converter Guard Conversion)) : Prop where
  perm : list.Perm registered
  falling : list.Pairwise fun c d => c.mayPrecede d = true
  stable : ∀ p : Int, (list.filter fun c => c.priority == p) = registered.filter fun c => c.priority == p

theorem insert_perm (c : Converter Guard Conversion) (list : List (Converter Guard Conversion)) :
    (c.insert list).Perm (list ++ [c]) := by
  induction list with
  | nil => rfl
  | cons first rest ih =>
    rw [insert]
    split
    · exact (List.perm_append_singleton c (first :: rest)).symm
    · exact ih.cons first

theorem insert_falling (h : list.Pairwise fun c d => c.mayPrecede d = true) :
    (c.insert list).Pairwise fun c d => c.mayPrecede d = true := by
  induction list with
  | nil => exact List.pairwise_singleton _ c
  | cons first rest ih =>
    obtain ⟨hfirst, hrest⟩ := List.pairwise_cons.mp h
    rw [insert]
    split
    · next hlower =>
      apply List.pairwise_cons.mpr
      constructor
      · intro d hd
        apply mayPrecede_iff.mpr
        rcases List.mem_cons.mp hd with rfl | hd
        · omega
        · have := mayPrecede_iff.mp (hfirst d hd)
          omega
      · exact h
    · next hlower =>
      apply List.pairwise_cons.mpr
      constructor
      · intro d hd
        rcases List.mem_append.mp ((insert_perm c rest).mem_iff.mp hd) with hd | hd
        · exact hfirst d hd
        · apply mayPrecede_iff.mpr
          rw [List.mem_singleton.mp hd]
          omega
      · exact ih hrest

/-- A converter is put after all others of its priority. -/
theorem insert_stable (h : list.Pairwise fun c d => c.mayPrecede d = true) (p : Int) :
    ((c.insert list).filter fun d => d.priority == p) = (list ++ [c]).filter fun d => d.priority == p := by
  induction list with
  | nil => rfl
  | cons first rest ih =>
    obtain ⟨hfirst, hrest⟩ := List.pairwise_cons.mp h
    rw [insert]
    split
    · next hlower =>
      have hnone (hp : c.priority = p) : ((first :: rest).filter fun d => d.priority == p) = [] := by
        apply List.filter_eq_nil_iff.mpr
        intro d hd
        rw [beq_iff_eq]
        rcases List.mem_cons.mp hd with rfl | hd
        · omega
        · have := mayPrecede_iff.mp (hfirst d hd)
          omega
      rw [List.filter_append]
      by_cases hp : c.priority = p
      · rw [hnone hp, List.filter_cons, hnone hp, List.nil_append, List.filter_cons, List.filter_nil]
      · have hskip (later : List (Converter Guard Conversion)) :
            ((c :: later).filter fun d => d.priority == p) = later.filter fun d => d.priority == p :=
          List.filter_cons_of_neg (by simpa using hp)
        rw [hskip, hskip, List.filter_nil, List.append_nil]
    · rw [List.cons_append, List.filter_cons, List.filter_cons, ih hrest]

namespace InOrder

/-- Registering one more converter keeps the order. -/
theorem insert (h : InOrder registered list) (c : Converter Guard Conversion) :
    InOrder (registered ++ [c]) (c.insert list) where
  perm := (insert_perm c list).trans (h.perm.append_right [c])
  falling := insert_falling h.falling
  stable p := by rw [insert_stable h.falling, List.filter_append, List.filter_append, h.stable]

theorem foldl_insert (h : InOrder registered list) (later : List (Converter Guard Conversion)) :
    InOrder (registered ++ later) (later.foldl (fun list c => c.insert list) list) := by
  induction later generalizing registered list with
  | nil => rwa [List.append_nil]
  | cons c later ih =>
    have := ih (h.insert c)
    rwa [List.append_assoc, List.singleton_append] at this

/-- Converters that are registered in the order of resolution stay as they are. -/
theorem of_falling (h : list.Pairwise fun c d => c.mayPrecede d = true) : InOrder list list :=
  ⟨.refl list, h, fun _ => rfl⟩

theorem mergeSort (registered : List (Converter Guard Conversion)) :
    InOrder registered (registered.mergeSort mayPrecede) := by
  have hperm := List.mergeSort_perm registered mayPrecede
  refine ⟨hperm, List.pairwise_mergeSort mayPrecede_trans mayPrecede_total registered, fun p => ?_⟩
  -- those of one priority are sorted among themselves, so sorting keeps them in their order
  have hsorted : (registered.filter fun c => c.priority == p).Pairwise fun c d => c.mayPrecede d = true := by
    apply List.pairwise_of_forall_mem_list
    intro c hc d hd
    rw [List.mem_filter, beq_iff_eq] at hc hd
    exact mayPrecede_iff.mpr (by omega)
  have hkept := (List.sublist_mergeSort mayPrecede_trans mayPrecede_total hsorted List.filter_sublist).filter fun c => c.priority == p
  rw [List.filter_filter] at hkept
  simp only [Bool.and_self] at hkept
  exact (hkept.eq_of_length ((hperm.filter _).length_eq.symm)).symm

/-- There is one order of resolution. -/
theorem unique (h : InOrder registered list) (h' : InOrder registered list') : list = list' := by
  have hsame (p : Int) := (h.stable p).trans (h'.stable p).symm
  have hfalling := h.falling
  have hfalling' := h'.falling
  clear h h'
  induction list generalizing list' with
  | nil =>
    cases list' with
    | nil => rfl
    | cons d rest' => simpa using hsame d.priority
  | cons c rest ih =>
    cases list' with
    | nil => simpa using hsame c.priority
    | cons d rest' =>
      have hmem (e : Converter Guard Conversion) : e ∈ c :: rest ↔ e ∈ d :: rest' := by
        have := congrArg (e ∈ ·) (hsame e.priority)
        simpa only [List.mem_filter, BEq.rfl, and_true, eq_iff_iff] using this
      obtain ⟨hfirst, hrest⟩ := List.pairwise_cons.mp hfalling
      obtain ⟨hfirst', hrest'⟩ := List.pairwise_cons.mp hfalling'
      have hle : c.priority ≤ d.priority := by
        rcases List.mem_cons.mp ((hmem c).mp List.mem_cons_self) with rfl | hc
        · exact Int.le_refl _
        · exact mayPrecede_iff.mp (hfirst' c hc)
      have hge : d.priority ≤ c.priority := by
        rcases List.mem_cons.mp ((hmem d).mpr List.mem_cons_self) with rfl | hd
        · exact Int.le_refl _
        · exact mayPrecede_iff.mp (hfirst d hd)
      obtain rfl : c = d := by
        have := hsame c.priority
        rw [List.filter_cons_of_pos (by simp), List.filter_cons_of_pos (by simp; omega)] at this
        exact (List.cons.inj this).1
      have hrests (p : Int) : (rest.filter fun e => e.priority == p) = rest'.filter fun e => e.priority == p := by
        have := hsame p
        rw [List.filter_cons, List.filter_cons] at this
        split at this
        · exact (List.cons.inj this).2
        · exact this
      rw [ih hrests hrest hrest']

theorem eq_mergeSort (h : InOrder registered list) : list = registered.mergeSort mayPrecede :=
  h.unique (mergeSort registered)

end InOrder

/-- The accepting converter of the highest priority, the earliest registered of that priority. -/
def IsChosen (registered : List (Converter Guard Conversion)) (accepts : Converter Guard Conversion → Bool)
    (c : Converter Guard Conversion) : Prop :=
  ∃ earlier later, registered = earlier ++ c :: later ∧ accepts c = true ∧
    (∀ d ∈ earlier, accepts d = true → d.priority < c.priority) ∧
    ∀ d ∈ later, accepts d = true → d.priority ≤ c.priority

theorem IsChosen.unique (hc : IsChosen registered accepts c) (hd : IsChosen registered accepts d) : c = d := by
  obtain ⟨earlier, later, rfl, haccepts, hearlier, hlater⟩ := hc
  obtain ⟨earlier', later', hsplit, haccepts', hearlier', hlater'⟩ := hd
  rcases List.append_eq_append_iff.mp hsplit with ⟨between, rfl, htail⟩ | ⟨between, rfl, htail⟩
  · cases between with
    | nil => exact (List.cons.inj htail).1
    | cons first between =>
      obtain ⟨rfl, rfl⟩ := List.cons.inj htail
      have := hearlier' c (by simp) haccepts
      have := hlater d (by simp) haccepts'
      omega
  · cases between with
    | nil => exact (List.cons.inj htail).1.symm
    | cons first between =>
      obtain ⟨rfl, rfl⟩ := List.cons.inj htail
      have := hearlier d (by simp) haccepts'
      have := hlater' c (by simp) haccepts
      omega

namespace InOrder

theorem find?_eq_none (h : InOrder registered list) :
    list.find? accepts = none ↔ ∀ c ∈ registered, accepts c = false := by
  simp only [List.find?_eq_none, h.perm.mem_iff, Bool.not_eq_true]

private theorem isChosen_of_find? (h : InOrder registered list) (hfind : list.find? accepts = some c) :
    IsChosen registered accepts c := by
  obtain ⟨haccepts, before, after, hlist, hbefore⟩ := List.find?_eq_some_iff_append.mp hfind
  have hfalling := h.falling
  rw [hlist] at hfalling
  have hafter := (List.pairwise_cons.mp (List.pairwise_append.mp hfalling).2.1).1
  have hle {d : Converter Guard Conversion} (hd : d ∈ registered) (hd' : accepts d = true) :
      d.priority ≤ c.priority := by
    rw [← h.perm.mem_iff, hlist] at hd
    rcases List.mem_append.mp hd with hd | hd
    · simpa [hd'] using hbefore d hd
    · rcases List.mem_cons.mp hd with rfl | hd
      · exact Int.le_refl _
      · exact mayPrecede_iff.mp (hafter d hd)
  -- what was registered before `c` with the same priority is before it in the list, so it does not accept
  have hstable := h.stable c.priority
  rw [hlist, List.filter_append, List.filter_cons_of_pos (by simp), eq_comm, List.filter_eq_append_iff] at hstable
  obtain ⟨start, rest, rfl, hstart, hrest⟩ := hstable
  obtain ⟨skipped, later, rfl, hskipped, -, -⟩ := List.filter_eq_cons_iff.mp hrest
  refine ⟨start ++ skipped, later, (List.append_assoc _ _ _).symm, haccepts, fun d hd hd' => ?_,
    fun d hd hd' => hle (by simp [hd]) hd'⟩
  have hregistered : d ∈ start ++ (skipped ++ c :: later) := by
    rw [← List.append_assoc]
    exact List.mem_append_left _ hd
  apply Int.lt_iff_le_and_ne.mpr ⟨hle hregistered hd', fun heq => ?_⟩
  rcases List.mem_append.mp hd with hd | hd
  · have hmem : d ∈ start.filter fun e => e.priority == c.priority := List.mem_filter.mpr ⟨hd, beq_iff_eq.mpr heq⟩
    rw [hstart] at hmem
    have := (List.mem_filter.mp hmem).1
    simpa [hd'] using hbefore d this
  · exact hskipped d hd (beq_iff_eq.mpr heq)

/-- The first that accepts, in the order of resolution. -/
theorem find?_eq_some (h : InOrder registered list) :
    list.find? accepts = some c ↔ IsChosen registered accepts c := by
  constructor
  · exact h.isChosen_of_find?
  · intro hc
    cases hfind : list.find? accepts with
    | some d => rw [hc.unique (h.isChosen_of_find? hfind)]
    | none =>
      obtain ⟨earlier, later, rfl, haccepts, -⟩ := hc
      have := h.find?_eq_none.mp hfind c (by simp)
      rw [haccepts] at this
      cases this

/-- What has been registered in order is found in that order however much is registered after it. -/
theorem sublist {first later : List (Converter Guard Conversion)} (h : InOrder (first ++ later) list)
    (hfirst : first.Pairwise fun c d => c.mayPrecede d = true) : first.Sublist list := by
  rw [h.eq_mergeSort]
  exact List.sublist_mergeSort mayPrecede_trans mayPrecede_total hfirst (List.sublist_append_left first later)

end InOrder
end Converter

/-- A call that registers a converter. -/
inductive Registration where
  | inbound (c : InboundConverter)
  | outbound (c : OutboundConverter)

namespace Registration

def inbound? : Registration → Option InboundConverter
  | inbound c => some c
  | outbound _ => none

def outbound? : Registration → Option OutboundConverter
  | inbound _ => none
  | outbound c => some c

end Registration

namespace ConverterTable

/-- A table after a call, and what the call reports. -/
def register (t : ConverterTable) : Registration → ConverterTable × List Record
  | .inbound c => t.registerInbound c
  | .outbound c => t.registerOutbound c

/-- A table after some calls, one after the other. -/
def registerAll (t : ConverterTable) (calls : List Registration) : ConverterTable :=
  calls.foldl (fun t call => (t.register call).1) t

variable {start : ConverterTable} (calls : List Registration)

/-- Each direction has the converters that were registered for it, whatever was registered for the other. -/
theorem registerAll_eq (t : ConverterTable) : t.registerAll calls =
    { inbound := (calls.filterMap (·.inbound?)).foldl (fun list c => c.insert list) t.inbound
      outbound := (calls.filterMap (·.outbound?)).foldl (fun list c => c.insert list) t.outbound } := by
  induction calls generalizing t with
  | nil => rfl
  | cons call calls ih =>
    have hstep : t.registerAll (call :: calls) = (t.register call).1.registerAll calls := rfl
    rw [hstep, ih]
    cases call with
    | inbound c => rfl
    | outbound c => rfl

/-- The standard converters are all of one priority. -/
private theorem falling_of_start (h : start = .empty ∨ start = standard.1) :
    (start.inbound.Pairwise fun c d => c.mayPrecede d = true) ∧
      start.outbound.Pairwise fun c d => c.mayPrecede d = true := by
  rcases h with rfl | rfl
  · exact ⟨.nil, .nil⟩
  · constructor <;> · apply List.pairwise_of_forall_mem_list; decide

/-- What has been registered for the inbound direction, in time. -/
def registeredInbound (start : ConverterTable) (calls : List Registration) : List InboundConverter :=
  start.inbound ++ calls.filterMap (·.inbound?)

/-- What has been registered for the outbound direction, in time. -/
def registeredOutbound (start : ConverterTable) (calls : List Registration) : List OutboundConverter :=
  start.outbound ++ calls.filterMap (·.outbound?)

theorem registerAll_resolves (h : start = .empty ∨ start = standard.1) (calls : List Registration) :
    (start.registerAll calls).inbound = (start.registeredInbound calls).mergeSort Converter.mayPrecede ∧
    (start.registerAll calls).outbound = (start.registeredOutbound calls).mergeSort Converter.mayPrecede ∧
    (∀ v, (∀ c, Inbound.resolve (start.registerAll calls).inbound v = some c ↔
        Converter.IsChosen (start.registeredInbound calls) (·.guard v) c) ∧
      (Inbound.resolve (start.registerAll calls).inbound v = none ↔
        ∀ c ∈ start.registeredInbound calls, c.guard v = false)) ∧
    (∀ g id, (∀ c, Outbound.resolve (start.registerAll calls).outbound g id = some c ↔
        Converter.IsChosen (start.registeredOutbound calls) (·.guard g id) c) ∧
      (Outbound.resolve (start.registerAll calls).outbound g id = none ↔
        ∀ c ∈ start.registeredOutbound calls, c.guard g id = false)) ∧
    start.inbound.Sublist (start.registerAll calls).inbound ∧
    start.outbound.Sublist (start.registerAll calls).outbound := by
  obtain ⟨hfirst, hfirst'⟩ := falling_of_start h
  have hin := (Converter.InOrder.of_falling hfirst).foldl_insert (calls.filterMap (·.inbound?))
  have hout := (Converter.InOrder.of_falling hfirst').foldl_insert (calls.filterMap (·.outbound?))
  rw [registerAll_eq]
  refine ⟨hin.eq_mergeSort, hout.eq_mergeSort, fun v => ?_, fun g id => ?_, hin.sublist hfirst,
    hout.sublist hfirst'⟩
  · exact ⟨fun c => hin.find?_eq_some, hin.find?_eq_none⟩
  · exact ⟨fun c => hout.find?_eq_some, hout.find?_eq_none⟩

/-- Two converters of one name and priority that come before the standard ones, and two that come after them. -/
private def equipping : List Registration := [
  .inbound ⟨"sequence", 5, fun v => v.kind == .string, .handle⟩,
  .outbound ⟨"integer", -1, fun _ _ => true, .keep⟩,
  .inbound ⟨"sequence", 5, fun v => v.kind == .map, .sequence⟩,
  .inbound ⟨"text", -3, fun v => v.kind == .string, .mapping⟩]

theorem registerAll_resolves_tied : (standard.1.registerAll equipping).names .inbound =
      ["sequence", "sequence", "sequence", "mapping", "handle", "text"] ∧
    (standard.1.registerAll equipping).names .outbound =
      ["host_object", "skip_conversion", "mapping", "iterable", "integer", "integer"] ∧
    Inbound.resolve (standard.1.registerAll equipping).inbound (.map ValueMap.empty) =
      some ⟨"sequence", 5, fun v => v.kind == .map, .sequence⟩ ∧
    Inbound.resolve (standard.1.registerAll equipping).inbound .null = none := by
  have hresolve := (registerAll_resolves (.inr rfl) equipping).2.2.1
  refine ⟨by decide, by decide, ?_, ?_⟩
  · apply ((hresolve (.map ValueMap.empty)).1 _).mpr
    refine ⟨Inbound.standard ++ [⟨"sequence", 5, fun v => v.kind == .string, .handle⟩], _, rfl, rfl, ?_, ?_⟩
    all_goals decide
  · apply (hresolve .null).2.mpr
    decide

end ConverterTable
end ScriptHost
