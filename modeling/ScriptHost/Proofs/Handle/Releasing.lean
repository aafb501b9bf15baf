import ScriptHost.Proofs.Handle.History
import ScriptHost.Proofs.Value.MapEntries

/-! Giving back a value: each object loses as many handles as the value has of it, or all that it has. How the value
is nested, and in which order it comes to its handles, makes no difference to the registry. -/
namespace ScriptHost

/-! ### Entries that go -/

/-- A dictionary without the entries of some keys, and any other data as it is. -/
def Body.without (gone : Key → Bool) : Body → Body
  | .dict entries => .dict (entries.filter fun entry => !gone entry.form)
  | body => body

namespace Guest
variable {g : Guest} {n id : Identity} {gone gone' : Key → Bool}

/-- The interpreter with the entries of some keys taken out of a namespace. -/
def without (g : Guest) (n : Identity) (gone : Key → Bool) : Guest :=
  { g with heap := g.heap.modify n.index fun o => { o with body := o.body.without gone } }

private theorem body_of_heap {o : Object} (ho : g.heap[n.index]? = some o) : g.body n = o.body := by
  simp [body, object, Array.getD_eq_getD_getElem?, ho]

theorem without_eq_self (h : ∀ entry ∈ g.entries n, gone entry.form = false) : g.without n gone = g := by
  have hheap : (g.heap.modify n.index fun o => { o with body := o.body.without gone }) = g.heap := by
    apply Array.ext_getElem?
    intro i
    rw [Array.getElem?_modify]
    split
    · next hi =>
      subst hi
      cases ho : g.heap[n.index]? with
      | none => rfl
      | some o =>
        have hsame : o.body.without gone = o.body := by
          rw [Guest.entries, body_of_heap ho] at h
          cases hb : o.body with
          | dict entries =>
            rw [hb] at h
            have hstay : (entries.filter fun entry => !gone entry.form) = entries := by
              apply List.filter_eq_self.mpr
              intro entry hentry
              rw [h entry hentry]
              rfl
            rw [Body.without, hstay]
          | _ => rfl
        rw [Option.map_some, hsame]
    · rfl
  rw [without, hheap]

theorem without_without : (g.without n gone).without n gone' = g.without n fun form => gone form || gone' form := by
  have hbody (b : Body) : (b.without gone).without gone' = b.without fun form => gone form || gone' form := by
    cases b with
    | dict entries =>
      simp only [Body.without, List.filter_filter, Bool.not_or]
      congr 2
      funext entry
      rw [Bool.and_comm]
    | _ => rfl
  have hheap : ((g.heap.modify n.index fun o => { o with body := o.body.without gone }).modify n.index
      fun o => { o with body := o.body.without gone' }) =
      g.heap.modify n.index fun o => { o with body := o.body.without fun form => gone form || gone' form } := by
    apply Array.ext_getElem?
    intro i
    rw [Array.getElem?_modify, Array.getElem?_modify, Array.getElem?_modify]
    split
    · rw [Option.map_map]
      congr 1
      funext o
      rw [Function.comp_apply, hbody]
    · rfl
  rw [without, without, without, hheap]

theorem object_without_of_ne {other : Identity} (hne : other ≠ n) : (g.without n gone).object other = g.object other := by
  have hi : n.index ≠ other.index := by
    intro hi
    apply hne
    cases other
    cases n
    exact congrArg Identity.mk hi.symm
  simp [object, without, Array.getD_eq_getD_getElem?, Array.getElem?_modify, hi]

theorem entries_without : (g.without n gone).entries n = (g.entries n).filter fun entry => !gone entry.form := by
  have hbody : (g.without n gone).body n = (g.body n).without gone := by
    cases ho : g.heap[n.index]? with
    | none => simp [body, object, without, Array.getD_eq_getD_getElem?, Array.getElem?_modify, ho, default, Body.without]
    | some o => simp [body, object, without, Array.getD_eq_getD_getElem?, Array.getElem?_modify, ho]
  rw [entries, entries, hbody]
  cases g.body n <;> rfl

theorem lookup_without (name : Text) : (g.without n gone).lookup n name =
    if gone [.text name] = true then none else g.lookup n name := by
  rw [lookup, lookup, entries_without]
  induction g.entries n with
  | nil => exact (ite_self _).symm
  | cons entry rest ih =>
    rw [List.filter_cons, Dict.find?_cons]
    by_cases hform : entry.form = [.text name]
    · rw [hform]
      cases hgone : gone [.text name] with
      | true => simpa [hgone] using ih
      | false => simp [Dict.find?_cons, hform]
    · rw [if_neg hform, ← ih]
      split
      · rw [Dict.find?_cons, if_neg hform]
      · rfl

/-- An object whose entry is there is dropped by taking that entry out. -/
theorem dropped_eq_without (h : g.lookup n id.entryName ≠ none) :
    g.dropped n id = g.without n fun form => form == [.text id.entryName] := by
  have hdict : g.body n = .dict (g.entries n) := by
    rw [lookup, entries] at h
    rw [entries]
    cases hb : g.body n with
    | dict entries => rfl
    | _ => simp [hb, Dict.find?_nil] at h
  rw [dropped_eq, withBody, without]
  congr 1
  apply Array.ext_getElem?
  intro i
  rw [Array.getElem?_modify, Array.getElem?_modify]
  split
  · next hi =>
    subst hi
    cases ho : g.heap[n.index]? with
    | none => rfl
    | some o =>
      rw [Option.map_some, Option.map_some, ← body_of_heap ho, hdict]
      rfl
  · rfl

end Guest

/-! ### One handle -/

namespace Transfer
variable {t t' : Transfer} {ids : List Identity} {destroyed : Nat}

/-- What giving back handles does to a registry: the counts of their objects go down, and the entries of those that
have none left are taken out of the namespace. -/
structure GivesBack (t : Transfer) (ids : List Identity) (destroyed : Nat) (t' : Transfer) : Prop where
  count : ∀ id, t'.counts.count id = t.counts.count id - min (t.counts.count id) (ids.count id)
  positive : t'.counts.Positive
  live : t'.counts.live + destroyed = t.counts.live
  entries : ∃ gone : Key → Bool, t'.guest.unreported = (t.guest.without t.namespaceDict gone).unreported ∧
    ∀ form, gone form = true ↔
      ∃ id : Identity, form = [.text id.entryName] ∧ t.counts.count id ≠ 0 ∧ t'.counts.count id = 0
  namespaceDict : t'.namespaceDict = t.namespaceDict
  active : t'.active = t.active
  acquired : t'.acquired = t.acquired

namespace GivesBack

theorem nil (h : t.counts.Positive) : t.GivesBack [] 0 t where
  count id := by simp
  positive := h
  live := rfl
  entries := by
    refine ⟨fun _ => false, ?_, fun form => ?_⟩
    · rw [Guest.without_eq_self fun _ _ => rfl]
    · simp
  namespaceDict := rfl
  active := rfl
  acquired := rfl

/-- Giving back some handles and then others is giving back all of them. -/
theorem append {ids' : List Identity} {destroyed' : Nat} {t'' : Transfer} (h : t.GivesBack ids destroyed t')
    (h' : t'.GivesBack ids' destroyed' t'') : t.GivesBack (ids ++ ids') (destroyed + destroyed') t'' where
  count id := by
    rw [h'.count, h.count, List.count_append]
    omega
  positive := h'.positive
  live := by
    have := h.live
    have := h'.live
    omega
  entries := by
    obtain ⟨gone, hguest, hgone⟩ := h.entries
    obtain ⟨gone', hguest', hgone'⟩ := h'.entries
    refine ⟨fun form => gone form || gone' form, ?_, fun form => ?_⟩
    · calc
        _ = (t'.guest.unreported.without t'.namespaceDict gone').unreported := hguest'
        _ = ((t.guest.without t.namespaceDict gone).without t.namespaceDict gone').unreported := by
          rw [hguest, h.namespaceDict]
          rfl
        _ = _ := by rw [Guest.without_without]
    · rw [Bool.or_eq_true, hgone, hgone', ← exists_or]
      apply exists_congr
      intro id
      have := h'.count id
      have := h.count id
      rw [← and_or_left]
      refine and_congr_right fun _ => ?_
      omega
  namespaceDict := h'.namespaceDict.trans h.namespaceDict
  active := h'.active.trans h.active
  acquired := h'.acquired.trans h.acquired

end GivesBack
end Transfer

namespace TransferM
open Stepping
variable {t : Transfer}

theorem release_givesBack (h : t.counts.Positive) (id : Identity) : ∃ answer t', release id t = .ok answer t' ∧
    t.GivesBack [id] (if answer = .destroyed then 1 else 0) t' := by
  have hcount (other : Identity) : (t.counts.release id).2.count other =
      t.counts.count other - min (t.counts.count other) ([id].count other) := by
    rw [Counts.count_release]
    omega
  have hlive := Counts.live_release h id
  have hpositive := Counts.positive_release h id
  have hanswer := Counts.release_eq_destroyed_iff h id
  -- the only count that can become zero is the one of the object itself
  have hgone (form : Key) : (∃ other : Identity, form = [.text other.entryName] ∧ t.counts.count other ≠ 0 ∧
      (t.counts.release id).2.count other = 0) ↔ form = [.text id.entryName] ∧ t.counts.count id = 1 := by
    constructor
    · rintro ⟨other, rfl, hne, hzero⟩
      obtain ⟨rfl, hone⟩ := ((Counts.count_release_eq_zero_iff ..).mp hzero).resolve_left hne
      exact ⟨rfl, hone⟩
    · rintro ⟨rfl, hone⟩
      exact ⟨id, rfl, by omega, (Counts.count_release_eq_zero_iff ..).mpr (.inr ⟨rfl, hone⟩)⟩
  by_cases hdestroyed : (t.counts.release id).1 = .destroyed
  · simp only [hanswer.mp hdestroyed, and_true] at hgone
    rw [if_pos hdestroyed] at hlive
    by_cases hthere : t.guest.lookup t.namespaceDict id.entryName = none
    · obtain ⟨r, r', hrun⟩ := release_run_of_missing hdestroyed hthere
      refine ⟨_, _, hrun, hcount, hpositive, by simpa using hlive, ?_, rfl, rfl, rfl⟩
      refine ⟨fun form => form == [.text id.entryName], ?_, fun form => ?_⟩
      · -- an entry that is missing already is not taken out
        rw [Guest.without_eq_self fun entry hentry => ?_]
        · rfl
        · rw [Guest.lookup, Dict.find?, Option.map_eq_none_iff] at hthere
          simpa using List.find?_eq_none.mp hthere entry hentry
      · rw [beq_iff_eq, ← hgone]
    · obtain ⟨r, hrun⟩ := release_run_of_destroyed hdestroyed hthere
      refine ⟨_, _, hrun, hcount, hpositive, by simpa using hlive, ?_, rfl, rfl, rfl⟩
      refine ⟨fun form => form == [.text id.entryName], ?_, fun form => ?_⟩
      · rw [← Guest.dropped_eq_without hthere]
        rfl
      · rw [beq_iff_eq, ← hgone]
  · obtain ⟨r, hrun⟩ := release_run_of_kept hdestroyed
    have hmore : t.counts.count id ≠ 1 := mt hanswer.mpr hdestroyed
    refine ⟨_, _, hrun, hcount, hpositive, by simpa [hdestroyed] using hlive, ?_, rfl, rfl, rfl⟩
    refine ⟨fun _ => false, ?_, fun form => ?_⟩
    · rw [Guest.without_eq_self fun _ _ => rfl]
      rfl
    · rw [hgone]
      simp [hmore]

theorem releaseAll_givesBack (h : t.counts.Positive) (ids : List Identity) : ∃ destroyed t',
    releaseAll ids t = .ok destroyed t' ∧ t.GivesBack ids destroyed t' := by
  induction ids generalizing t with
  | nil => exact ⟨0, t, rfl, .nil h⟩
  | cons id ids ih =>
    obtain ⟨answer, t₁, hrun, hfirst⟩ := release_givesBack h id
    obtain ⟨destroyed, t₂, hrest, hlater⟩ := ih hfirst.positive
    have hall := hfirst.append hlater
    have hnumber : (if answer = .destroyed then destroyed + 1 else destroyed) =
        (if answer = .destroyed then 1 else 0) + destroyed := by
      split
      · exact Nat.add_comm _ _
      · exact (Nat.zero_add _).symm
    refine ⟨_, t₂, ?_, hall⟩
    rw [← hnumber, releaseAll, bind_run, hrun]
    dsimp only
    rw [bind_run, hrest]
    rfl

end TransferM

/-! ### A value -/

namespace Transfer
variable {t t' : Transfer} {v : Value} {destroyed : Nat}

/-- The states of a registry: it begins without handles, and between its calls the interpreter and what crosses to it
do what they like with all that is not its own. -/
inductive Arises : Transfer → Prop
  | start {t : Transfer} (hcounts : t.counts = ∅) : Arises t
  | call {t t' : Transfer} {steps : List HandleStep} (h : Arises t) (call : HandleCall)
    (hrun : call.run t = .ok steps t') : Arises t'
  | meanwhile {t : Transfer} (h : Arises t) (guest : Guest) (active : List Identity) (acquired : Array Identity) :
    Arises { t with guest, active, acquired }

/-- What giving back a value does to a registry. -/
structure Loses (t : Transfer) (v : Value) (destroyed : Nat) (t' : Transfer) : Prop where
  count : ∀ id, t'.counts.count id = t.counts.count id - min (t.counts.count id) (v.handles.count id)
  erased : ∀ id, t.counts.count id ≠ 0 → t'.counts.count id = 0 →
    t'.guest.lookup t.namespaceDict id.entryName = none
  kept : ∀ name, (∀ id : Identity, id.entryName = name → t.counts.count id ≠ 0 → t'.counts.count id ≠ 0) →
    t'.guest.lookup t.namespaceDict name = t.guest.lookup t.namespaceDict name
  destroyed : destroyed = Set.ncard {id | t.counts.count id ≠ 0 ∧ t'.counts.count id = 0}
  objects : ∀ other, other ≠ t.namespaceDict → t'.guest.object other = t.guest.object other
  namespaceDict : t'.namespaceDict = t.namespaceDict
  active : t'.active = t.active
  acquired : t'.acquired = t.acquired

private theorem positive_of_run {steps : List HandleStep} (h : t.counts.Positive) {call : HandleCall}
    (hrun : call.run t = .ok steps t') : t'.counts.Positive := by
  cases call with
  | acquire id =>
    obtain ⟨r, hacquire⟩ := TransferM.acquire_run id t
    rw [HandleCall.run, Stepping.bind_run, hacquire] at hrun
    cases hrun
    exact Counts.positive_acquire h id
  | retain id =>
    have hretain := TransferM.retain_run h id
    rw [HandleCall.run, Stepping.bind_run] at hrun
    split at hretain
    · rw [hretain] at hrun
      cases hrun
      exact h
    · obtain ⟨r, hretain⟩ := hretain
      rw [hretain] at hrun
      cases hrun
      exact Counts.positive_acquire h id
  | release id =>
    obtain ⟨answer, t₁, hrelease, hgives⟩ := TransferM.release_givesBack h id
    rw [HandleCall.run, Stepping.bind_run, hrelease] at hrun
    cases hrun
    exact hgives.positive
  | releaseValue v =>
    obtain ⟨destroyed, t₁, hrelease, hgives⟩ := TransferM.releaseAll_givesBack h v.handles
    have hvalue := congrFun (HandleCall.releaseValue_eq v) t
    rw [TransferM.releaseValue, hrelease, Stepping.map_run, hrun] at hvalue
    cases hvalue
    exact hgives.positive

theorem Arises.positive (h : t.Arises) : t.counts.Positive := by
  induction h with
  | start hcounts =>
    rw [hcounts]
    exact Counts.positive_empty
  | call _ call hrun ih => exact positive_of_run ih hrun
  | meanwhile _ _ _ _ ih => exact ih

private theorem arises_counting (ids : List Identity) : ∃ t : Transfer, t.Arises ∧
    ∀ id, t.counts.count id = ids.count id := by
  induction ids with
  | nil => exact ⟨{ guest := {}, namespaceDict := ⟨0⟩ }, .start rfl, fun _ => rfl⟩
  | cons id ids ih =>
    obtain ⟨t, h, hcount⟩ := ih
    obtain ⟨r, hrun⟩ := TransferM.acquire_run id t
    have hcall : ∃ t', (HandleCall.acquire id).run t = .ok [.acquired id] t' ∧ t'.counts = t.counts.acquire id := by
      rw [HandleCall.run, Stepping.bind_run, hrun]
      exact ⟨_, rfl, rfl⟩
    obtain ⟨t', hcall, hcounts⟩ := hcall
    refine ⟨t', h.call _ hcall, fun other => ?_⟩
    rw [hcounts, Counts.count_acquire, hcount, List.count_singleton, List.count_cons]

theorem GivesBack.loses (h : t.GivesBack v.handles destroyed t') (hpositive : t.counts.Positive) :
    t.Loses v destroyed t' := by
  obtain ⟨gone, hguest, hgone⟩ := h.entries
  have hlookup (name : Text) : t'.guest.lookup t.namespaceDict name =
      (t.guest.without t.namespaceDict gone).lookup t.namespaceDict name :=
    congrArg (fun g : Guest => g.unreported.lookup t.namespaceDict name) hguest
  refine ⟨h.count, fun id hid hid' => ?_, fun name hname => ?_, ?_, fun other hne => ?_, h.namespaceDict, h.active,
    h.acquired⟩
  · rw [hlookup, Guest.lookup_without, if_pos ((hgone _).mpr ⟨id, rfl, hid, hid'⟩)]
  · rw [hlookup, Guest.lookup_without, if_neg]
    intro hg
    obtain ⟨id, hform, hid, hid'⟩ := (hgone _).mp hg
    cases hform
    exact hname id rfl hid hid'
  · have hfewer : {id | t'.counts.count id ≠ 0} ⊆ {id | t.counts.count id ≠ 0} := by
      intro id hid
      have := h.count id
      rw [Set.mem_ofPred_eq] at hid ⊢
      omega
    have hlost : {id | t.counts.count id ≠ 0 ∧ t'.counts.count id = 0} =
        {id | t.counts.count id ≠ 0} \ {id | t'.counts.count id ≠ 0} := by
      ext id
      simp
    have hdiff := Set.ncard_sdiff_add_ncard_of_subset hfewer (Counts.finite_counted hpositive)
    have hlive := h.live
    rw [Counts.live_eq_card hpositive, Counts.live_eq_card h.positive] at hlive
    rw [hlost]
    omega
  · calc
      _ = (t.guest.without t.namespaceDict gone).object other :=
        congrArg (fun g : Guest => g.unreported.object other) hguest
      _ = _ := Guest.object_without_of_ne hne

end Transfer

namespace TransferM
variable {t : Transfer}

/-- Giving back a value takes from each object the handles that the value has of it; values with the same handles,
each as often, do the same. -/
theorem releaseValue_loses (h : t.Arises) (v : Value) : ∃ destroyed t', releaseValue v t = .ok destroyed t' ∧
    t.Loses v destroyed t' ∧ ∀ v' : Value, (∀ id, v'.handles.count id = v.handles.count id) →
      ∃ t'', releaseValue v' t = .ok destroyed t'' ∧
        { t'' with guest := t''.guest.unreported } = { t' with guest := t'.guest.unreported } := by
  obtain ⟨destroyed, t', hrun, hgives⟩ := releaseAll_givesBack h.positive v.handles
  refine ⟨destroyed, t', hrun, hgives.loses h.positive, fun v' hsame => ?_⟩
  obtain ⟨destroyed', t'', hrun', hgives'⟩ := releaseAll_givesBack h.positive v'.handles
  have hcounts : t''.counts = t'.counts := by
    apply Counts.ext_of_count hgives'.positive hgives.positive
    intro id
    rw [hgives'.count, hgives.count, hsame]
  have hguest : t''.guest.unreported = t'.guest.unreported := by
    obtain ⟨gone, hguest, hgone⟩ := hgives.entries
    obtain ⟨gone', hguest', hgone'⟩ := hgives'.entries
    have : gone' = gone := by
      funext form
      rw [Bool.eq_iff_iff, hgone', hgone, hcounts]
    rw [hguest, hguest', this]
  have hdestroyed : destroyed' = destroyed := by
    have := hgives.live
    have := hgives'.live
    rw [hcounts] at this
    omega
  refine ⟨t'', hdestroyed ▸ hrun', ?_⟩
  cases t'
  cases t''
  simp only [Transfer.mk.injEq]
  exact ⟨hguest, hgives'.namespaceDict.trans hgives.namespaceDict.symm, hcounts,
    hgives'.active.trans hgives.active.symm, hgives'.acquired.trans hgives.acquired.symm⟩

/-- A handle as the key of a map, and others in a list under it. -/
private def nested : ValueMap := ValueMap.ofList [(.handle ⟨2⟩, .list [.handle ⟨1⟩, .handle ⟨9⟩])]

private theorem handles_nested : (Value.list [.handle ⟨1⟩, .map nested, .handle ⟨2⟩]).handles =
    [⟨1⟩, ⟨2⟩, ⟨1⟩, ⟨9⟩, ⟨2⟩] := by
  have hentries : nested.toList = [(.handle ⟨2⟩, .list [.handle ⟨1⟩, .handle ⟨9⟩])] :=
    ValueMap.toList_ofList (List.pairwise_singleton _ _)
  simp only [Value.handles_list, List.flatMap_cons, List.flatMap_nil, Value.handles_map, hentries]
  rfl

/-- Two objects, the first with three handles, and a value with two handles of each and one of an object without any. -/
theorem releaseValue_loses_nested : ∃ t : Transfer, t.Arises ∧ t.counts.count ⟨1⟩ = 3 ∧ t.counts.count ⟨2⟩ = 1 ∧
    ∃ t', releaseValue (.list [.handle ⟨1⟩, .map nested, .handle ⟨2⟩]) t = .ok 1 t' ∧
      t'.counts.count ⟨1⟩ = 1 ∧ t'.counts.count ⟨2⟩ = 0 ∧
      t'.guest.lookup t.namespaceDict (Identity.entryName ⟨2⟩) = none ∧
      ∃ t'', releaseValue (.list [.handle ⟨9⟩, .handle ⟨2⟩, .handle ⟨2⟩, .handle ⟨1⟩, .handle ⟨1⟩]) t = .ok 1 t'' ∧
        { t'' with guest := t''.guest.unreported } = { t' with guest := t'.guest.unreported } := by
  obtain ⟨t, h, hcount⟩ := Transfer.arises_counting [⟨1⟩, ⟨1⟩, ⟨1⟩, ⟨2⟩]
  obtain ⟨destroyed, t', hrun, hloses, hsame⟩ := releaseValue_loses h (.list [.handle ⟨1⟩, .map nested, .handle ⟨2⟩])
  have hcount' := hloses.count
  simp only [handles_nested, hcount] at hcount' hsame
  have hperm : [(⟨9⟩ : Identity), ⟨2⟩, ⟨2⟩, ⟨1⟩, ⟨1⟩].Perm [⟨1⟩, ⟨2⟩, ⟨1⟩, ⟨9⟩, ⟨2⟩] := by decide
  obtain ⟨t'', hrun', heq⟩ := hsame (.list [.handle ⟨9⟩, .handle ⟨2⟩, .handle ⟨2⟩, .handle ⟨1⟩, .handle ⟨1⟩])
    fun id => hperm.count_eq id
  have hlost : {id | t.counts.count id ≠ 0 ∧ t'.counts.count id = 0} = {(⟨2⟩ : Identity)} := by
    ext id
    rw [Set.mem_ofPred_eq, Set.mem_singleton_iff, hcount, hcount']
    constructor
    · rintro ⟨hne, hzero⟩
      have hmem := List.count_pos_iff.mp (Nat.pos_of_ne_zero hne)
      simp only [List.mem_cons, List.not_mem_nil, or_false] at hmem
      rcases hmem with rfl | rfl | rfl | rfl
      · cases hzero
      · cases hzero
      · cases hzero
      · rfl
    · rintro rfl
      decide
  obtain rfl : destroyed = 1 := by rw [hloses.destroyed, hlost, Set.ncard_singleton]
  refine ⟨t, h, hcount _, hcount _, t', hrun, hcount' _, hcount' _, hloses.erased _ ?_ (hcount' _), t'', hrun', heq⟩
  rw [hcount]
  decide

end TransferM
end ScriptHost
