import ScriptHost.Proofs.Value.Built
import ScriptHost.Value.Typed

/-! Typed views of values and the handles in them: a value that can be taken as a type hands on every handle that it
carries, and one that cannot hands on none. -/
namespace ScriptHost.Target

/-- The handles inside typed data, entries of a map in the order of their keys. -/
def handles : (t : Target) → t.Denote → List Identity
  | .value, v => v.handles
  | .handle, id => [id]
  | .list item, xs => xs.flatMap item.handles
  | .option item, x => x.elim [] item.handles
  | .map item, xs => xs.toList.flatMap fun entry => item.handles entry.2
  | _, _ => []

/-! ### String maps -/

/-- A new key comes in among the others. -/
theorem toList_insert_perm {α : Type} {m : StringMap α} {key : String} (hnew : m[key]? = none) (x : α) :
    (m.insert key x).toList.Perm ((key, x) :: m.toList) := by
  have hnodup (m : StringMap α) : m.toList.Nodup := by
    refine m.distinct_keys_toList.imp fun {a b} hab hsame => hab ?_
    rw [hsame]
    exact Std.ReflCmp.compare_self
  have hout : (key, x) ∉ m.toList := fun hmem => by
    rw [Std.ExtTreeMap.mem_toList_iff_getElem?_eq_some, hnew] at hmem
    cases hmem
  refine (List.perm_ext_iff_of_nodup (hnodup _) (List.nodup_cons.mpr ⟨hout, hnodup m⟩)).mpr fun entry => ?_
  obtain ⟨other, y⟩ := entry
  rw [List.mem_cons, Std.ExtTreeMap.mem_toList_iff_getElem?_eq_some, Std.ExtTreeMap.mem_toList_iff_getElem?_eq_some,
    Std.ExtTreeMap.getElem?_insert, Prod.mk.injEq]
  by_cases hkey : key = other
  · subst hkey
    simp [hnew, eq_comm]
  · rw [if_neg fun h => hkey (Std.LawfulEqCmp.eq_of_compare h)]
    simp [Ne.symm hkey]

/-! ### Collections -/

variable {α : Type} {item : Value → Except ConversionError α} {handlesOf : α → List Identity}

private theorem extractItems_handles {vs : List Value}
    (h : ∀ v ∈ vs, ∀ x, item v = .ok x → (handlesOf x).Perm v.handles) {index : Nat} {xs : List α}
    (hrun : extractItems item index vs = .ok xs) :
    (xs.flatMap handlesOf).Perm (vs.flatMap Value.handles) := by
  induction vs generalizing index xs with
  | nil =>
    cases hrun
    exact .refl _
  | cons v vs ih =>
    obtain ⟨hv, hvs⟩ := List.forall_mem_cons.mp h
    unfold extractItems at hrun
    split at hrun
    · cases hrun
    · next x hx =>
      split at hrun
      · cases hrun
      · next rest hrest =>
        cases hrun
        rw [List.flatMap_cons, List.flatMap_cons]
        exact (hv x hx).append (ih hvs hrest)

private theorem extractEntries_handles [KeyHasher] {rest : List (Value × Value)}
    (h : ∀ entry ∈ rest, ∀ x, item entry.2 = .ok x → (handlesOf x).Perm entry.2.handles)
    (hdistinct : Value.AreDistinct rest) {found m : StringMap α}
    (hnew : ∀ key v, (Value.string key, v) ∈ rest → found[key]? = none)
    (hrun : extractEntries item found rest = .ok m) :
    (m.toList.flatMap fun entry => handlesOf entry.2).Perm
      ((found.toList.flatMap fun entry => handlesOf entry.2) ++
        rest.flatMap fun entry => entry.1.handles ++ entry.2.handles) := by
  induction rest generalizing found with
  | nil =>
    cases hrun
    simp
  | cons entry rest ih =>
    obtain ⟨hentry, hrest⟩ := List.forall_mem_cons.mp h
    obtain ⟨hapart, hothers⟩ := List.pairwise_cons.mp hdistinct
    obtain ⟨key, v⟩ := entry
    cases key with
    | string key =>
      unfold extractEntries at hrun
      split at hrun
      · cases hrun
      · next x hx =>
        have hfresh := hnew key v (.head _)
        have hlater : ∀ key' v', (Value.string key', v') ∈ rest → (found.insert key x)[key']? = none := by
          intro key' v' hmem
          have hne : key ≠ key' := by
            rintro rfl
            cases (hapart _ hmem).symm.trans ((Value.beq_iff _ _).mpr (.atom rfl))
          rw [Std.ExtTreeMap.getElem?_insert, if_neg fun heq => hne (Std.LawfulEqCmp.eq_of_compare heq)]
          exact hnew key' v' (.tail _ hmem)
        have hinserted := (toList_insert_perm hfresh x).flatMap_right fun entry => handlesOf entry.2
        rw [List.flatMap_cons] at hinserted
        have hfirst : (handlesOf x).Perm ((Value.string key).handles ++ v.handles) := hentry x hx
        refine (ih hrest hothers hlater hrun).trans ((hinserted.append_right _).trans ?_)
        rw [List.flatMap_cons, ← List.append_assoc]
        exact (List.perm_append_comm.trans (hfirst.append_left _)).append_right _
    | _ => cases hrun

/-! ### Whole values -/

private theorem extractInt64_handles {v : Value} {n : Int64} (h : extractInt64 v = .ok n) : v.handles = [] := by
  cases v with
  | int | bigInt => rfl
  | _ => cases h

/-- Data that a value is taken as carries the handles of the value. -/
theorem extract_handles [KeyHasher] (t : Target) {v : Value} (hv : v.Built) {x : t.Denote} (h : t.extract v = .ok x) :
    (t.handles x).Perm v.handles := by
  induction t generalizing v with
  | value =>
    cases h
    exact .refl _
  | list item ih =>
    cases v with
    | list vs =>
      rw [Value.handles_list]
      exact extractItems_handles (fun v hmem x hx => ih (hv.items v hmem) hx) h
    | _ => cases h
  | option item ih =>
    cases hnull : v.isNull with
    | false =>
      obtain ⟨y, hy, rfl⟩ := extract_option_ok hnull h
      exact ih hv hy
    | true =>
      cases v with
      | null =>
        cases h
        exact .refl _
      | _ => cases hnull
  | map item ih =>
    cases v with
    | map m =>
      rw [Value.handles_map]
      have hentries := hv.orderly
      refine (extractEntries_handles (fun entry hmem x hx => ih (hentries.parts entry hmem).2 hx) hentries.distinct
        (fun _ _ _ => Std.ExtTreeMap.getElem?_empty) h).trans ?_
      exact .refl _
    | _ => cases h
  | handle =>
    cases v with
    | handle => cases h; exact .refl _
    | _ => cases h
  | int32 =>
    change extractInt32 v = .ok x at h
    unfold extractInt32 at h
    split at h
    · cases h
    · cases h
    · next n hn =>
      rw [extractInt64_handles hn]
      exact .refl _
  | _ =>
    cases v <;> cases h <;> exact .refl _

end ScriptHost.Target
