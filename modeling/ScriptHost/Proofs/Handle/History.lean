import ScriptHost.Proofs.Handle.Registry

/-! Histories of a registry: whatever was acquired, retained and given back in whatever order, counts
and namespace agree, and each count is what its object got since it last had no handle. -/
namespace ScriptHost

/-- What the host can ask of a registry. -/
inductive HandleCall where
  | acquire (id : Identity)
  | retain (id : Identity)
  | release (id : Identity)
  | releaseValue (v : Value)

/-- What a registry did for one object, and what it answered. -/
inductive HandleStep where
  | acquired (id : Identity)
  | retained (id : Identity) (found : Bool)
  | released (id : Identity) (answer : Release)

namespace HandleStep

/-- Whether a step counted one handle more for an object. -/
def adds (id : Identity) : HandleStep → Bool
  | acquired other => decide (other = id)
  | retained other found => decide (other = id) && found
  | released _ _ => false

/-- Whether a step counted one handle less for an object. -/
def removes (id : Identity) : HandleStep → Bool
  | released other answer => decide (other = id) && decide (answer ≠ .unknown)
  | _ => false

def isDestroyed : HandleStep → Bool
  | released _ .destroyed => true
  | _ => false

@[simp] theorem adds_acquired (id other : Identity) :
    (acquired other).adds id = decide (other = id) := rfl

@[simp] theorem adds_retained (id other : Identity) (found : Bool) :
    (retained other found).adds id = (decide (other = id) && found) := rfl

@[simp] theorem adds_released (id other : Identity) (answer : Release) :
    (released other answer).adds id = false := rfl

@[simp] theorem removes_acquired (id other : Identity) : (acquired other).removes id = false := rfl

@[simp] theorem removes_retained (id other : Identity) (found : Bool) :
    (retained other found).removes id = false := rfl

@[simp] theorem removes_released (id other : Identity) (answer : Release) :
    (released other answer).removes id = (decide (other = id) && decide (answer ≠ .unknown)) := rfl

end HandleStep

namespace HandleCall

/-- The objects that a call is about. -/
def objects : HandleCall → List Identity
  | acquire id | retain id | release id => [id]
  | releaseValue v => v.handles

/-- Gives back handles in order. -/
def giveBack : List Identity → TransferM (List HandleStep)
  | [] => return []
  | id :: ids => do
    let answer ← TransferM.release id
    let rest ← giveBack ids
    return .released id answer :: rest

/-- Carries out a call; the result is what it did, step by step. -/
def run : HandleCall → TransferM (List HandleStep)
  | acquire id => do
    TransferM.acquire id
    return [.acquired id]
  | retain id => do
    let found ← TransferM.retain id
    return [.retained id found]
  | release id => do
    let answer ← TransferM.release id
    return [.released id answer]
  | releaseValue v => giveBack v.handles

/-- Carries out calls in order. -/
def runAll : List HandleCall → TransferM (List HandleStep)
  | [] => return []
  | call :: calls => do
    let steps ← run call
    let rest ← runAll calls
    return steps ++ rest

end HandleCall

namespace Transfer

/-- Exactly the counted objects have an entry in the namespace, which is the object itself. -/
structure Accounts (t : Transfer) : Prop where
  entry : ∀ id, id ∈ t.counts ↔ (t.guest.lookup t.namespaceDict id.entryName).isSome
  positive : ∀ (id : Identity) n, t.counts[id]? = some n → 1 ≤ n
  object : ∀ id, id ∈ t.counts → TransferM.resolve id t = .ok (some id) t
  live : t.counts.live = Set.ncard {id | id ∈ t.counts}

/-- An object has so many handles now, and no other object has more or less. -/
structure Changes (t : Transfer) (id : Identity) (n : Nat) (t' : Transfer) : Prop where
  count : t'.counts.count id = n
  otherCounts : ∀ other, other ≠ id → t'.counts[other]? = t.counts[other]?
  otherNames : ∀ name, name ≠ id.entryName →
    t'.guest.lookup t'.namespaceDict name = t.guest.lookup t.namespaceDict name

/-- What the registry answers in a state, and what it does. -/
structure Answers (t : Transfer) : Prop where
  acquire : ∀ id, ∃ t', TransferM.acquire id t = .ok ⟨⟩ t' ∧ t.Changes id (t.counts.count id + 1) t' ∧
    TransferM.resolve id t' = .ok (some id) t'
  retain : ∀ id, id ∈ t.counts → ∃ t', TransferM.retain id t = .ok true t' ∧
    t.Changes id (t.counts.count id + 1) t'
  refuse : ∀ id, id ∉ t.counts → TransferM.retain id t = .ok false t
  unknown : ∀ id, id ∉ t.counts →
    ∃ r, TransferM.release id t = .ok .unknown { t with guest := t.guest.noted r }
  destroy : ∀ id, t.counts[id]? = some 1 → ∃ t', TransferM.release id t = .ok .destroyed t' ∧
    t.Changes id 0 t' ∧ TransferM.resolve id t' = .ok none t'
  decrement : ∀ id n, t.counts[id]? = some n → n ≠ 1 →
    ∃ t', TransferM.release id t = .ok (.decremented (n - 1)) t' ∧ t.Changes id (n - 1) t'

end Transfer

/-- The custody of a namespace that is there, whatever happens in it. -/
private def Custody.whole (n : Identity) : Custody n where
  state g := g.Holds n
  later g g' := g.Holds n → g'.Holds n
  kept _ := True
  refl _ h := h
  trans h h' hg := h' (h hg)
  state_later h hlater := hlater h
  holds h _ := h
  noted _ h _ := h
  parked {g} id h _ := by
    obtain ⟨key, g', hadds, he⟩ := g.parked_eq n id
    rw [he]
    unfold Guest.Holds
    rw [Guest.size_withBody]
    exact hadds.holds h
  dropped id h _ := by
    rw [Guest.dropped_eq]
    unfold Guest.Holds
    rwa [Guest.size_withBody]

namespace HandleCall
variable {n : Identity} {K : Custody n} {t : Transfer}

open Stepping

/-- Giving back a value is giving back its handles one after the other. -/
theorem releaseValue_eq (v : Value) : TransferM.releaseValue v =
    (fun steps => steps.countP HandleStep.isDestroyed) <$> run (.releaseValue v) := by
  rw [TransferM.releaseValue, run]
  induction v.handles with
  | nil => rfl
  | cons id ids ih =>
    funext t
    simp only [TransferM.releaseAll, giveBack, ih, bind_run, map_run]
    cases TransferM.release id t with
    | error f t' => rfl
    | ok answer t' =>
      dsimp only
      cases giveBack ids t' with
      | error f t'' => rfl
      | ok steps t'' => cases answer <;> simp [HandleStep.isDestroyed, List.countP_cons]

private theorem release_keeps (h : t.Sound K) (id : Identity) : ∃ answer t',
    TransferM.release id t = .ok answer t' ∧ t.Keeps K t' ∧
      (answer = .unknown → t.counts.count id = 0) ∧
      ∀ other, t'.counts.count other + [HandleStep.released id answer].countP (·.removes other) =
        t.counts.count other := by
  obtain ⟨t', hrun, hkeeps, hcounts, _⟩ := TransferM.release_keeps h id
  have hunknown := Counts.release_eq_unknown_iff h.positive id
  refine ⟨_, t', hrun, hkeeps, hunknown.mp, fun other => ?_⟩
  rw [hcounts, Counts.count_release, List.countP_singleton, List.count_singleton]
  by_cases ho : id = other
  · subst ho
    by_cases h0 : t.counts.count id = 0
    · simp [h0, hunknown]
    · simp only [HandleStep.removes_released, hunknown, h0, decide_true, ne_eq, not_false_eq_true, Bool.and_self,
        ↓reduceIte, beq_self_eq_true]
      omega
  · simp [ho]

private theorem giveBack_keeps (ids : List Identity) (h : t.Sound K) : ∃ steps t',
    giveBack ids t = .ok steps t' ∧ t.Keeps K t' ∧
      (∀ other, steps.countP (·.adds other) = 0) ∧
      (∀ other, other ∉ ids → steps.countP (·.removes other) = 0) ∧
      ∀ other, t'.counts.count other + steps.countP (·.removes other) = t.counts.count other := by
  induction ids generalizing t with
  | nil => exact ⟨[], t, rfl, .refl h, by simp, by simp, by simp⟩
  | cons id ids ih =>
    obtain ⟨answer, t₁, hrun, hkeeps, _, hcount⟩ := release_keeps h id
    obtain ⟨steps, t₂, hrest, hkeeps', hadds, habsent, hcount'⟩ := ih hkeeps.sound
    refine ⟨.released id answer :: steps, t₂, by simp [giveBack, hrun, hrest],
      hkeeps.trans hkeeps', ?_, ?_, ?_⟩
    · intro other
      simp [hadds other]
    · intro other ho
      rw [List.mem_cons, not_or] at ho
      obtain ⟨hne, ho⟩ := ho
      simp [habsent other ho, Ne.symm hne]
    · intro other
      have h₁ := hcount other
      have h₂ := hcount' other
      rw [← List.singleton_append, List.countP_append]
      omega

/-- A call succeeds, moves the counts by what its steps say, and no count of an object that it is
not about. -/
theorem run_keeps (call : HandleCall) (h : t.Sound K) : ∃ steps t',
    run call t = .ok steps t' ∧ t.Keeps K t' ∧
      (∀ id, t'.counts.count id + steps.countP (·.removes id) =
        t.counts.count id + steps.countP (·.adds id)) ∧
      ∀ id, id ∉ call.objects → t'.counts.count id = t.counts.count id := by
  cases call with
  | acquire id =>
    obtain ⟨t', hrun, hkeeps, hcounts, _⟩ := TransferM.acquire_keeps h id
    refine ⟨[.acquired id], t', by simp [run, hrun], hkeeps, ?_, ?_⟩
    · intro other
      rw [hcounts, Counts.count_acquire]
      simp [List.count_singleton, List.countP_cons]
    · intro other ho
      rw [hcounts, Counts.count_acquire, List.count_eq_zero.mpr]
      · rfl
      · exact ho
  | retain id =>
    obtain ⟨t', hrun, hkeeps, hcounts, _⟩ := TransferM.retain_keeps h id
    refine ⟨[.retained id (decide (t.counts.count id ≠ 0))], t', by simp [run, hrun], hkeeps, ?_, ?_⟩
    · intro other
      rw [hcounts]
      by_cases h0 : t.counts.count id = 0
      · simp [h0]
      · simp [h0, Counts.count_acquire, List.count_singleton,
          List.countP_cons]
    · intro other ho
      rw [hcounts]
      split
      · rfl
      · rw [Counts.count_acquire, List.count_eq_zero.mpr]
        · rfl
        · exact ho
  | release id =>
    obtain ⟨answer, t', hrun, hkeeps, _, hcount⟩ := release_keeps h id
    refine ⟨[.released id answer], t', by simp [run, hrun], hkeeps, ?_, ?_⟩
    · intro other
      rw [hcount other]
      simp
    · intro other ho
      have hne : id ≠ other := fun he => ho (by simp [objects, he])
      have hc := hcount other
      simpa [hne] using hc
  | releaseValue v =>
    obtain ⟨steps, t', hrun, hkeeps, hadds, habsent, hcount⟩ := giveBack_keeps v.handles h
    refine ⟨steps, t', hrun, hkeeps, ?_, ?_⟩
    · intro other
      rw [hcount other, hadds other]
      rfl
    · intro other ho
      have hc := hcount other
      rwa [habsent other ho] at hc

/-- The counts move over a history by what all its steps say. -/
theorem runAll_keeps (calls : List HandleCall) (h : t.Sound K) : ∃ steps t',
    runAll calls t = .ok steps t' ∧ t.Keeps K t' ∧
      ∀ id, t'.counts.count id + steps.countP (·.removes id) =
        t.counts.count id + steps.countP (·.adds id) := by
  induction calls generalizing t with
  | nil => exact ⟨[], t, rfl, .refl h, by simp⟩
  | cons call calls ih =>
    obtain ⟨steps, t₁, hrun, hkeeps, hcount, _⟩ := run_keeps call h
    obtain ⟨rest, t₂, hrest, hkeeps', hcount'⟩ := ih hkeeps.sound
    refine ⟨steps ++ rest, t₂, by simp [runAll, hrun, hrest], hkeeps.trans hkeeps', ?_⟩
    intro id
    have h₁ := hcount id
    have h₂ := hcount' id
    rw [List.countP_append, List.countP_append]
    omega

end HandleCall

/-! ### From an empty registry -/

namespace Transfer
variable {n : Identity} {K : Custody n} {t : Transfer}

private theorem resolve_of_sound (h : t.Sound K) (hk : ∀ name, K.kept name) (id : Identity) :
    TransferM.resolve id t = .ok (if t.counts.count id = 0 then none else some id) t := by
  have he := h.entry id (hk _)
  rw [← h.namespaceDict] at he
  rw [← he]
  rfl

private theorem accounts_of_sound (h : t.Sound K) (hk : ∀ name, K.kept name) : t.Accounts where
  entry id := by
    rw [h.namespaceDict, h.entry id (hk _), Counts.mem_iff_count h.positive]
    by_cases h0 : t.counts.count id = 0 <;> simp [h0]
  positive id n hn := by
    have h0 : n ≠ 0 := fun he => h.positive id (by rw [hn, he])
    omega
  object id hid := by
    rw [resolve_of_sound h hk, if_neg ((Counts.mem_iff_count h.positive id).mp hid)]
  live := by
    rw [Counts.live_eq_card h.positive]
    simp only [Counts.mem_iff_count h.positive, ne_eq]

/-- Handles of one object come and go without a change for any other object or name. -/
private theorem changes_of_keeps {t' : Transfer} {id : Identity} (h : t.Sound K)
    (hk : ∀ name, K.kept name) (hkeeps : t.Keeps K t')
    (hcounts : ∀ other, other ≠ id → t'.counts.count other = t.counts.count other) :
    t.Changes id (t'.counts.count id) t' where
  count := rfl
  otherCounts other ho := by
    rw [Counts.getElem?_eq_count hkeeps.sound.positive, Counts.getElem?_eq_count h.positive,
      hcounts other ho]
  otherNames name hne := by
    rw [hkeeps.sound.namespaceDict, h.namespaceDict]
    by_cases hx : ∃ other : Identity, other.entryName = name
    · obtain ⟨other, rfl⟩ := hx
      have ho : other ≠ id := fun he => hne (by rw [he])
      rw [hkeeps.sound.entry other (hk _), h.entry other (hk _), hcounts other ho]
    · exact hkeeps.others name (hk name) (not_exists.mp hx)

private theorem answers_of_sound (h : t.Sound K) (hk : ∀ name, K.kept name) : t.Answers where
  acquire id := by
    obtain ⟨t', hrun, hkeeps, hcounts, _⟩ := TransferM.acquire_keeps h id
    have hc : t'.counts.count id = t.counts.count id + 1 := by
      simp [hcounts, Counts.count_acquire]
    refine ⟨t', hrun, ?_, ?_⟩
    · rw [← hc]
      refine changes_of_keeps h hk hkeeps fun other ho => ?_
      simp [hcounts, Counts.count_acquire, Ne.symm ho]
    · rw [resolve_of_sound hkeeps.sound hk, hc, if_neg (Nat.succ_ne_zero _)]
  retain id hid := by
    have h0 := (Counts.mem_iff_count h.positive id).mp hid
    obtain ⟨t', hrun, hkeeps, hcounts, _⟩ := TransferM.retain_keeps h id
    rw [if_neg h0] at hcounts
    have hc : t'.counts.count id = t.counts.count id + 1 := by
      simp [hcounts, Counts.count_acquire]
    refine ⟨t', by simpa [h0] using hrun, ?_⟩
    rw [← hc]
    refine changes_of_keeps h hk hkeeps fun other ho => ?_
    simp [hcounts, Counts.count_acquire, Ne.symm ho]
  refuse id hid := by
    have h0 := mt (Counts.mem_iff_count h.positive id).mpr hid
    have hrun := TransferM.retain_run h.positive id
    rwa [if_pos (not_not.mp h0)] at hrun
  unknown id hid := by
    have h0 := mt (Counts.mem_iff_count h.positive id).mpr hid
    have he := Counts.release_eq h.positive id
    rw [if_pos (not_not.mp h0)] at he
    have hd : (t.counts.release id).1 ≠ .destroyed := by simp [he]
    obtain ⟨r, hrun⟩ := TransferM.release_run_of_kept hd
    exact ⟨r, by simpa [he] using hrun⟩
  destroy id h1 := by
    have hc : t.counts.count id = 1 := by simp [Counts.count_eq, h1]
    obtain ⟨t', hrun, hkeeps, hcounts, _⟩ := TransferM.release_keeps h id
    have hc' : t'.counts.count id = 0 := by
      simp [hcounts, Counts.count_release, hc]
    refine ⟨t', by simpa [Counts.release_eq h.positive, hc] using hrun, ?_, ?_⟩
    · rw [← hc']
      refine changes_of_keeps h hk hkeeps fun other ho => ?_
      simp [hcounts, Counts.count_release, Ne.symm ho]
    · rw [resolve_of_sound hkeeps.sound hk, if_pos hc']
  decrement id n hn h1 := by
    have hc : t.counts.count id = n := by simp [Counts.count_eq, hn]
    have h0 : n ≠ 0 := fun he => h.positive id (by rw [hn, he])
    obtain ⟨t', hrun, hkeeps, hcounts, _⟩ := TransferM.release_keeps h id
    have hc' : t'.counts.count id = n - 1 := by
      simp [hcounts, Counts.count_release, hc]
    refine ⟨t', by simpa [Counts.release_eq h.positive, hc, h0, h1] using hrun, ?_⟩
    rw [← hc']
    refine changes_of_keeps h hk hkeeps fun other ho => ?_
    simp [hcounts, Counts.count_release, Ne.symm ho]

/-- A registry that starts empty, over a namespace without a name of the handles' form. -/
structure Fresh (t : Transfer) : Prop where
  counts : t.counts = ∅
  holds : t.guest.Holds t.namespaceDict
  names : ∀ name : Text, name.startsWith (.ofString Identity.keyMark) = true →
    t.guest.lookup t.namespaceDict name = none

private theorem Fresh.sound (h : t.Fresh) : t.Sound (.whole t.namespaceDict) where
  namespaceDict := rfl
  state := h.holds
  positive := by
    rw [h.counts]
    exact Counts.positive_empty
  entry id _ := by
    rw [h.names _ id.startsWith_entryName, h.counts]
    rfl

end Transfer

namespace HandleCall

/-- Every history of an empty registry can be carried out. After it counts and namespace agree, each
answer is the one that the counts call for, and an object that had no handle after the first part
of the history has as many as the rest counted for it. -/
theorem history_of_fresh {t : Transfer} (h : t.Fresh) (before later : List HandleCall) :
    (∀ v, TransferM.releaseValue v =
      (fun steps => steps.countP HandleStep.isDestroyed) <$> run (.releaseValue v)) ∧
    ∃ steps₁ t₁ steps₂ t₂,
      runAll before t = .ok steps₁ t₁ ∧ runAll later t₁ = .ok steps₂ t₂ ∧
      (∀ id, id ∉ t₁.counts → t₂.counts.count id =
        steps₂.countP (·.adds id) - steps₂.countP (·.removes id)) ∧
      (∀ id, id ∉ t₁.counts → steps₂.countP (·.removes id) ≤ steps₂.countP (·.adds id)) ∧
      t₂.Accounts ∧ t₂.Answers ∧
      ∀ call, ∃ steps t₃, run call t₂ = .ok steps t₃ ∧ ∀ id, id ∉ call.objects →
        t₃.counts[id]? = t₂.counts[id]? ∧
        t₃.guest.lookup t₃.namespaceDict id.entryName =
          t₂.guest.lookup t₂.namespaceDict id.entryName := by
  have hk : ∀ name, (Custody.whole t.namespaceDict).kept name := fun _ => trivial
  obtain ⟨steps₁, t₁, hrun₁, hkeeps₁, _⟩ := runAll_keeps before h.sound
  obtain ⟨steps₂, t₂, hrun₂, hkeeps₂, hcount⟩ := runAll_keeps later hkeeps₁.sound
  have hsound := hkeeps₂.sound
  have habsent : ∀ id, id ∉ t₁.counts → t₁.counts.count id = 0 := fun id hid =>
    not_not.mp (mt (Counts.mem_iff_count hkeeps₁.sound.positive id).mpr hid)
  refine ⟨releaseValue_eq, steps₁, t₁, steps₂, t₂, hrun₁, hrun₂, ?_, ?_, Transfer.accounts_of_sound hsound hk,
    Transfer.answers_of_sound hsound hk, ?_⟩
  · intro id hid
    have hc := hcount id
    rw [habsent id hid] at hc
    omega
  · intro id hid
    have hc := hcount id
    rw [habsent id hid] at hc
    omega
  · intro call
    obtain ⟨steps, t₃, hrun, hkeeps, _, hother⟩ := run_keeps call hsound
    refine ⟨steps, t₃, hrun, fun id hid => ?_⟩
    rw [Counts.getElem?_eq_count hkeeps.sound.positive, Counts.getElem?_eq_count hsound.positive,
      hkeeps.sound.namespaceDict, hsound.namespaceDict, hkeeps.sound.entry id (hk _),
      hsound.entry id (hk _), hother id hid]
    exact ⟨rfl, rfl⟩

/-- A history over an empty namespace in which an object is given back more often than it was
handed out. -/
theorem history_of_empty_namespace : ∃ t : Transfer, t.Fresh ∧ ∃ steps t',
    runAll [.acquire ⟨1⟩, .retain ⟨1⟩, .releaseValue (.list [.handle ⟨1⟩, .handle ⟨1⟩, .handle ⟨1⟩])] t =
      .ok steps t' ∧ t'.Accounts ∧
      t'.counts.count ⟨1⟩ = steps.countP (·.adds ⟨1⟩) - steps.countP (·.removes ⟨1⟩) := by
  have h : Transfer.Fresh { guest := { heap := #[{ body := .dict [] }] }, namespaceDict := ⟨0⟩ } :=
    ⟨rfl, by decide, fun _ _ => rfl⟩
  obtain ⟨_, _, t₁, steps, t', hnone, hrun, hcount, _, haccounts, _⟩ :=
    history_of_fresh h [] [.acquire ⟨1⟩, .retain ⟨1⟩,
      .releaseValue (.list [.handle ⟨1⟩, .handle ⟨1⟩, .handle ⟨1⟩])]
  cases hnone
  exact ⟨_, h, steps, t', hrun, haccounts, hcount ⟨1⟩ (by simp)⟩

end HandleCall
end ScriptHost
