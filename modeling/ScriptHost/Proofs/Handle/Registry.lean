import Std.Data.String.ToNat
import ScriptHost.Proofs.Guest.Namespace
import ScriptHost.Proofs.Handle.Counts

/-! Operations of the handle registry, one statement each: counts and namespace entries change
together, for one identity at a time. -/
namespace ScriptHost

/-! ### Keys of the namespace -/

theorem Text.ofString_injective : Function.Injective Text.ofString := by
  intro a b h
  have hl : a.toList.map Char.toNat = b.toList.map Char.toNat := congrArg Text.points h
  have hi : Function.Injective Char.toNat := fun c d hcd => Char.toNat_inj.mp hcd
  exact String.toList_inj.mp (List.map_injective_iff.mpr hi hl)

namespace Identity

/-- The name under which the namespace keeps an object for its handles. -/
def entryName (id : Identity) : Text := .ofString id.namespaceKey

theorem entryName_injective : Function.Injective entryName := by
  intro a b h
  have hk : a.namespaceKey = b.namespaceKey := Text.ofString_injective h
  have hn : toString a.number = toString b.number := by
    simpa [namespaceKey, String.append_assoc] using hk
  have hi : a.number = b.number := Nat.repr_injective hn
  have hx : a.index = b.index := by
    unfold number at hi
    omega
  cases a; cases b
  exact congrArg Identity.mk hx

theorem startsWith_entryName (id : Identity) : id.entryName.startsWith (.ofString keyMark) = true := by
  simp [entryName, namespaceKey, Text.ofString, Text.startsWith]

end Identity

/-! ### What the registry does to the interpreter -/

/-- What a computation on behalf of the host runs in. -/
def Guest.topContext (g : Guest) : Context :=
  { place := { globals := g.builtins, builtins := g.builtins }, call := GuestM.callTo GuestM.callDepth }

theorem GuestM.atTop_eq {α : Type} (run : GuestM α) (g : Guest) : atTop run g = run g.topContext g := rfl

namespace Guest

/-- The interpreter after a computation on behalf of the host. -/
def after (g : Guest) (run : GuestM Unit) : Guest :=
  match GuestM.atTop run g with
  | .ok _ g | .error _ g => g

def noted (g : Guest) (r : Record) : Guest := { g with records := g.records.push r }

/-- The interpreter once a namespace holds an object for its handles. -/
def parked (g : Guest) (n id : Identity) : Guest := g.after (GuestM.setName n id.entryName id)

/-- The interpreter once a namespace does not hold an object for its handles. -/
def dropped (g : Guest) (n id : Identity) : Guest := g.after (GuestM.eraseName n id.entryName)

@[simp] theorem lookup_noted (g : Guest) (r : Record) (n : Identity) (name : Text) :
    (g.noted r).lookup n name = g.lookup n name := rfl

/-- Parking adds objects for the key and writes one entry of the namespace. -/
theorem parked_eq (g : Guest) (n id : Identity) : ∃ key g', g.Adds g' ∧ g.parked n id =
    g'.withBody n (.dict ((g'.entries n).insert [.text id.entryName] key id)) := by
  obtain ⟨key, g', hadds, hrun⟩ := GuestM.setName_run n id.entryName id g.topContext g
  refine ⟨key, g', hadds, ?_⟩
  simp [parked, after, GuestM.atTop_eq, hrun]

theorem dropped_eq (g : Guest) (n id : Identity) :
    g.dropped n id = g.withBody n (.dict ((g.entries n).erase [.text id.entryName])) := rfl

theorem lookup_parked {g : Guest} {n : Identity} (hn : g.Holds n) (id : Identity) (name : Text) :
    (g.parked n id).lookup n name = if id.entryName = name then some id else g.lookup n name := by
  obtain ⟨key, g', hadds, he⟩ := g.parked_eq n id
  rw [he, lookup_insert hn hadds]

theorem lookup_dropped {g : Guest} {n : Identity} (hn : g.Holds n) (id : Identity) (name : Text) :
    (g.dropped n id).lookup n name = if id.entryName = name then none else g.lookup n name := by
  rw [dropped_eq, lookup_erase hn]

end Guest

namespace TransferM
open Stepping

theorem record_run (level : Level) (source : Source) (message : String) (t : Transfer) :
    record level source message t = .ok ⟨⟩ { t with guest := t.guest.noted ⟨level, source, message⟩ } :=
  rfl

theorem guest_run {α : Type} (run : GuestM α) (t : Transfer) :
    guest run t = match GuestM.atTop run t.guest with
      | .ok a g => .ok a { t with guest := g }
      | .error f g => .error f { t with guest := g } := rfl

theorem atTop_of_guest {α : Type} {run : GuestM α} {t t' : Transfer} {a : α}
    (h : guest run t = .ok a t') : GuestM.atTop run t.guest = .ok a t'.guest := by
  rw [guest_run] at h
  cases hr : GuestM.atTop run t.guest with
  | ok b g =>
    rw [hr] at h
    cases h
    rfl
  | error f g =>
    rw [hr] at h
    cases h

/-- Acquiring never raises: it parks the object and counts it. -/
theorem acquire_run (id : Identity) (t : Transfer) : ∃ r, acquire id t =
    .ok ⟨⟩ { t with
      guest := (t.guest.parked t.namespaceDict id).noted r
      counts := t.counts.acquire id } := by
  obtain ⟨key, g, hadds, hrun⟩ :=
    GuestM.setName_run t.namespaceDict id.entryName id t.guest.topContext t.guest
  have hp : GuestM.atTop (GuestM.setName t.namespaceDict id.entryName id) t.guest =
      .ok ⟨⟩ (t.guest.parked t.namespaceDict id) := by
    simp [Guest.parked, Guest.after, GuestM.atTop_eq, hrun]
  unfold Identity.entryName at hp
  exact ⟨_, by simp [acquire, guest_run, hp, record_run]; rfl⟩

/-- Retaining counts an object that is counted already and is refused for any other. -/
theorem retain_run {t : Transfer} (hc : t.counts.Positive) (id : Identity) :
    if t.counts.count id = 0 then retain id t = .ok false t
    else ∃ r, retain id t =
      .ok true { t with guest := t.guest.noted r, counts := t.counts.acquire id } := by
  split
  · next h0 => simp [retain, Counts.getElem?_eq_count hc, h0]
  · next h0 => exact ⟨_, by simp [retain, Counts.getElem?_eq_count hc, h0, record_run]; rfl⟩

/-- Releasing an object that is counted more than once, or not at all, leaves the namespace alone. -/
theorem release_run_of_kept {t : Transfer} {id : Identity} (h : (t.counts.release id).1 ≠ .destroyed) :
    ∃ r, release id t = .ok (t.counts.release id).1
      { t with guest := t.guest.noted r, counts := (t.counts.release id).2 } := by
  cases ha : (t.counts.release id).1 with
  | unknown => exact ⟨_, by simp [release, ha, record_run]; rfl⟩
  | decremented left => exact ⟨_, by simp [release, ha, record_run]; rfl⟩
  | destroyed => exact absurd ha h

/-- Releasing the last handle of an object drops the entry that the namespace has for it. -/
theorem release_run_of_destroyed {t : Transfer} {id : Identity}
    (h : (t.counts.release id).1 = .destroyed)
    (he : t.guest.lookup t.namespaceDict id.entryName ≠ none) :
    ∃ r, release id t = .ok .destroyed
      { t with
        guest := (t.guest.dropped t.namespaceDict id).noted r
        counts := (t.counts.release id).2 } := by
  have hs : (t.guest.lookup t.namespaceDict id.entryName).isSome = true :=
    Option.isSome_iff_ne_none.mpr he
  unfold Identity.entryName at hs
  exact ⟨_, by simp [release, erase, h, hs, record_run, guest_run]; rfl⟩

/-- Releasing the last handle of an object that the namespace does not have changes no entry. -/
theorem release_run_of_missing {t : Transfer} {id : Identity}
    (h : (t.counts.release id).1 = .destroyed)
    (he : t.guest.lookup t.namespaceDict id.entryName = none) :
    ∃ r r', release id t = .ok .destroyed
      { t with guest := (t.guest.noted r).noted r', counts := (t.counts.release id).2 } := by
  unfold Identity.entryName at he
  exact ⟨_, _, by simp [release, erase, h, he, record_run]; rfl⟩

end TransferM

/-! ### Registry and namespace together -/

/-- What a registry can rely on in the interpreter that its namespace belongs to: the states that
come up and how one follows another, and the names of the namespace that nothing but the registry
changes. -/
structure Custody (n : Identity) where
  state : Guest → Prop
  later : Guest → Guest → Prop
  kept : Text → Prop
  refl : ∀ g, later g g
  trans : ∀ {g g' g''}, later g g' → later g' g'' → later g g''
  state_later : ∀ {g g'}, state g → later g g' → state g'
  holds : ∀ {g name}, state g → kept name → g.Holds n
  noted : ∀ {g} r, state g → later g (g.noted r)
  parked : ∀ {g} id, state g → later g (g.parked n id)
  dropped : ∀ {g} id, state g → later g (g.dropped n id)

namespace Transfer
variable {n : Identity}

/-- Counts and namespace agree: exactly the counted objects have an entry, and that is the object
itself. -/
structure Sound (K : Custody n) (t : Transfer) : Prop where
  namespaceDict : t.namespaceDict = n
  state : K.state t.guest
  positive : t.counts.Positive
  entry : ∀ id, K.kept id.entryName →
    t.guest.lookup n id.entryName = if t.counts.count id = 0 then none else some id

/-- Soundness says nothing of the objects in progress and of the handles that were acquired. -/
theorem Sound.withLog {K : Custody n} {t : Transfer} (h : t.Sound K) (active : List Identity)
    (acquired : Array Identity) : Transfer.Sound K { t with active := active, acquired := acquired } :=
  ⟨h.namespaceDict, h.state, h.positive, h.entry⟩

/-- Nothing of a crossing changed but the handles of objects. -/
structure Keeps (K : Custody n) (t t' : Transfer) : Prop where
  sound : t'.Sound K
  later : K.later t.guest t'.guest
  active : t'.active = t.active
  others : ∀ name, K.kept name → (∀ id : Identity, id.entryName ≠ name) →
    t'.guest.lookup n name = t.guest.lookup n name

theorem Keeps.refl {K : Custody n} {t : Transfer} (h : t.Sound K) : t.Keeps K t :=
  ⟨h, K.refl t.guest, rfl, fun _ _ _ => rfl⟩

theorem Keeps.trans {K : Custody n} {t t' t'' : Transfer} (h : t.Keeps K t') (h' : t'.Keeps K t'') :
    t.Keeps K t'' where
  sound := h'.sound
  later := K.trans h.later h'.later
  active := h'.active.trans h.active
  others name hk hn := (h'.others name hk hn).trans (h.others name hk hn)

theorem Keeps.of_later {K : Custody n} {t t' : Transfer} (h : t.Sound K)
    (hn : t'.namespaceDict = t.namespaceDict) (hlater : K.later t.guest t'.guest)
    (hpositive : t'.counts.Positive) (hactive : t'.active = t.active)
    (hentry : ∀ id, K.kept id.entryName →
      t'.guest.lookup n id.entryName = if t'.counts.count id = 0 then none else some id)
    (hothers : ∀ name, K.kept name → (∀ id : Identity, id.entryName ≠ name) →
      t'.guest.lookup n name = t.guest.lookup n name) : t.Keeps K t' where
  sound := ⟨hn.trans h.namespaceDict, K.state_later h.state hlater, hpositive, hentry⟩
  later := hlater
  active := hactive
  others := hothers

end Transfer

namespace TransferM
variable {n : Identity} {K : Custody n} {t : Transfer}

theorem record_keeps (h : t.Sound K) (level : Level) (source : Source) (message : String) :
    ∃ t', record level source message t = .ok ⟨⟩ t' ∧ t.Keeps K t' ∧ t'.counts = t.counts ∧
      t'.acquired = t.acquired :=
  ⟨_, record_run level source message t, .of_later h rfl (K.noted _ h.state) h.positive rfl h.entry
    fun _ _ _ => rfl, rfl, rfl⟩

theorem acquire_keeps (h : t.Sound K) (id : Identity) :
    ∃ t', acquire id t = .ok ⟨⟩ t' ∧ t.Keeps K t' ∧ t'.counts = t.counts.acquire id ∧
      t'.acquired = t.acquired := by
  have hn := h.namespaceDict
  subst hn
  obtain ⟨r, hrun⟩ := acquire_run id t
  have hparked := K.parked id h.state
  have hlater := K.trans hparked (K.noted r (K.state_later h.state hparked))
  refine ⟨_, hrun, .of_later h rfl hlater (Counts.positive_acquire h.positive id) rfl ?_ ?_, rfl, rfl⟩
  · intro other hk
    rw [Guest.lookup_noted, Guest.lookup_parked (K.holds h.state hk), h.entry other hk,
      Counts.count_acquire, List.count_singleton]
    by_cases he : id = other
    · simp [he]
    · have hne : id.entryName ≠ other.entryName := fun hne => he (Identity.entryName_injective hne)
      simp [he, hne]
  · intro name hk hne
    rw [Guest.lookup_noted, Guest.lookup_parked (K.holds h.state hk), if_neg (hne id)]

theorem retain_keeps (h : t.Sound K) (id : Identity) :
    ∃ t', retain id t = .ok (decide (t.counts.count id ≠ 0)) t' ∧ t.Keeps K t' ∧
      t'.counts = (if t.counts.count id = 0 then t.counts else t.counts.acquire id) ∧
      t'.acquired = t.acquired := by
  have hrun := retain_run h.positive id
  by_cases h0 : t.counts.count id = 0
  · rw [if_pos h0] at hrun
    exact ⟨t, by simpa [h0] using hrun, .refl h, by simp [h0], rfl⟩
  · rw [if_neg h0] at hrun
    obtain ⟨r, hrun⟩ := hrun
    rw [decide_eq_true h0]
    refine ⟨_, hrun, .of_later h rfl (K.noted r h.state) (Counts.positive_acquire h.positive id) rfl
      ?_ fun _ _ _ => rfl, by simp [h0], rfl⟩
    intro other hk
    rw [Guest.lookup_noted, h.entry other hk, Counts.count_acquire, List.count_singleton]
    by_cases he : id = other
    · subst he
      simp [h0]
    · simp [he]

theorem release_keeps (h : t.Sound K) (id : Identity) :
    ∃ t', release id t = .ok (t.counts.release id).1 t' ∧ t.Keeps K t' ∧
      t'.counts = (t.counts.release id).2 ∧ t'.acquired = t.acquired := by
  have hn := h.namespaceDict
  subst hn
  have hp := Counts.positive_release h.positive id
  have hone := Counts.release_eq_destroyed_iff h.positive id
  by_cases hd : (t.counts.release id).1 = .destroyed
  · -- The count was one, so the entry goes, unless somebody else took it away before.
    have h1 := hone.mp hd
    rw [hd]
    cases he : t.guest.lookup t.namespaceDict id.entryName with
    | none =>
      obtain ⟨r, r', hrun⟩ := release_run_of_missing hd he
      have hnoted := K.noted r h.state
      have hlater := K.trans hnoted (K.noted r' (K.state_later h.state hnoted))
      refine ⟨_, hrun, .of_later h rfl hlater hp rfl ?_ fun _ _ _ => rfl, rfl, rfl⟩
      intro other hk
      rw [Guest.lookup_noted, Guest.lookup_noted]
      by_cases ho : id = other
      · subst ho
        simp [he, Counts.count_release_eq_zero_iff, h1]
      · simp [h.entry other hk, Counts.count_release_eq_zero_iff, ho]
    | some found =>
      obtain ⟨r, hrun⟩ := release_run_of_destroyed hd (by simp [he])
      have hdropped := K.dropped id h.state
      have hlater := K.trans hdropped (K.noted r (K.state_later h.state hdropped))
      refine ⟨_, hrun, .of_later h rfl hlater hp rfl ?_ ?_, rfl, rfl⟩
      · intro other hk
        rw [Guest.lookup_noted, Guest.lookup_dropped (K.holds h.state hk), h.entry other hk]
        simp only [Identity.entryName_injective.eq_iff, Counts.count_release_eq_zero_iff, h1, and_true]
        by_cases ho : id = other
        · simp [ho]
        · simp [ho]
      · intro name hk hne
        rw [Guest.lookup_noted, Guest.lookup_dropped (K.holds h.state hk), if_neg (hne id)]
  · obtain ⟨r, hrun⟩ := release_run_of_kept hd
    refine ⟨_, hrun, .of_later h rfl (K.noted r h.state) hp rfl ?_ fun _ _ _ => rfl, rfl, rfl⟩
    intro other hk
    rw [Guest.lookup_noted, h.entry other hk]
    simp [Counts.count_release_eq_zero_iff, mt hone.mpr hd]

/-- Giving back handles one after the other takes as many from each count as there are, but never
more than the count. -/
theorem releaseAll_keeps (ids : List Identity) (h : t.Sound K) :
    ∃ destroyed t', releaseAll ids t = .ok destroyed t' ∧ t.Keeps K t' ∧
      (∀ id, t'.counts.count id = t.counts.count id - ids.count id) ∧ t'.acquired = t.acquired := by
  induction ids generalizing t with
  | nil => exact ⟨0, t, rfl, .refl h, by simp, rfl⟩
  | cons id ids ih =>
    obtain ⟨t₁, hrun, hkeeps, hcounts, hacquired⟩ := release_keeps h id
    obtain ⟨destroyed, t₂, hrest, hkeeps', hcounts', hacquired'⟩ := ih hkeeps.sound
    refine ⟨_, t₂, by simp [releaseAll, hrun, hrest]; rfl, hkeeps.trans hkeeps', ?_,
      hacquired'.trans hacquired⟩
    intro other
    rw [hcounts' other, hcounts, Counts.count_release, Nat.sub_sub, ← List.count_append]
    simp

end TransferM
end ScriptHost
