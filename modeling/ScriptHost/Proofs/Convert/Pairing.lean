import ScriptHost.Proofs.Convert.Rollback
import ScriptHost.Proofs.Value.MapEntries

/-! What becomes of the entries of a mapping: all of them are in the answer, in their order and under different
keys, or two keys convert to equal values and the answer is a handle of the mapping. -/
namespace ScriptHost.Outbound
open Stepping
variable {n id : Identity} {self : Identity → TransferM Value} {held : List Identity} {t₀ t t₁ t' : Transfer}
variable {items : List MappingItem} {earlier pairs : List (Value × Value)}

/-- Entries that convert one after the other, each the key before the value, to the pairs of a list. -/
inductive ConvertsTo (self : Identity → TransferM Value) :
    Transfer → List MappingItem → List (Value × Value) → Transfer → Prop
  | nil (t : Transfer) : ConvertsTo self t [] [] t
  | cons {t t₁ t₂ t₃ t' : Transfer} {item : MappingItem} {k v : Identity} {key value : Value}
    {items : List MappingItem} {pairs : List (Value × Value)}
    (hpair : TransferM.guest (GuestM.pairOf item) t = .ok (k, v) t₁)
    (hkey : self k t₁ = .ok key t₂) (hvalue : self v t₂ = .ok value t₃)
    (hrest : ConvertsTo self t₃ items pairs t') :
    ConvertsTo self t (item :: items) ((key, value) :: pairs) t'

/-- Entries, after some earlier pairs, of which one has a key that converts to a value equal to the key of a pair
before it. -/
inductive Collides (self : Identity → TransferM Value) :
    List (Value × Value) → Transfer → List MappingItem → Prop
  | here {earlier : List (Value × Value)} {t t₁ t₂ : Transfer} {item : MappingItem} {k v : Identity} {key : Value}
    {items : List MappingItem} (hpair : TransferM.guest (GuestM.pairOf item) t = .ok (k, v) t₁)
    (hkey : self k t₁ = .ok key t₂) (hsame : ∃ pair ∈ earlier, (pair.1 == key) = true) :
    Collides self earlier t (item :: items)
  | later {earlier : List (Value × Value)} {t t₁ t₂ t₃ : Transfer} {item : MappingItem} {k v : Identity}
    {key value : Value} {items : List MappingItem}
    (hpair : TransferM.guest (GuestM.pairOf item) t = .ok (k, v) t₁)
    (hkey : self k t₁ = .ok key t₂) (hvalue : self v t₂ = .ok value t₃)
    (hrest : Collides self (earlier ++ [(key, value)]) t₃ items) : Collides self earlier t (item :: items)

theorem ConvertsTo.length_eq (h : ConvertsTo self t items pairs t') : pairs.length = items.length := by
  induction h with
  | nil => rfl
  | cons _ _ _ _ ih => rw [List.length_cons, List.length_cons, ih]

/-- Where all entries convert, two keys collide exactly if the pairs are not under different keys. -/
theorem ConvertsTo.collides_iff (h : ConvertsTo self t items pairs t') (hd : Value.AreDistinct earlier) :
    Collides self earlier t items ↔ ¬ Value.AreDistinct (earlier ++ pairs) := by
  induction h generalizing earlier with
  | nil => exact ⟨nofun, fun h => absurd (by simpa using hd) h⟩
  | @cons _ _ _ _ _ _ _ _ key value _ pairs hpair hkey hvalue _ ih =>
    by_cases hsame : ∃ pair ∈ earlier, (pair.1 == key) = true
    · refine ⟨fun _ hall => ?_, fun _ => .here hpair hkey hsame⟩
      obtain ⟨pair, hmem, hequal⟩ := hsame
      have hne := (List.pairwise_append.mp hall).2.2 pair hmem (key, value) List.mem_cons_self
      rw [hequal] at hne
      cases hne
    · have hd' : Value.AreDistinct (earlier ++ [(key, value)]) := by
        refine List.pairwise_append.mpr ⟨hd, List.pairwise_singleton _ _, fun pair hmem last hlast => ?_⟩
        rw [List.mem_singleton.mp hlast]
        exact Bool.eq_false_iff.mpr fun hequal => hsame ⟨pair, hmem, hequal⟩
      have hiff := ih hd'
      rw [List.append_assoc, List.singleton_append] at hiff
      refine ⟨fun hcollides => ?_, fun hall => .later hpair hkey hvalue (hiff.mpr hall)⟩
      cases hcollides with
      | here hpair' hkey' hsame' =>
        rw [hpair] at hpair'
        cases hpair'
        rw [hkey] at hkey'
        cases hkey'
        exact absurd hsame' hsame
      | later hpair' hkey' hvalue' hrest =>
        rw [hpair] at hpair'
        cases hpair'
        rw [hkey] at hkey'
        cases hkey'
        rw [hvalue] at hvalue'
        cases hvalue'
        exact hiff.mp hrest

section Entries
variable (hself : SettlesAll (ObjectGraph.everything n) Untallied self)

private theorem pairOf_gains {item : MappingItem} {p : Identity × Identity}
    (h : t₀.Gains (ObjectGraph.everything n).toCustody held t)
    (hpair : TransferM.guest (GuestM.pairOf item) t = .ok p t₁) :
    t₀.Gains (ObjectGraph.everything n).toCustody held t₁ :=
  ((guest_gains h (ObjectGraph.calm_everything _ _)).at_ok hpair).1

include hself

private theorem part_gains {part : Identity} {v : Value}
    (h : t₀.Gains (ObjectGraph.everything n).toCustody held t) (hrun : self part t = .ok v t₁) :
    ∃ more, t₀.Gains (ObjectGraph.everything n).toCustody (held ++ more) t₁ := by
  obtain ⟨more, hgains, _⟩ := (hself part t trivial h.sound).at_ok hrun
  exact ⟨more, h.trans hgains⟩

omit hself

/-- The end of a map with two equal keys: what was acquired is given back, and a handle of the mapping is left. -/
private theorem gives_up (key : Value) (h : t₀.Gains (ObjectGraph.everything n).toCustody held t) :
    ∃ t', (do
        TransferM.record .warn .marshal ("[Marshal] mapping " ++ toString id ++
          " has distinct keys converting to " ++ key.display ++ "; returning a handle instead")
        degrade t₀.acquired.size id : TransferM Value) t = .ok (.handle id) t' ∧
      t₀.Gains (ObjectGraph.everything n).toCustody [id] t' := by
  obtain ⟨t₁, hnote, hgains⟩ := record_gains .warn .marshal ("[Marshal] mapping " ++ toString id ++
    " has distinct keys converting to " ++ key.display ++ "; returning a handle instead") h
  obtain ⟨t', hdegrade, hgains'⟩ := degrade_gains id hgains
  exact ⟨t', by simp [hnote, hdegrade], hgains'⟩

include hself

/-- Two keys that convert to equal values end the conversion, whichever entries come after the second of them. -/
private theorem entries_of_collides (hcollides : Collides self earlier t items) {m : ValueMap}
    (hm : m.Filed Value.keyHash) (hearlier : m.toList = earlier)
    (h : t₀.Gains (ObjectGraph.everything n).toCustody held t) :
    ∃ t', entries self id t₀.acquired.size m items t = .ok (.handle id) t' ∧
      t₀.Gains (ObjectGraph.everything n).toCustody [id] t' := by
  induction hcollides generalizing m held with
  | here hpair hkey hsame =>
    obtain ⟨_, hgains⟩ := part_gains hself (pairOf_gains h hpair) hkey
    obtain ⟨t', hrun, hgains'⟩ := gives_up _ hgains
    have hcontains := (ValueMap.contains_iff hm _).mpr (hearlier ▸ hsame)
    exact ⟨t', by simpa [entries, hpair, hkey, hcontains] using hrun, hgains'⟩
  | @later _ _ _ _ _ _ _ _ key value _ hpair hkey hvalue _ ih =>
    obtain ⟨_, hgains⟩ := part_gains hself (pairOf_gains h hpair) hkey
    cases hcontains : m.contains key with
    | true =>
      obtain ⟨t', hrun, hgains'⟩ := gives_up key hgains
      exact ⟨t', by simpa [entries, hpair, hkey, hcontains] using hrun, hgains'⟩
    | false =>
      obtain ⟨_, hgains⟩ := part_gains hself hgains hvalue
      obtain ⟨t', hrun, hgains'⟩ := ih (ValueMap.filed_adding hm key value)
        (by rw [ValueMap.toList_adding hcontains, hearlier]) hgains
      exact ⟨t', by simp [entries, hpair, hkey, hvalue, hcontains, hrun], hgains'⟩

/-- The entries that an answer comes from: all of them are in a map, or two of them collide. -/
private theorem entries_cases {v : Value} {m : ValueMap} (hm : m.Filed Value.keyHash)
    (hd : Value.AreDistinct m.toList) (h : t₀.Gains (ObjectGraph.everything n).toCustody held t)
    (hrun : entries self id t₀.acquired.size m items t = .ok v t') :
    (∃ (m' : ValueMap) (pairs : List (Value × Value)), v = .map m' ∧ ConvertsTo self t items pairs t' ∧
      m'.toList = m.toList ++ pairs ∧ Value.AreDistinct m'.toList) ∨
    v = .handle id ∧ Collides self m.toList t items ∧ t₀.Gains (ObjectGraph.everything n).toCustody [id] t' := by
  induction items generalizing m t held with
  | nil =>
    cases hrun
    exact .inl ⟨m, [], rfl, .nil _, by simp, hd⟩
  | cons item items ih =>
    rw [entries, bind_run] at hrun
    cases hpair : TransferM.guest (GuestM.pairOf item) t with
    | error f t₁ => simp [hpair] at hrun
    | ok p t₁ =>
      obtain ⟨k, v⟩ := p
      simp only [hpair, bind_run] at hrun
      cases hkey : self k t₁ with
      | error f t₂ => simp [hkey] at hrun
      | ok key t₂ =>
        obtain ⟨_, hgains⟩ := part_gains hself (pairOf_gains h hpair) hkey
        simp only [hkey] at hrun
        cases hcontains : m.contains key with
        | true =>
          obtain ⟨t₃, hrun', hgains'⟩ := gives_up key hgains
          rw [if_pos hcontains, hrun'] at hrun
          cases hrun
          exact .inr ⟨rfl, .here hpair hkey ((ValueMap.contains_iff hm key).mp hcontains), hgains'⟩
        | false =>
          rw [if_neg (by simp [hcontains]), bind_run] at hrun
          cases hvalue : self v t₂ with
          | error f t₃ => simp [hvalue] at hrun
          | ok value t₃ =>
            simp only [hvalue] at hrun
            obtain ⟨_, hgains⟩ := part_gains hself hgains hvalue
            have htoList := ValueMap.toList_adding hcontains value
            have hd' : Value.AreDistinct (m.adding key value).toList :=
              htoList ▸ ValueMap.areDistinct_adding hm hd hcontains
            rcases ih (ValueMap.filed_adding hm key value) hd' hgains hrun with
              ⟨m', pairs, rfl, hrest, hall, hdistinct⟩ | ⟨rfl, hcollides, hgains'⟩
            · refine .inl ⟨m', _, rfl, .cons hpair hkey hvalue hrest, ?_, hdistinct⟩
              rw [hall, htoList, List.append_assoc, List.singleton_append]
            · exact .inr ⟨rfl, .later hpair hkey hvalue (htoList ▸ hcollides), hgains'⟩

end Entries

/-- The conversion of a mapping keeps every pair, in order and under different keys, or keeps the mapping whole. It
keeps it whole exactly when two of its keys convert to equal values, and then every handle that was acquired for keys
and values has been given back, so that one of the mapping is all that is new. -/
theorem mapping_keeps_pairs_or_whole {converters : List OutboundConverter} (hextends : Extends converters)
    (hself : Converts converters self) (ht : t.counts.Positive)
    (hitems : TransferM.guest (GuestM.mappingItems id) t = .ok items t₁) :
    (∀ v t', mapping self id t = .ok v t' → v = .handle id ∨
      ∃ m : ValueMap, v = .map m ∧ m.size = items.length ∧ ConvertsTo self t₁ items m.toList t' ∧
        Value.AreDistinct m.toList) ∧
    ((∃ t', mapping self id t = .ok (.handle id) t') ↔ Collides self [] t₁ items) ∧
    ∀ t', mapping self id t = .ok (.handle id) t' →
      t'.counts = t.counts.acquire id ∧ t'.acquired = t.acquired.push id := by
  have hfree := settles_of_converts
    (ObjectGraph.everything_admits hextends : (ObjectGraph.everything t.namespaceDict).Admits _) hself
  have hsound := sound_everything ht
  have hgains := ((guest_gains (.refl hsound) (ObjectGraph.calm_everything _ _)).at_ok hitems).1
  have hstart : mapping self id t =
      entries self id t.acquired.size (Keyed.withCapacity items.length) items t₁ := by
    simp [mapping, hitems]
  have hfiled := Keyed.filed_withCapacity (α := Value) Value.keyHash items.length
  have hcases : ∀ v t', mapping self id t = .ok v t' → _ := fun v t' hrun =>
    entries_cases hfree hfiled (by simp [Value.AreDistinct]) hgains (hstart ▸ hrun)
  refine ⟨fun v t' hrun => ?_, ⟨fun hwhole => ?_, fun hcollides => ?_⟩, fun t' hrun => ?_⟩
  · rcases hcases v t' hrun with ⟨m, pairs, rfl, hall, hpairs, hdistinct⟩ | ⟨rfl, _⟩
    · rw [Keyed.toList_withCapacity, List.nil_append] at hpairs
      obtain rfl := hpairs
      exact .inr ⟨m, rfl, hall.length_eq, hall, hdistinct⟩
    · exact .inl rfl
  · obtain ⟨t', hrun⟩ := hwhole
    rcases hcases _ t' hrun with ⟨m, _, hmap, _⟩ | ⟨_, hcollides, _⟩
    · cases hmap
    · exact hcollides
  · obtain ⟨t', hrun, _⟩ := entries_of_collides hfree hcollides hfiled (Keyed.toList_withCapacity _) hgains
    exact ⟨t', hstart.trans hrun⟩
  · rcases hcases _ t' hrun with ⟨m, _, hmap, _⟩ | ⟨_, _, hgains'⟩
    · cases hmap
    · refine ⟨Counts.ext_of_count hgains'.sound.positive (Counts.positive_acquire ht id) fun other => ?_, ?_⟩
      · rw [hgains'.count, Counts.count_acquire]
      · apply Array.toList_inj.mp
        rw [hgains'.acquired, Array.toList_push]

/-- A crossing into an interpreter with a mapping of two integers to themselves. -/
private def couple : Transfer where
  guest := { heap := #[
    { body := .dict [] },
    { body := .dict [⟨[.integer 1], ⟨2⟩, ⟨2⟩⟩, ⟨[.integer 2], ⟨3⟩, ⟨3⟩⟩] },
    { body := .int 1 },
    { body := .int 2 }] }
  namespaceDict := ⟨0⟩

/-- A converter of the integers that takes a handle of each and makes nothing of it. -/
private def blank : OutboundConverter where
  name := "blank"
  priority := 1
  guard _ part := part == ⟨2⟩ || part == ⟨3⟩
  conversion := .custom fun part => .handleFor part fun _ => .done .null

private theorem blank_run (part : Identity) (hpart : part = ⟨2⟩ ∨ part = ⟨3⟩) (ht : t.active = []) :
    ∃ t', marshal (blank.insert standard) part t = .ok .null t' ∧ t'.active = [] := by
  have hdispatch : ∀ self t, ∃ t', dispatch self (blank.insert standard) part t = .ok .null t' ∧
      t'.active = t.active := by
    intro self t
    obtain ⟨note, hplan⟩ : ∃ note, dispatch self (blank.insert standard) part t =
        (do
          TransferM.record .trace .marshal note
          let _ ← handleFor part
          return .null : TransferM Value) t := by
      rcases hpart with rfl | rfl <;> exact ⟨_, rfl⟩
    obtain ⟨r, hacquire⟩ := TransferM.acquire_run part
      { t with guest := t.guest.noted ⟨.trace, .marshal, note⟩ }
    exact ⟨_, by simp [hplan, TransferM.record_run, handleFor, hacquire]; rfl, by rfl⟩
  have hstart : marshal (blank.insert standard) part t = whileActive part
      (dispatch (marshalTo (blank.insert standard) (2 * t.guest.heap.size + 1)) (blank.insert standard) part) t := by
    simp [marshal, depth, marshalTo, ht]
  obtain ⟨t₁, hrun, hactive⟩ := hdispatch (marshalTo (blank.insert standard) (2 * t.guest.heap.size + 1))
    { t with active := part :: t.active }
  refine ⟨{ t₁ with active := t₁.active.erase part }, ?_, by simp [hactive, ht]⟩
  simp only [hstart, whileActive, bind_run, modify_run, attempt_run, hrun, pure_run]

private theorem couple_collides : Collides (marshal (blank.insert standard)) [] couple
    [.pair ⟨2⟩ ⟨2⟩, .pair ⟨3⟩ ⟨3⟩] := by
  obtain ⟨t₁, hkey₁, hactive₁⟩ := blank_run ⟨2⟩ (.inl rfl) (t := couple) rfl
  obtain ⟨t₂, hvalue₁, hactive₂⟩ := blank_run ⟨2⟩ (.inl rfl) hactive₁
  obtain ⟨t₃, hkey₂, _⟩ := blank_run ⟨3⟩ (.inr rfl) hactive₂
  exact .later rfl hkey₁ hvalue₁ (.here rfl hkey₂ ⟨_, List.mem_singleton_self _, rfl⟩)

/-- The two keys convert to the same value, and the three handles that were taken before that was seen are gone. -/
theorem mapping_keeps_couple_whole : ∃ t',
    mapping (marshal (blank.insert standard)) ⟨1⟩ couple = .ok (.handle ⟨1⟩) t' ∧
    t'.counts = couple.counts.acquire ⟨1⟩ ∧ t'.acquired = #[⟨1⟩] := by
  have hextends : Extends (blank.insert standard) := extends_standard.insert rfl
  have hitems : TransferM.guest (GuestM.mappingItems ⟨1⟩) couple =
      .ok [.pair ⟨2⟩ ⟨2⟩, .pair ⟨3⟩ ⟨3⟩] couple := rfl
  obtain ⟨_, hwhole, hcounts⟩ :=
    mapping_keeps_pairs_or_whole hextends (.inl rfl) Counts.positive_empty hitems
  obtain ⟨t', hrun⟩ := hwhole.mpr couple_collides
  exact ⟨t', hrun, hcounts t' hrun⟩

end ScriptHost.Outbound
