import ScriptHost.Proofs.Convert.Delivery
import ScriptHost.Proofs.Handle.Registry

/-! Maps as dictionaries. The entries of a map come in one by one, each under the form of its key, so keys of one form
share an entry: it keeps the first of their objects and the last of their values. -/
namespace ScriptHost

namespace Dict

/-- A dictionary into which entries come one by one. -/
def insertAll (d : Dict) (filed : List DictEntry) : Dict :=
  filed.foldl (fun d entry => d.insert entry.form entry.key entry.value) d

/-- The dictionary of entries that come in one by one. -/
def ofEntries (filed : List DictEntry) : Dict := insertAll [] filed

/-- The key object under a form. -/
def keyOf? (d : Dict) (form : Key) : Option Identity := (List.find? (·.form == form) d).map (·.key)

theorem ofEntries_concat (filed : List DictEntry) (entry : DictEntry) :
    ofEntries (filed ++ [entry]) = (ofEntries filed).insert entry.form entry.key entry.value := by
  simp [ofEntries, insertAll]

theorem keyOf?_cons (entry : DictEntry) (d : Dict) (form : Key) :
    keyOf? (entry :: d) form = if entry.form = form then some entry.key else keyOf? d form := by
  unfold keyOf?
  by_cases h : entry.form = form
  · simp [h]
  · simp [h, beq_eq_false_iff_ne.mpr h]

theorem keyOf?_concat (d : Dict) (entry : DictEntry) (form : Key) :
    keyOf? (d ++ [entry]) form =
      if entry.form = form then some ((keyOf? d form).getD entry.key) else keyOf? d form := by
  induction d with
  | nil => rw [List.nil_append, keyOf?_cons]; rfl
  | cons first d ih =>
    rw [List.cons_append, keyOf?_cons, keyOf?_cons, ih]
    by_cases h : first.form = form <;> simp [h]

/-! ### One entry more -/

theorem forms_insert (d : Dict) (form : Key) (key value : Identity) : (d.insert form key value).map (·.form) =
    if form ∈ d.map (·.form) then d.map (·.form) else d.map (·.form) ++ [form] := by
  induction d with
  | nil => simp [insert]
  | cons entry d ih =>
    rw [insert]
    by_cases h : entry.form = form
    · simp [h]
    · simp only [if_neg h, List.map_cons, ih, List.mem_cons, Ne.symm h, false_or]
      split <;> rfl

/-- A key object that was there stays. -/
theorem keyOf?_insert (d : Dict) (form other : Key) (key value : Identity) :
    (d.insert form key value).keyOf? other =
      if form = other then some ((d.keyOf? other).getD key) else d.keyOf? other := by
  induction d with
  | nil => rw [insert, keyOf?_cons]; rfl
  | cons entry d ih =>
    by_cases h : entry.form = form
    · subst h
      rw [insert, if_pos rfl, keyOf?_cons, keyOf?_cons]
      split <;> rfl
    · rw [insert, if_neg h, keyOf?_cons, keyOf?_cons, ih]
      by_cases hother : form = other
      · simp [hother, hother ▸ h]
      · simp [hother]

/-! ### All entries -/

/-- The forms stand in the order in which they first came in. -/
theorem forms_ofEntries (filed : List DictEntry) : (ofEntries filed).map (·.form) = (filed.map (·.form)).eraseDups := by
  induction filed using List.reverseRecOn with
  | nil => rfl
  | append_singleton filed entry ih =>
    rw [ofEntries_concat, forms_insert, ih, List.map_append, List.eraseDups_append, List.map_singleton, List.removeAll,
      List.filter_singleton, List.elem_eq_mem]
    by_cases h : entry.form ∈ filed.map (·.form)
    · rw [if_pos (List.mem_eraseDups.mpr h), decide_eq_true h]
      simp
    · rw [if_neg (mt List.mem_eraseDups.mp h), decide_eq_false h]
      simp [List.eraseDups_cons]

/-- The key object that was filed first under a form stays. -/
theorem keyOf?_ofEntries (filed : List DictEntry) (form : Key) : (ofEntries filed).keyOf? form = keyOf? filed form := by
  induction filed using List.reverseRecOn with
  | nil => rfl
  | append_singleton filed entry ih => rw [ofEntries_concat, keyOf?_insert, ih, keyOf?_concat]

/-- What was filed last under a form is found. -/
theorem find?_ofEntries (filed : List DictEntry) (form : Key) :
    (ofEntries filed).find? form = find? filed.reverse form := by
  induction filed using List.reverseRecOn with
  | nil => rfl
  | append_singleton filed entry ih =>
    rw [ofEntries_concat, find?_insert, ih, List.reverse_append, List.reverse_singleton, List.singleton_append,
      find?_cons]

variable {filed : List DictEntry}

/-- Entries under different forms all stay as they are. -/
theorem ofEntries_of_apart (h : filed.Pairwise fun a b => a.form ≠ b.form) : ofEntries filed = filed := by
  induction filed using List.reverseRecOn with
  | nil => rfl
  | append_singleton filed entry ih =>
    obtain ⟨hfiled, -, hentry⟩ := List.pairwise_append.mp h
    rw [ofEntries_concat, ih hfiled, insert_of_new fun other hother => hentry other hother entry (.head _)]

theorem length_insert (d : Dict) (form : Key) (key value : Identity) :
    (d.insert form key value).length = if form ∈ d.map (·.form) then d.length else d.length + 1 := by
  have hforms := congrArg List.length (forms_insert d form key value)
  rw [List.length_map] at hforms
  rw [hforms]
  split <;> simp

theorem length_ofEntries_le (filed : List DictEntry) : (ofEntries filed).length ≤ filed.length := by
  induction filed using List.reverseRecOn with
  | nil => exact le_rfl
  | append_singleton filed entry ih =>
    rw [ofEntries_concat, length_insert, List.length_append, List.length_singleton]
    split <;> omega

/-- No entry is lost exactly if no two have one form. -/
theorem length_ofEntries_iff (filed : List DictEntry) :
    (ofEntries filed).length = filed.length ↔ filed.Pairwise fun a b => a.form ≠ b.form := by
  refine ⟨fun h => ?_, fun h => by rw [ofEntries_of_apart h]⟩
  induction filed using List.reverseRecOn with
  | nil => exact .nil
  | append_singleton filed entry ih =>
    have hle := length_ofEntries_le filed
    rw [ofEntries_concat, length_insert, List.length_append, List.length_singleton] at h
    split at h
    · omega
    · next hnew =>
      rw [forms_ofEntries, List.mem_eraseDups] at hnew
      refine List.pairwise_append.mpr ⟨ih (by omega), List.pairwise_singleton _ _, fun other hother last hlast => ?_⟩
      rw [List.mem_singleton.mp hlast]
      exact fun hsame => hnew (List.mem_map.mpr ⟨other, hother, hsame⟩)

end Dict

/-! ### Keys that are leaves -/

namespace Value

/-- What the key of a leaf goes by: its number if that is an integer, its float or its text, or itself. -/
inductive GoesBy : Value → Identity → KeyPart → Prop where
  | integer {v : Value} {id : Identity} {k : Int} (h : v.number? = some (k : ℚ)) : GoesBy v id (.integer k)
  | float {x : Double} {id : Identity} (hnan : x.isNaN = false) (hint : x.toInt? = none) :
    GoesBy (.float x) id (.float x)
  | text {id : Identity} (s : String) : GoesBy (.string s) id (.text (.ofString s))
  | identity {v : Value} {id : Identity} (h : v.number? = none) : GoesBy v id (.identity id)

variable {a b : Value} {id id' : Identity}

theorem goesBy_keyPart (hleaf : a.isLeaf = true) (id : Identity) : a.GoesBy id (a.leafBody.keyPart id) := by
  cases a with
  | bool b => exact .integer (by cases b <;> simp [number?])
  | int n => exact .integer rfl
  | bigInt n => exact .integer rfl
  | float x =>
    rw [leafBody, Body.keyPart, KeyPart.ofDouble]
    cases hnan : x.isNaN with
    | true => exact .identity (by simp [number?, Double.toRat?, hnan])
    | false =>
      cases hint : x.toInt? with
      | some k => exact .integer (Double.toRat?_of_toInt? hint)
      | none => exact .float hnan hint
  | string s => exact .text s
  | null | host | handle => exact .identity rfl
  | list | map => cases hleaf

/-- What holds no number tells which leaf it came of. -/
theorem leafBody_injective (ha : a.number? = none) (hb : b.number? = none) (haleaf : a.isLeaf = true)
    (hbleaf : b.isLeaf = true) (h : a.leafBody = b.leafBody) : a = b := by
  cases a <;> cases b <;> simp_all [leafBody, number?, isLeaf, Text.ofString_injective.eq_iff]

/-- Leaves that go by the same stand for one number, are equal, or are no numbers and have one object. -/
theorem GoesBy.cases_of_same [KeyHasher] {part : KeyPart} (h : a.GoesBy id part) (h' : b.GoesBy id' part) :
    (∃ q, a.number? = some q ∧ b.number? = some q) ∨ (a = b ∧ (b == b) = true) ∨
      (id = id' ∧ a.number? = none ∧ b.number? = none) := by
  cases h with
  | integer hnumber =>
    cases h' with
    | integer hnumber' => exact .inl ⟨_, hnumber, hnumber'⟩
  | float hnan =>
    cases h' with
    | float => exact .inr (.inl ⟨rfl, (Double.equals_self_iff _).mpr hnan⟩)
  | text s =>
    generalize htext : Text.ofString s = t at h'
    cases h' with
    | text s' => exact .inr (.inl ⟨congrArg string (Text.ofString_injective htext), (beq_iff _ _).mpr (.atom rfl)⟩)
  | identity hnumber =>
    cases h' with
    | identity hnumber' => exact .inr (.inr ⟨rfl, hnumber, hnumber'⟩)

/-- A leaf that stands for a number goes by that if it is an integer, and else by its float. -/
theorem GoesBy.cases_of_number {part : KeyPart} {q : ℚ} (h : a.GoesBy id part) (hq : a.number? = some q) :
    (∃ k : Int, q = k ∧ part = .integer k) ∨
      ∃ x, a = .float x ∧ part = .float x ∧ ∀ k : Int, q ≠ k := by
  cases h with
  | @integer _ _ k hnumber => exact .inl ⟨k, Option.some.inj (hq.symm.trans hnumber), rfl⟩
  | @float x _ hnan hint =>
    refine .inr ⟨x, rfl, rfl, ?_⟩
    rintro k rfl
    cases hint.symm.trans (Double.toInt?_of_toRat? hq)
  | text => cases hq
  | identity hnone => cases hnone.symm.trans hq

/-- Keys of unequal leaves have one form exactly if they stand for one number. -/
theorem keyPart_eq_iff [KeyHasher] (ha : a.isLeaf = true) (hb : b.isLeaf = true) (hunequal : (a == b) = false)
    (hobject : id = id' → a.leafBody = b.leafBody ∧ (b == b) = true) :
    a.leafBody.keyPart id = b.leafBody.keyPart id' ↔ ∃ q, a.number? = some q ∧ b.number? = some q := by
  have hkey := goesBy_keyPart ha id
  have hkey' := goesBy_keyPart hb id'
  have hself (hsame : a = b) (h : (b == b) = true) : False := by
    rw [hsame, h] at hunequal
    cases hunequal
  constructor
  · intro h
    rw [h] at hkey
    rcases hkey.cases_of_same hkey' with hnumbers | ⟨hsame, heq⟩ | ⟨hid, hnone, hnone'⟩
    · exact hnumbers
    · exact (hself hsame heq).elim
    · obtain ⟨hbody, heq⟩ := hobject hid
      exact (hself (leafBody_injective hnone hnone' ha hb hbody) heq).elim
  · rintro ⟨q, hq, hq'⟩
    rcases hkey.cases_of_number hq with ⟨k, rfl, hpart⟩ | ⟨x, rfl, hpart, hfraction⟩
    all_goals rcases hkey'.cases_of_number hq' with ⟨k', hk', hpart'⟩ | ⟨y, rfl, hpart', hfraction'⟩
    · rw [hpart, hpart', Rat.intCast_inj.mp hk']
    · exact (hfraction' k rfl).elim
    · exact (hfraction k' hk').elim
    · cases hunequal.symm.trans (Double.equals_of_toRat? hq hq')

end Value

/-! ### Conversion of maps -/

namespace Inbound
open Stepping Guest
variable {self : Value → TransferM Identity} {found : Dict} {rest : List (Value × Value)} {filed : List DictEntry}
  {t t' : Transfer}

/-- The entries of a map are converted one by one, and each key has a form among those that were filed before it. -/
inductive Files (self : Value → TransferM Identity) :
    Transfer → Dict → List (Value × Value) → List DictEntry → Transfer → Prop where
  | nil {t : Transfer} {found : Dict} : Files self t found [] [] t
  | cons {t t₁ t₂ t₃ t₄ : Transfer} {found : Dict} {entry : Value × Value} {rest : List (Value × Value)}
    {key value : Identity} {form : Key} {filed : List DictEntry}
    (hkey : self entry.1 t = .ok key t₁) (hvalue : self entry.2 t₁ = .ok value t₂)
    (hform : TransferM.guest (GuestM.formIn found key) t₂ = .ok form t₃)
    (hrest : Files self t₃ (found.insert form key value) rest filed t₄) :
    Files self t found (entry :: rest) (⟨form, key, value⟩ :: filed) t₄

theorem Files.length_eq (h : Files self t found rest filed t') : filed.length = rest.length := by
  induction h with
  | nil => rfl
  | cons _ _ _ _ ih => simp [ih]

private theorem guest_inserted (found : Dict) (key value : Identity) (t : Transfer) :
    TransferM.guest (GuestM.inserted found key value) t =
      match TransferM.guest (GuestM.formIn found key) t with
      | .ok form t => .ok (found.insert form key value) t
      | .error f t => .error f t := by
  simp only [TransferM.guest_run, GuestM.atTop_eq, GuestM.inserted, reader_bind_run]
  cases GuestM.formIn found key t.guest.topContext t.guest <;> rfl

theorem entries_of_files (h : Files self t found rest filed t') :
    entries self found rest t = .ok (found.insertAll filed) t' := by
  induction h with
  | nil => rfl
  | cons hkey hvalue hform _ ih =>
    simp only [entries, bind_run, hkey, hvalue, guest_inserted, hform, ih]
    rfl

/-- A conversion of entries that ends well files them all. -/
theorem files_of_entries {dict : Dict} (h : entries self found rest t = .ok dict t') :
    ∃ filed, Files self t found rest filed t' ∧ dict = found.insertAll filed := by
  induction rest generalizing found t with
  | nil =>
    cases h
    exact ⟨[], .nil, rfl⟩
  | cons entry rest ih =>
    simp only [entries, bind_run, guest_inserted] at h
    cases hkey : self entry.1 t with
    | error f t₁ => simp [hkey] at h
    | ok key t₁ =>
      cases hvalue : self entry.2 t₁ with
      | error f t₂ => simp [hkey, hvalue] at h
      | ok value t₂ =>
        cases hform : TransferM.guest (GuestM.formIn found key) t₂ with
        | error f t₃ => simp [hkey, hvalue, hform] at h
        | ok form t₃ =>
          simp only [hkey, hvalue, hform] at h
          obtain ⟨filed, hrest, hdict⟩ := ih h
          exact ⟨_, .cons hkey hvalue hform hrest, hdict⟩

/-- A map becomes a dictionary exactly if its entries can all be filed. -/
theorem mapping_answers_iff (m : ValueMap) : (∃ id t', apply self .mapping (.map m) t = .ok id t') ↔
    ∃ filed t', Files self t [] m.toList filed t' := by
  constructor
  · rintro ⟨id, t', h⟩
    simp only [apply, bind_run] at h
    cases hrun : entries self [] m.toList t with
    | error f t₁ => simp [hrun] at h
    | ok dict t₁ =>
      obtain ⟨filed, hfiled, _⟩ := files_of_entries hrun
      exact ⟨filed, t₁, hfiled⟩
  · rintro ⟨filed, t', h⟩
    simp only [apply, bind_run, entries_of_files h]
    exact ⟨_, _, rfl⟩

/-! ### Under the converters that every table starts with -/

/-- An entry is filed under a leaf if its key holds that. -/
structure IsFiledUnder (g : Guest) (entry : DictEntry) (v : Value) : Prop where
  leaf : v.isLeaf = true
  holds : g.Holds entry.key
  body : g.body entry.key = v.leafBody
  form : entry.form = [v.leafBody.keyPart entry.key]

theorem IsFiledUnder.proceeds {g g' : Guest} {entry : DictEntry} {v : Value} (h : IsFiledUnder g entry v)
    (hg : g.Proceeds (fun _ => False) g') : IsFiledUnder g' entry v :=
  ⟨h.leaf, hg.holds h.holds, by rw [hg.body_eq h.holds not_false, h.body], h.form⟩

theorem marshalTo_of_structural {v : Value} {run : TransferM Identity} (depth : Nat) (h : structural v = some run) :
    marshalTo standard (depth + 1) v = run := by
  cases v <;> cases h <;> rfl

theorem leaf_of_structural {v : Value} {run : TransferM Identity} (h : structural v = some run) :
    v.isLeaf = true ∧ v.handles = [] := by
  cases v <;> cases h <;> exact ⟨rfl, rfl⟩

variable [KeyHasher]

/-- What entries are filed as: each under its leaf, and those under a NaN with a key object of their own. -/
structure FiledAll (t t' : Transfer) (pairs : List (DictEntry × Value × Value)) : Prop where
  proceeds : t.Proceeds (fun _ => False) t'
  filed : ∀ pair ∈ pairs, IsFiledUnder t'.guest pair.1 pair.2.1
  fresh : ∀ pair ∈ pairs, (pair.2.1 == pair.2.1) = false → ¬ t.guest.Holds pair.1.key
  apart : pairs.Pairwise fun a b => a.1.key = b.1.key → (b.2.1 == b.2.1) = true

theorem Files.filedAll (h : Files self t found rest filed t') (hself : Delivers (fun _ => False) self)
    (hfree : ∀ entry ∈ rest, entry.1.handles = [] ∧ entry.2.HasFreeKeys) (hg : t.guest.IsTidy fun _ => False)
    (hopen : ∀ entry ∈ found, GuestM.isSpecial entry.form = false) : FiledAll t t' (filed.zip rest) := by
  induction h with
  | nil => exact ⟨.refl _, nofun, nofun, .nil⟩
  | @cons t t₁ t₂ t₃ t₄ found entry rest key value form filed hkey hvalue hform _ ih =>
    obtain ⟨⟨hkeyfree, hvaluefree⟩, hfree⟩ := List.forall_mem_cons.mp hfree
    have h₁ := (hself entry.1 t (.of_free hkeyfree) hg).at_ok hkey
    have hg₁ := hg.proceeds h₁.proceeds.guest
    have h₂ := (hself entry.2 t₁ hvaluefree hg₁).at_ok hvalue
    have h₁₂ := h₁.proceeds.trans h₂.proceeds
    have hkeyable := (h₁.keyable hkeyfree key rfl).proceeds h₂.proceeds.guest
    rw [TransferM.guest_run, GuestM.atTop_eq] at hform
    have hleaf : entry.1.isLeaf = true := by
      by_contra hcollection
      obtain ⟨f, hrefused⟩ :=
        hkeyable.formIn_of_collection (Bool.not_eq_true _ ▸ hcollection) found t₂.guest.topContext
      simp [hrefused] at hform
    rw [hkeyable.formIn_of_leaf hleaf hopen] at hform
    obtain ⟨rfl, rfl⟩ : [entry.1.leafBody.keyPart key] = form ∧ t₂ = t₃ := by simpa using hform
    have hpart := GuestM.isSpecial_keyPart entry.1.leafBody key
    have hrest := ih hfree (hg.proceeds h₁₂.guest)
      (Dict.forall_form_insert (P := (GuestM.isSpecial · = false)) hopen hpart)
    have hfirst : IsFiledUnder t₂.guest ⟨[entry.1.leafBody.keyPart key], key, value⟩ entry.1 :=
      ⟨hleaf, hkeyable.untouched.holds, hkeyable.leaf hleaf, rfl⟩
    refine ⟨h₁₂.trans hrest.proceeds, ?_, ?_, ?_⟩
    · exact List.forall_mem_cons.mpr ⟨hfirst.proceeds hrest.proceeds.guest, hrest.filed⟩
    · refine List.forall_mem_cons.mpr ⟨fun hnan => h₁.fresh hnan key rfl, fun pair hpair hnan hheld => ?_⟩
      exact hrest.fresh pair hpair hnan (h₁₂.guest.holds hheld)
    · refine .cons (fun pair hpair hsame => ?_) hrest.apart
      by_contra hnan
      refine hrest.fresh pair hpair (Bool.not_eq_true _ ▸ hnan) ?_
      rw [← hsame]
      exact hfirst.holds

/-- Under the converters that every table starts with, keys are filed apart exactly if they stand for different
numbers. -/
theorem Files.apart_iff {m : ValueMap} (h : Files self t [] m.toList filed t') (hself : Delivers (fun _ => False) self)
    (hm : m.Built) (hfree : (Value.map m).HasFreeKeys) (hbare : t.guest.ScalarsBare) :
    (filed.Pairwise fun a b => a.form ≠ b.form) ↔ m.KeysApart := by
  have hall := h.filedAll hself (fun entry hentry => ⟨hfree m .whole entry hentry, hfree.value hentry⟩)
    ⟨fun _ => False.elim, hbare⟩ fun _ hentry => nomatch hentry
  have hlength := h.length_eq
  have hfirsts : (filed.zip m.toList).map Prod.fst = filed := List.map_fst_zip hlength.le
  have hseconds : (filed.zip m.toList).map Prod.snd = m.toList := List.map_snd_zip hlength.ge
  generalize filed.zip m.toList = pairs at hall hfirsts hseconds
  have hdistinct : pairs.Pairwise fun a b => (a.2.1 == b.2.1) = false := by
    have hkeys := hm.orderly.distinct
    rwa [Value.AreDistinct, ← hseconds, List.pairwise_map] at hkeys
  have hiff : pairs.Pairwise fun a b =>
      (a.1.form ≠ b.1.form ↔ ∀ q, a.2.1.number? = some q → b.2.1.number? ≠ some q) := by
    refine (hdistinct.and hall.apart).imp_of_mem fun {a b} ha hb hab => ?_
    have hfirst := hall.filed a ha
    have hsecond := hall.filed b hb
    have hforms := Value.keyPart_eq_iff hfirst.leaf hsecond.leaf hab.1 fun hsame =>
      ⟨by rw [← hfirst.body, hsame, hsecond.body], hab.2 hsame⟩
    rw [hfirst.form, hsecond.form, Ne, List.cons.injEq, and_iff_left rfl, hforms]
    refine ⟨fun hno q hq hq' => hno ⟨q, hq, hq'⟩, fun hno => ?_⟩
    rintro ⟨q, hq, hq'⟩
    exact hno q hq hq'
  rw [ValueMap.KeysApart, ← hfirsts, ← hseconds, List.pairwise_map, List.pairwise_map]
  exact ⟨fun h => (hiff.and h).imp fun hab => hab.1.mp hab.2, fun h => (hiff.and h).imp fun hab => hab.1.mpr hab.2⟩

/-- Scalars under scalars can always be filed. -/
theorem files_of_scalars (depth : Nat) (t : Transfer) (found : Dict) (rest : List (Value × Value))
    (hrest : ∀ entry ∈ rest, (structural entry.1).isSome ∧ (structural entry.2).isSome)
    (hg : t.guest.IsTidy fun _ => False) (hopen : ∀ entry ∈ found, GuestM.isSpecial entry.form = false) :
    ∃ filed t', Files (marshalTo standard (depth + 1)) t found rest filed t' := by
  induction rest generalizing found t with
  | nil => exact ⟨[], t, .nil⟩
  | cons entry rest ih =>
    obtain ⟨⟨hkeyscalar, hvaluescalar⟩, hrest⟩ := List.forall_mem_cons.mp hrest
    obtain ⟨run, hrun⟩ := Option.isSome_iff_exists.mp hkeyscalar
    obtain ⟨key, t₁, hkey, h₁⟩ := structural_delivers hrun hg
    have hg₁ := hg.proceeds h₁.proceeds.guest
    obtain ⟨run', hrun'⟩ := Option.isSome_iff_exists.mp hvaluescalar
    obtain ⟨value, t₂, hvalue, h₂⟩ := structural_delivers hrun' hg₁
    obtain ⟨hleaf, hfree⟩ := leaf_of_structural hrun
    have hkeyable := (h₁.keyable hfree key rfl).proceeds h₂.proceeds.guest
    have hform : TransferM.guest (GuestM.formIn found key) t₂ = .ok [entry.1.leafBody.keyPart key] t₂ := by
      rw [TransferM.guest_run, GuestM.atTop_eq, hkeyable.formIn_of_leaf hleaf hopen]
    rw [← marshalTo_of_structural depth hrun] at hkey
    rw [← marshalTo_of_structural depth hrun'] at hvalue
    obtain ⟨filed, t', hfiled⟩ := ih _ _ hrest (hg₁.proceeds h₂.proceeds.guest)
      (Dict.forall_form_insert (P := (GuestM.isSpecial · = false)) hopen (GuestM.isSpecial_keyPart _ _))
    exact ⟨_, t', .cons hkey hvalue hform hfiled⟩

/-- A map becomes a dictionary in which its keys stand in order under their forms. Keys of one form share an entry: it
keeps the first key object and the last value, so an entry is lost exactly if two keys have one form. Under the
converters that every table starts with that is if two keys stand for one number. -/
theorem mapping_merges_equal_keys {m : ValueMap} (h : Files self t [] m.toList filed t') :
    apply self .mapping (.map m) t =
        .ok t'.guest.next { t' with guest := t'.guest.adding { body := .dict (Dict.ofEntries filed) } } ∧
      (Dict.ofEntries filed).map (·.form) = (filed.map (·.form)).eraseDups ∧
      (∀ form, (Dict.ofEntries filed).keyOf? form = Dict.keyOf? filed form ∧
        (Dict.ofEntries filed).find? form = Dict.find? filed.reverse form) ∧
      ((Dict.ofEntries filed).length = m.size ↔ filed.Pairwise fun a b => a.form ≠ b.form) ∧
      ((Dict.ofEntries filed).length = m.size → Dict.ofEntries filed = filed) ∧
      ∀ depth, self = marshalTo standard depth → t.guest.ScalarsBare → m.Built → (Value.map m).HasFreeKeys →
        ((Dict.ofEntries filed).length = m.size ↔ m.KeysApart) := by
  have hsize : filed.length = m.size := h.length_eq.trans Array.length_toList
  have hentries := Dict.length_ofEntries_iff filed
  rw [hsize] at hentries
  refine ⟨?_, Dict.forms_ofEntries filed,
    fun form => ⟨Dict.keyOf?_ofEntries filed form, Dict.find?_ofEntries filed form⟩,
    hentries, fun hkept => Dict.ofEntries_of_apart (hentries.mp hkept), ?_⟩
  · simp only [apply, bind_run, entries_of_files h]
    rfl
  · rintro depth rfl hbare hm hfree
    rw [hentries, h.apart_iff (marshalTo_delivers _ depth) hm hfree hbare]

omit [KeyHasher] in
/-- One and true are two keys of a map and one key of its dictionary. -/
theorem mapping_merges_one_and_true :
    let _ : KeyHasher := ⟨fun _ => 0⟩
    let m := ValueMap.ofList [(.int 1, .string "a"), (.bool true, .string "b")]
    let start : Transfer := { guest := minimal, namespaceDict := minimalNamespace }
    ∃ filed t', Files (marshalTo standard 1) start [] m.toList filed t' ∧
      apply (marshalTo standard 1) .mapping (.map m) start =
        .ok t'.guest.next { t' with guest := t'.guest.adding { body := .dict (Dict.ofEntries filed) } } ∧
      m.size = 2 ∧ (Dict.ofEntries filed).length ≠ 2 := by
  intro _ m start
  have htoList : m.toList = [(.int 1, .string "a"), (.bool true, .string "b")] := (ValueMap.ofList_eq _).2
  have hleaf (v : Value) (h : v.isLeaf = true := by rfl) : v.Built := .leaf h
  have hm : m.Built := .ofList (by simpa using ⟨⟨hleaf _, hleaf _⟩, hleaf _, hleaf _⟩)
  have hfree : (Value.map m).HasFreeKeys := .of_map (by
    rw [htoList]
    simpa using ⟨⟨rfl, .of_free rfl⟩, rfl, .of_free rfl⟩)
  obtain ⟨filed, t', hfiled⟩ := files_of_scalars 0 start [] m.toList
    (by rw [htoList]; simp [structural]) ⟨fun _ => False.elim, isIntact_minimal.bare⟩ fun _ h => nomatch h
  obtain ⟨hrun, _, _, _, _, hstandard⟩ := mapping_merges_equal_keys hfiled
  have hsize : m.size = 2 := congrArg List.length htoList
  have hshared : ¬ m.KeysApart := by
    rw [ValueMap.KeysApart, htoList]
    simp [Value.number?]
  have hlost := mt (hstandard 1 rfl isIntact_minimal.bare hm hfree).mp hshared
  exact ⟨filed, t', hfiled, hrun, hsize, hsize ▸ hlost⟩

end Inbound
end ScriptHost
