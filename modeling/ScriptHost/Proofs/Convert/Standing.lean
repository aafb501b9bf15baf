import ScriptHost.Proofs.Guest.Proceeding
import ScriptHost.Proofs.Value.Plain

/-! Objects that stand for host values: scalars, wrappers, and lists and dictionaries of such objects. As keys of a
dictionary, objects that stand for unlike values are told apart. -/
namespace ScriptHost

/-- What an object holds tells a value by itself: it is that scalar, or it wraps the value. -/
inductive Body.Tells : Body → Value → Prop where
  | none : Tells .none .null
  | bool (b : Bool) : Tells (.bool b) (.bool b)
  | int (n : Int) : Tells (.int n) (.integer n)
  | float (x : Double) : Tells (.float x) (.float x)
  | text {t : Text} {s : String} (h : t.encode = .ok s) : Tells (.text t) (.string s)
  | wrapper (v : Value) : Tells (.wrapper v) v

namespace Guest

/-- An object of one of the interpreter's own classes on which nothing is set, and none of those that are written. -/
structure IsUntouched (g : Guest) (W : Identity → Prop) (id : Identity) : Prop where
  holds : g.Holds id
  unwritten : ¬ W id
  exact : g.home? id = none
  bare : (g.object id).attributes = none

/-- An object stands for a value: it tells the value, or it is a list or a dictionary of objects that came up before
it and stand for the parts. -/
inductive Stands (g : Guest) (W : Identity → Prop) : Identity → Value → Prop where
  | direct {id : Identity} {v : Value} (h : g.IsUntouched W id) (htells : (g.body id).Tells v) : Stands g W id v
  | list {id : Identity} {items : Array Identity} {vs : List Value} (h : g.IsUntouched W id)
    (hbody : g.body id = .list items) (hlength : items.size = vs.length)
    (hbefore : ∀ item ∈ items.toList, item.index < id.index)
    (hitems : ∀ pair ∈ items.toList.zip vs, Stands g W pair.1 pair.2) : Stands g W id (.list vs)
  | map {id : Identity} {entries : Dict} {m : ValueMap} (h : g.IsUntouched W id)
    (hbody : g.body id = .dict entries) (hlength : entries.length = m.toList.length)
    (hbefore : ∀ entry ∈ entries, entry.key.index < id.index ∧ entry.value.index < id.index)
    (hkeys : ∀ pair ∈ entries.zip m.toList, g.IsUntouched W pair.1.key ∧ (g.body pair.1.key).Tells pair.2.1)
    (hvalues : ∀ pair ∈ entries.zip m.toList, Stands g W pair.1.value pair.2.2) : Stands g W id (.map m)

variable {W : Identity → Prop} {g g' : Guest} {id : Identity} {v : Value}

theorem Stands.untouched (h : g.Stands W id v) : g.IsUntouched W id := by
  cases h <;> assumption

theorem Stands.tells_of_leaf (h : g.Stands W id v) (hleaf : v.isLeaf = true) : (g.body id).Tells v := by
  cases h with
  | direct _ htells => exact htells
  | list | map => cases hleaf

/-! ### Interpreters that proceed -/

theorem IsUntouched.proceeds (h : g.IsUntouched W id) (hg : g.Proceeds W g') : g'.IsUntouched W id := by
  have hobject := hg.object id h.holds h.unwritten
  refine ⟨hg.holds h.holds, h.unwritten, ?_, ?_⟩
  · rw [home?, hobject]
    exact h.exact
  · rw [hobject, h.bare]

theorem IsUntouched.body_eq (h : g.IsUntouched W id) (hg : g.Proceeds W g') : g'.body id = g.body id :=
  hg.body_eq h.holds h.unwritten

/-- An object goes on standing for its value. -/
theorem Stands.proceeds (h : g.Stands W id v) (hg : g.Proceeds W g') : g'.Stands W id v := by
  induction h with
  | direct h htells => exact .direct (h.proceeds hg) (by rwa [h.body_eq hg])
  | list h hbody hlength hbefore _ ih =>
    exact .list (h.proceeds hg) (by rw [h.body_eq hg, hbody]) hlength hbefore ih
  | map h hbody hlength hbefore hkeys _ ih =>
    refine .map (h.proceeds hg) (by rw [h.body_eq hg, hbody]) hlength hbefore
      (fun pair hpair => ?_) ih
    obtain ⟨huntouched, htells⟩ := hkeys pair hpair
    exact ⟨huntouched.proceeds hg, by rwa [huntouched.body_eq hg]⟩

/-- An object represents a value: it stands for it, and wraps it if that cannot be converted. -/
structure Represents (g : Guest) (W : Identity → Prop) (id : Identity) (v : Value) : Prop where
  stands : g.Stands W id v
  wrapper : v.HasCollectionKey → g.body id = .wrapper v

theorem Represents.proceeds (h : g.Represents W id v) (hg : g.Proceeds W g') : g'.Represents W id v where
  stands := h.stands.proceeds hg
  wrapper hv := by rw [h.stands.untouched.body_eq hg, h.wrapper hv]

/-! ### Forms of keys -/

end Guest

/-- The form, as a key, of an object that tells a value by what it holds. -/
def Body.keyPart (id : Identity) : Body → KeyPart
  | .bool b => .integer (if b then 1 else 0)
  | .int n => .integer n
  | .float x => .ofDouble id x
  | .text t => .text t
  | _ => .identity id

namespace Body.Tells
variable {body body' : Body} {id id' : Identity} {v v' : Value}

/-- Such an object goes by its number, by itself if it is a NaN, or by the text or value that it is. -/
theorem keyPart_cases (h : body.Tells v) (id : Identity) :
    (∃ k : Int, body.keyPart id = .integer k ∧ v.number? = some (k : ℚ)) ∨
    (∃ x, body.keyPart id = .float x ∧ v = .float x ∧ x.isNaN = false) ∨
    (∃ t s, body.keyPart id = .text t ∧ v = .string s ∧ t.encode = .ok s) ∨ body.keyPart id = .identity id := by
  cases h with
  | bool b => exact .inl ⟨_, rfl, by cases b <;> simp [Value.number?]⟩
  | int n => exact .inl ⟨n, rfl, Value.number?_integer n⟩
  | float x =>
    rw [Body.keyPart, KeyPart.ofDouble]
    cases hnan : x.isNaN with
    | true => exact .inr (.inr (.inr rfl))
    | false =>
      cases hint : x.toInt? with
      | some k => exact .inl ⟨k, rfl, Double.toRat?_of_toInt? hint⟩
      | none => exact .inr (.inl ⟨x, rfl, rfl, hnan⟩)
  | @text t s hs => exact .inr (.inr (.inl ⟨t, s, rfl, rfl, hs⟩))
  | none | wrapper => exact .inr (.inr (.inr rfl))

/-- What an object holds tells no more than one value. -/
theorem unique (h : body.Tells v) (h' : body.Tells v') : v = v' := by
  cases h <;> cases h' <;> simp_all

variable [KeyHasher]

/-- Different objects that tell unlike values have different forms as keys. -/
theorem keyPart_ne (h : body.Tells v) (h' : body'.Tells v') (hne : id ≠ id') (hv : v.IsUnlike v') :
    body.keyPart id ≠ body'.keyPart id' := by
  intro hpart
  rcases h.keyPart_cases id with ⟨k, hk, hnumber⟩ | ⟨x, hx, rfl, hnan⟩ | ⟨t, s, ht, rfl, hs⟩ | hid
  · rcases h'.keyPart_cases id' with ⟨k', hk', hnumber'⟩ | ⟨x', hx', _⟩ | ⟨t', s', ht', _⟩ | hid'
    · rw [hpart, hk', KeyPart.integer.injEq] at hk
      exact hv.number _ hnumber (hk ▸ hnumber')
    all_goals simp_all
  · rcases h'.keyPart_cases id' with ⟨k', hk', _⟩ | ⟨x', hx', rfl, _⟩ | ⟨t', s', ht', _⟩ | hid'
    · simp_all
    · rw [hpart, hx', KeyPart.float.injEq] at hx
      have hequal : (Value.float x == Value.float x') = true :=
        (Value.beq_iff _ _).mpr (.float (hx ▸ (Double.equals_self_iff x).mpr hnan))
      rw [hv.unequal] at hequal
      cases hequal
    all_goals simp_all
  · rcases h'.keyPart_cases id' with ⟨k', hk', _⟩ | ⟨x', hx', _⟩ | ⟨t', s', ht', rfl, hs'⟩ | hid'
    · simp_all
    · simp_all
    · rw [hpart, ht', KeyPart.text.injEq] at ht
      rw [ht, hs, Except.ok.injEq] at hs'
      have hequal : (Value.string s == Value.string s') = true := (Value.beq_iff _ _).mpr (hs' ▸ .atom rfl)
      rw [hv.unequal] at hequal
      cases hequal
    · simp_all
  · rcases h'.keyPart_cases id' with ⟨k', hk', _⟩ | ⟨x', hx', _⟩ | ⟨t', s', ht', _⟩ | hid'
    all_goals simp_all

end Body.Tells

namespace GuestM
open Stepping Guest
variable {g : Guest} {id : Identity} {v : Value}

theorem keyForm_of_tells (hexact : g.home? id = Option.none) (h : (g.body id).Tells v) (context : Context) :
    keyForm id context g = .ok [(g.body id).keyPart id] g := by
  have hopen : g.isUnhashable id = false ∧ decidesEquality g id = false ∧ g.isPlain id = false := by
    refine ⟨?_, by simp [decidesEquality, special?, hexact], by simp [isPlain, hexact]⟩
    rw [isUnhashable, hexact]
    generalize g.body id = body at h
    cases h <;> rfl
  simp only [keyForm, keyFormTo, reader_bind_run, reader_get_run, hopen, Bool.false_eq_true, if_false,
    keyFormOfBody]
  generalize g.body id = body at h ⊢
  cases h <;> rfl

/-- A list or a dictionary cannot be a key. -/
theorem keyForm_of_collection (hexact : g.home? id = Option.none)
    (hbody : (∃ items, g.body id = .list items) ∨ ∃ entries, g.body id = .dict entries) (context : Context) :
    ∃ f, keyForm id context g = .error f g := by
  have hrefused : g.isUnhashable id = true := by
    rcases hbody with ⟨items, hb⟩ | ⟨entries, hb⟩ <;> simp only [isUnhashable, hexact, hb, Body.className] <;> decide
  simp only [keyForm, keyFormTo, reader_bind_run, reader_get_run, hrefused, if_true]
  exact ⟨_, rfl⟩

theorem isSpecial_keyPart (body : Body) (id : Identity) : isSpecial [body.keyPart id] = false := by
  cases body <;> try rfl
  rename_i x
  simp only [isSpecial, Body.keyPart, KeyPart.ofDouble, List.any_cons, List.any_nil, Bool.or_false]
  split
  · rfl
  · split <;> rfl

variable {entries : Dict} {key : Identity} {context : Context}

/-- Among keys that no class has a say in, a key like them is found by its own form. -/
theorem formIn_of_open {g' : Guest} {form : Key} (hrun : keyForm key context g = .ok form g')
    (hform : isSpecial form = false) (hentries : ∀ entry ∈ entries, isSpecial entry.form = false) :
    formIn entries key context g = .ok form g' := by
  have hothers : (entries.map fun entry => (entry.form, entry.key)).any (isSpecial ·.1) = false := by
    simpa using hentries
  simp only [formIn, formAmong, reader_bind_run, hrun, hform, hothers, Bool.not_false, Bool.and_self, if_true,
    reader_pure_run]

/-- What cannot be a key has no form. -/
theorem formIn_of_error {g' : Guest} {f : Fault} (hrun : keyForm key context g = .error f g') :
    formIn entries key context g = .error f g' := by
  simp only [formIn, formAmong, reader_bind_run, hrun]

theorem inserted_of_form {g' : Guest} {form : Key} (value : Identity)
    (hrun : formIn entries key context g = .ok form g') :
    inserted entries key value context g = .ok (entries.insert form key value) g' := by
  simp only [inserted, reader_bind_run, hrun, reader_pure_run]

theorem inserted_of_error {g' : Guest} {f : Fault} (value : Identity)
    (hrun : formIn entries key context g = .error f g') : inserted entries key value context g = .error f g' := by
  simp only [inserted, reader_bind_run, hrun]

end GuestM
end ScriptHost
