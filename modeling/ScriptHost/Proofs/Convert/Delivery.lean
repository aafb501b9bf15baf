import ScriptHost.Convert.Inbound
import ScriptHost.Proofs.Convert.Standing

/-! Delivery of host values. A conversion only adds objects, if no key carries a handle, and it raises if a list or a
map is a key. The object that comes of a plain value stands for it. -/
namespace ScriptHost

/-- A crossing on which the interpreter has proceeded and nothing else has changed. -/
structure Transfer.Proceeds (W : Identity → Prop) (t t' : Transfer) : Prop where
  rest : t' = { t with guest := t'.guest }
  guest : t.guest.Proceeds W t'.guest

namespace Transfer.Proceeds
variable {W : Identity → Prop} {t t' t'' : Transfer} {g' : Guest}

theorem refl (t : Transfer) : t.Proceeds W t := ⟨rfl, .refl _⟩

theorem trans (h : t.Proceeds W t') (h' : t'.Proceeds W t'') : t.Proceeds W t'' :=
  ⟨by rw [h'.rest, h.rest], h.guest.trans h'.guest⟩

theorem of_guest (h : t.guest.Proceeds W g') : t.Proceeds W { t with guest := g' } := ⟨rfl, h⟩

theorem noted (t : Transfer) (r : Record) : t.Proceeds W { t with guest := t.guest.noted r } :=
  of_guest (Guest.proceeds_noted _ _)

end Transfer.Proceeds

namespace Dict

/-- A key under a new form goes to the end. -/
theorem insert_of_new {d : Dict} {form : Key} (h : ∀ entry ∈ d, entry.form ≠ form) (key value : Identity) :
    insert form key value d = d ++ [⟨form, key, value⟩] := by
  induction d with
  | nil => rfl
  | cons entry d ih =>
    obtain ⟨hentry, hrest⟩ := List.forall_mem_cons.mp h
    rw [insert, if_neg hentry, ih hrest, List.cons_append]

/-- The forms of a dictionary after a key has come in are those from before and the one of the key. -/
theorem forall_form_insert {P : Key → Prop} {d : Dict} {form : Key} {key value : Identity}
    (h : ∀ entry ∈ d, P entry.form) (hform : P form) : ∀ entry ∈ d.insert form key value, P entry.form := by
  induction d with
  | nil => simpa [insert] using hform
  | cons entry d ih =>
    obtain ⟨hentry, hrest⟩ := List.forall_mem_cons.mp h
    rw [insert]
    split
    · exact List.forall_mem_cons.mpr ⟨hentry, hrest⟩
    · exact List.forall_mem_cons.mpr ⟨hentry, ih hrest⟩

end Dict

namespace Guest
variable {V W : Identity → Prop} {g g' : Guest} {id : Identity}

/-- What deliveries rely on: the objects that are written are dictionaries, and no scalar carries attributes. -/
structure IsTidy (g : Guest) (W : Identity → Prop) : Prop where
  dicts : ∀ id, W id → g.Holds id ∧ g.isDict id = true
  bare : g.ScalarsBare

theorem IsTidy.proceeds (h : g.IsTidy W) (hg : g.Proceeds V g') : g'.IsTidy W where
  dicts id hid := ⟨hg.holds (h.dicts id hid).1, hg.dict id (h.dicts id hid).1 (h.dicts id hid).2⟩
  bare := hg.bare h.bare

theorem isUntouched_adding (hg : g.IsTidy W) (body : Body) : (g.adding { body }).IsUntouched W g.next where
  holds := by simp [Holds, next, adding]
  unwritten hid := Nat.lt_irrefl _ (hg.dicts _ hid).1
  exact := by rw [home?, object_adding]
  bare := by rw [object_adding]

theorem body_adding (g : Guest) (body : Body) : (g.adding { body }).body g.next = body := by
  rw [Guest.body, object_adding]

/-- A scalar that came up is untouched, even if it was there before. -/
theorem Adds.isUntouched (h : g.Adds g') (hg : g.IsTidy W) (hid : g'.Holds id) (hexact : g'.isExact id = true)
    (hscalar : (g'.scalar? id).isSome) : g'.IsUntouched W id where
  holds := hid
  unwritten hwritten := by
    have hdict := (hg.proceeds (V := W) h.proceeds).dicts id hwritten
    unfold isDict at hdict
    unfold scalar? at hscalar
    cases hbody : g'.body id <;> simp_all
  exact := by simpa [isExact] using hexact
  bare := (hg.proceeds (V := W) h.proceeds).bare id hexact hscalar

end Guest

/-- What the object of a leaf holds: the scalar, or the value itself in a wrapper. -/
def Value.leafBody : Value → Body
  | .null => .none
  | .bool b => .bool b
  | .int n => .int n.toInt
  | .bigInt n => .int n
  | .float x => .float x
  | .string s => .text (.ofString s)
  | v => .wrapper v

theorem Value.leafBody_tells (v : Value) : ∃ v', v.leafBody.Tells v' := by
  cases v with
  | null => exact ⟨_, .none⟩
  | bool b => exact ⟨_, .bool b⟩
  | int n => exact ⟨_, .int n.toInt⟩
  | bigInt n => exact ⟨_, .int n⟩
  | float x => exact ⟨_, .float x⟩
  | string s => exact ⟨_, .text (Text.encode_ofString s)⟩
  | _ => exact ⟨_, .wrapper _⟩

/-- What an object that comes of a value is as a key: one that holds a leaf, and else a list or a dictionary. -/
structure Guest.IsKeyable (g : Guest) (W : Identity → Prop) (id : Identity) (v : Value) : Prop where
  untouched : g.IsUntouched W id
  leaf : v.isLeaf = true → g.body id = v.leafBody
  collection : v.isLeaf = false → (∃ items, g.body id = .list items) ∨ ∃ entries, g.body id = .dict entries

theorem Guest.IsKeyable.proceeds {W : Identity → Prop} {g g' : Guest} {id : Identity} {v : Value}
    (h : g.IsKeyable W id v) (hg : g.Proceeds W g') : g'.IsKeyable W id v where
  untouched := h.untouched.proceeds hg
  leaf := by
    rw [h.untouched.body_eq hg]
    exact h.leaf
  collection := by
    rw [h.untouched.body_eq hg]
    exact h.collection

/-- A leaf has a form by what its object holds. -/
theorem Guest.IsKeyable.formIn_of_leaf {W : Identity → Prop} {g : Guest} {id : Identity} {v : Value} {entries : Dict}
    (h : g.IsKeyable W id v) (hleaf : v.isLeaf = true)
    (hentries : ∀ entry ∈ entries, GuestM.isSpecial entry.form = false) (context : Context) :
    GuestM.formIn entries id context g = .ok [v.leafBody.keyPart id] g := by
  obtain ⟨told, htells⟩ := v.leafBody_tells
  rw [← h.leaf hleaf] at htells ⊢
  exact GuestM.formIn_of_open (GuestM.keyForm_of_tells h.untouched.exact htells context)
    (GuestM.isSpecial_keyPart _ _) hentries

/-- A list or a map has none. -/
theorem Guest.IsKeyable.formIn_of_collection {W : Identity → Prop} {g : Guest} {id : Identity} {v : Value}
    (h : g.IsKeyable W id v) (hleaf : v.isLeaf = false) (entries : Dict) (context : Context) :
    ∃ f, GuestM.formIn entries id context g = .error f g := by
  obtain ⟨f, hrefused⟩ := GuestM.keyForm_of_collection h.untouched.exact (h.collection hleaf) context
  exact ⟨f, GuestM.formIn_of_error hrefused⟩

namespace Inbound
open Stepping Guest
variable [KeyHasher] {W : Identity → Prop} {t t' : Transfer} {v : Value}

/-- How the conversion of a value ends whose keys carry no handles: the interpreter has gained objects. The one that
comes of a plain value stands for it, and is new if the value does not equal itself. -/
structure Delivered (W : Identity → Prop) (t : Transfer) (v : Value) (r : Except Fault Identity) (t' : Transfer) :
    Prop where
  proceeds : t.Proceeds (fun _ => False) t'
  raises : v.HasCollectionKey → ∀ id, r ≠ .ok id
  keyable : v.handles = [] → ∀ id, r = .ok id → t'.guest.IsKeyable W id v
  stands : v.IsPlain → ∀ id, r = .ok id → t'.guest.Stands W id v
  fresh : (v == v) = false → ∀ id, r = .ok id → ¬ t.guest.Holds id

/-- A conversion delivers values whose keys carry no handles. -/
def Delivers (W : Identity → Prop) (self : Value → TransferM Identity) : Prop :=
  ∀ v t, v.HasFreeKeys → t.guest.IsTidy W → Ends (self v) t (Delivered W t v)

/-- What a later crossing delivers is delivered from an earlier one. -/
theorem Delivered.after {r : Except Fault Identity} {t₀ : Transfer} (h : Delivered W t v r t')
    (h₀ : t₀.Proceeds (fun _ => False) t) : Delivered W t₀ v r t' where
  proceeds := h₀.trans h.proceeds
  raises := h.raises
  keyable := h.keyable
  stands := h.stands
  fresh hnan id hid hheld := h.fresh hnan id hid (h₀.guest.holds hheld)

theorem Delivered.of_error {f : Fault} (h : t.Proceeds (fun _ => False) t') : Delivered W t v (.error f) t' where
  proceeds := h
  raises := nofun
  keyable := nofun
  stands := nofun
  fresh := nofun

/-- A conversion makes a new object. -/
private theorem delivered_adding {body : Body} (hg : t.guest.IsTidy W) (hraises : ¬ v.HasCollectionKey)
    (hleaf : v.isLeaf = true → body = v.leafBody)
    (hcollection : v.isLeaf = false → (∃ items, body = .list items) ∨ ∃ entries, body = .dict entries)
    (h : v.IsPlain → (t.guest.adding { body }).Stands W t.guest.next v) :
    Delivered W t v (.ok t.guest.next) { t with guest := t.guest.adding { body } } where
  proceeds := .of_guest (Adds.push t.guest body).proceeds
  raises hrefused := absurd hrefused hraises
  keyable _ id hid := by
    cases hid
    refine ⟨isUntouched_adding hg body, ?_, ?_⟩
    all_goals
      rw [show (t.guest.adding { body }).body t.guest.next = body from body_adding t.guest body]
      assumption
  stands hv id hid := by
    cases hid
    exact h hv
  fresh _ id hid hheld := by
    cases hid
    exact Nat.lt_irrefl _ hheld

omit [KeyHasher] in
theorem stands_wrapper {g : Guest} (hg : g.IsTidy W) (v : Value) :
    (g.adding { body := .wrapper v }).Stands W g.next v := by
  refine .direct (isUntouched_adding hg _) ?_
  rw [body_adding]
  exact .wrapper v

/-! ### Scalars -/

/-- A scalar is an object of the interpreter's own, new or met before. -/
private theorem scalar_delivers {run : GuestM Identity} (hleaf : v.isLeaf = true)
    (hg : t.guest.IsTidy W) (hrun : ∃ id g', run t.guest.topContext t.guest = .ok id g' ∧ t.guest.Adds g' ∧
      g'.Holds id ∧ g'.isExact id = true ∧ g'.body id = v.leafBody)
    (hscalar : ∀ (g : Guest) id, g.body id = v.leafBody → (g.scalar? id).isSome) (hself : (v == v) = true)
    (htells : ∃ v', v.leafBody.Tells v' ∧ (v.IsPlain → v' = v)) :
    ∃ id t', TransferM.guest run t = .ok id t' ∧ Delivered W t v (.ok id) t' := by
  obtain ⟨id, g', hrun, hadds, hid, hexact, hbody⟩ := hrun
  obtain ⟨v', htells, hplain⟩ := htells
  have hguest : TransferM.guest run t = .ok id { t with guest := g' } := by
    rw [TransferM.guest_run, GuestM.atTop_eq, hrun]
  have huntouched := hadds.isUntouched hg hid hexact (hscalar g' id hbody)
  refine ⟨id, _, hguest, .of_guest hadds.proceeds, fun h => ?_, fun _ other hother => ?_, fun hv other hother => ?_,
    fun hnan => ?_⟩
  · cases h <;> cases hleaf
  · cases hother
    exact ⟨huntouched, fun _ => hbody, fun h => by rw [hleaf] at h; cases h⟩
  · cases hother
    exact .direct huntouched (hplain hv ▸ hbody ▸ htells)
  · rw [hself] at hnan
    cases hnan

/-- A scalar is always delivered. -/
theorem structural_delivers {run : TransferM Identity} (h : structural v = some run) (hg : t.guest.IsTidy W) :
    ∃ id t', run t = .ok id t' ∧ Delivered W t v (.ok id) t' := by
  have hself (hatom : v.isAtom = true) : (v == v) = true := (Value.beq_iff v v).mpr (.atom hatom)
  cases v with
  | null =>
    cases h
    exact scalar_delivers rfl hg (GuestM.internIn_run 0 .none _ _) (fun g id hb => by rw [scalar?, hb]; rfl)
      (hself rfl) ⟨_, .none, fun _ => rfl⟩
  | bool b =>
    cases h
    exact scalar_delivers rfl hg (GuestM.internIn_run 0 (.bool b) _ _) (fun g id hb => by rw [scalar?, hb]; rfl)
      (hself rfl) ⟨_, .bool b, fun _ => rfl⟩
  | int n =>
    cases h
    exact scalar_delivers rfl hg (GuestM.int_run n.toInt _ _) (fun g id hb => by rw [scalar?, hb]; rfl) (hself rfl)
      ⟨_, .int n.toInt, fun _ => Value.integer_toInt n⟩
  | bigInt n =>
    cases h
    exact scalar_delivers rfl hg (GuestM.int_run n _ _) (fun g id hb => by rw [scalar?, hb]; rfl) (hself rfl)
      ⟨_, .int n, fun hv => Value.integer_of_big (hv.big n .whole)⟩
  | string s =>
    cases h
    exact scalar_delivers rfl hg (GuestM.string_run s _ _) (fun g id hb => by rw [scalar?, hb]; rfl) (hself rfl)
      ⟨_, .text (Text.encode_ofString s), fun _ => rfl⟩
  | float x =>
    cases h
    refine ⟨_, _, rfl, delivered_adding hg (fun h => by cases h) (fun _ => rfl) (fun h => by cases h) fun _ => ?_⟩
    refine .direct (isUntouched_adding hg _) ?_
    rw [body_adding]
    exact .float x
  | list | map | host | handle => cases h

/-! ### Collections -/

variable {self : Value → TransferM Identity}

theorem items_delivers (hself : Delivers W self) {vs : List Value} (hvs : ∀ v ∈ vs, v.HasFreeKeys)
    (hg : t.guest.IsTidy W) : Ends (items self vs) t fun r t' => t.Proceeds (fun _ => False) t' ∧
      ((∃ v ∈ vs, v.HasCollectionKey) → ∀ ids, r ≠ .ok ids) ∧
      ((∀ v ∈ vs, v.IsPlain) → ∀ ids, r = .ok ids → List.Forall₂ (t'.guest.Stands W) ids vs) := by
  induction vs generalizing t with
  | nil =>
    refine .of_ok rfl ⟨.refl t, fun h => ?_, fun _ ids hids => ?_⟩
    · simp at h
    · cases hids
      exact .nil
  | cons v vs ih =>
    obtain ⟨hv, hvs⟩ := List.forall_mem_cons.mp hvs
    refine (hself v t hv hg).bind (fun obj t₁ h₁ => ?_) fun f t₁ h₁ => ⟨h₁.proceeds, nofun, nofun⟩
    refine (ih hvs (hg.proceeds h₁.proceeds.guest)).bind (fun ids t₂ h₂ => ?_) fun f t₂ h₂ =>
      ⟨h₁.proceeds.trans h₂.1, nofun, nofun⟩
    obtain ⟨hproceeds, hraises, hstands⟩ := h₂
    refine .of_ok rfl ⟨h₁.proceeds.trans hproceeds, fun h => ?_, fun hplain found hfound => ?_⟩
    · obtain ⟨part, hmem, hpart⟩ := h
      rcases List.mem_cons.mp hmem with rfl | hmem
      · exact absurd rfl (h₁.raises hpart obj)
      · exact absurd rfl (hraises ⟨part, hmem, hpart⟩ ids)
    · cases hfound
      obtain ⟨hv, hvs⟩ := List.forall_mem_cons.mp hplain
      exact .cons ((h₁.stands hv obj rfl).proceeds hproceeds.guest.relax) (hstands hvs ids rfl)

/-- An entry of a dictionary stands for an entry of a map: its key tells the one's key and is filed by that. -/
structure IsEntryOf (g : Guest) (W : Identity → Prop) (found : DictEntry) (entry : Value × Value) : Prop where
  key : g.IsUntouched W found.key
  tells : (g.body found.key).Tells entry.1
  form : found.form = [(g.body found.key).keyPart found.key]
  value : g.Stands W found.value entry.2

omit [KeyHasher] in
theorem IsEntryOf.proceeds {g g' : Guest} {found : DictEntry} {entry : Value × Value}
    (h : IsEntryOf g W found entry) (hg : g.Proceeds W g') : IsEntryOf g' W found entry where
  key := h.key.proceeds hg
  tells := by
    rw [h.key.body_eq hg]
    exact h.tells
  form := by rw [h.key.body_eq hg, h.form]
  value := h.value.proceeds hg

/-- A key that came up later than those of other entries, or equals itself, is filed apart from those that are
unlike it. -/
private theorem form_ne {g g' : Guest} {found : Dict} {seen : List (Value × Value)} {id : Identity}
    (hfound : List.Forall₂ (IsEntryOf g W) found seen) (hg : g.Proceeds W g') (htells : (g'.body id).Tells v)
    (hnew : (v == v) = false → ¬ g.Holds id) (hunlike : ∀ entry ∈ seen, entry.1.IsUnlike v) :
    ∀ entry ∈ found, entry.form ≠ [(g'.body id).keyPart id] := by
  induction hfound with
  | nil => exact fun _ h => nomatch h
  | @cons first _ _ _ hentry _ ih =>
    obtain ⟨hfirst, hothers⟩ := List.forall_mem_cons.mp hunlike
    refine List.forall_mem_cons.mpr ⟨?_, ih hothers⟩
    have hlater := hentry.proceeds hg
    have hne : first.key ≠ id := by
      rintro rfl
      have hunequal := hfirst.unequal
      rw [hlater.tells.unique htells] at hunequal
      exact hnew hunequal hentry.key.holds
    rw [hlater.form, Ne, List.cons.injEq]
    exact fun h => hlater.tells.keyPart_ne htells hne hfirst h.1

/-- One more entry comes in at the end, if its key is unlike those that are there. -/
private theorem isEntryOf_insert {g g' : Guest} {found : Dict} {seen : List (Value × Value)} {entry : Value × Value}
    {key value : Identity} (hfound : List.Forall₂ (IsEntryOf g W) found seen) (hg : g.Proceeds W g')
    (hkey : g'.Stands W key entry.1) (hleaf : entry.1.isLeaf = true)
    (hnew : (entry.1 == entry.1) = false → ¬ g.Holds key) (hunlike : ∀ other ∈ seen, other.1.IsUnlike entry.1)
    (hvalue : g'.Stands W value entry.2) :
    List.Forall₂ (IsEntryOf g' W) (found.insert [(g'.body key).keyPart key] key value) (seen ++ [entry]) := by
  have htells := hkey.tells_of_leaf hleaf
  rw [Dict.insert_of_new (form_ne hfound hg htells hnew hunlike)]
  have hearlier := hfound.imp fun _ _ h => h.proceeds hg
  have hlast : IsEntryOf g' W ⟨[(g'.body key).keyPart key], key, value⟩ entry :=
    ⟨hkey.untouched, htells, rfl, hvalue⟩
  exact List.rel_append hearlier (.cons hlast .nil)

/-- How the conversion of entries ends that come after others: they all come into the dictionary, in their order, if
they are those of a plain map. -/
structure EntriesDelivered (W : Identity → Prop) (plain : Prop) (t : Transfer) (seen rest : List (Value × Value))
    (r : Except Fault Dict) (t' : Transfer) : Prop where
  proceeds : t.Proceeds (fun _ => False) t'
  raises : (∃ entry ∈ rest, entry.1.isLeaf = false ∨ entry.2.HasCollectionKey) → ∀ dict, r ≠ .ok dict
  entries : plain → ∀ dict, r = .ok dict → List.Forall₂ (IsEntryOf t'.guest W) dict (seen ++ rest)

theorem entries_delivers (hself : Delivers W self) {plain : Prop} {rest : List (Value × Value)} {found : Dict}
    {seen : List (Value × Value)} (hfree : ∀ entry ∈ rest, entry.1.handles = [] ∧ entry.2.HasFreeKeys)
    (hrest : plain → ∀ entry ∈ rest, entry.1.IsPlain ∧ entry.2.IsPlain)
    (hunlike : plain → (seen ++ rest).Pairwise fun a b => a.1.IsUnlike b.1) (hg : t.guest.IsTidy W)
    (hopen : ∀ entry ∈ found, GuestM.isSpecial entry.form = false)
    (hfound : plain → List.Forall₂ (IsEntryOf t.guest W) found seen) :
    Ends (entries self found rest) t (EntriesDelivered W plain t seen rest) := by
  induction rest generalizing found seen t with
  | nil =>
    refine .of_ok rfl ⟨.refl t, fun h => by simp at h, fun hplain dict hdict => ?_⟩
    cases hdict
    rw [List.append_nil]
    exact hfound hplain
  | cons entry rest ih =>
    obtain ⟨⟨hkeyfree, hvaluefree⟩, hfree⟩ := List.forall_mem_cons.mp hfree
    refine (hself entry.1 t (.of_free hkeyfree) hg).bind (fun key t₁ h₁ => ?_) fun f t₁ h₁ =>
      ⟨h₁.proceeds, nofun, nofun⟩
    refine (hself entry.2 t₁ hvaluefree (hg.proceeds h₁.proceeds.guest)).bind (fun value t₂ h₂ => ?_) fun f t₂ h₂ =>
      ⟨h₁.proceeds.trans h₂.proceeds, nofun, nofun⟩
    have h₁₂ := h₁.proceeds.trans h₂.proceeds
    have hkey := (h₁.keyable hkeyfree key rfl).proceeds h₂.proceeds.guest.relax
    cases hleaf : entry.1.isLeaf with
    | false =>
      obtain ⟨f, hrefused⟩ := hkey.formIn_of_collection hleaf found t₂.guest.topContext
      have hrun : TransferM.guest (GuestM.inserted found key value) t₂ = .error f t₂ := by
        rw [TransferM.guest_run, GuestM.atTop_eq, GuestM.inserted_of_error value hrefused]
      exact .of_error (by rw [bind_run, hrun]) ⟨h₁₂, nofun, nofun⟩
    | true =>
      have hpart := GuestM.isSpecial_keyPart (t₂.guest.body key) key
      have hform := hkey.formIn_of_leaf hleaf hopen t₂.guest.topContext
      rw [← hkey.leaf hleaf] at hform
      have hrun : TransferM.guest (GuestM.inserted found key value) t₂ =
          .ok (found.insert [(t₂.guest.body key).keyPart key] key value) t₂ := by
        rw [TransferM.guest_run, GuestM.atTop_eq, GuestM.inserted_of_form value hform]
      refine .bind_of_ok hrun ?_
      have hmore : plain → List.Forall₂ (IsEntryOf t₂.guest W)
          (found.insert [(t₂.guest.body key).keyPart key] key value) (seen ++ [entry]) := fun hplain => by
        obtain ⟨hkeyplain, hvalueplain⟩ := hrest hplain entry (.head _)
        have hstands := (h₁.stands hkeyplain key rfl).proceeds h₂.proceeds.guest.relax
        refine isEntryOf_insert (hfound hplain) h₁₂.guest.relax hstands hleaf (h₁.fresh · key rfl) ?_
          (h₂.stands hvalueplain value rfl)
        exact fun other hother => (List.pairwise_append.mp (hunlike hplain)).2.2 other hother entry (.head _)
      refine (ih hfree (fun hplain other hother => hrest hplain other (.tail _ hother))
        (fun hplain => by simpa using hunlike hplain) (hg.proceeds h₁₂.guest)
        (Dict.forall_form_insert (P := (GuestM.isSpecial · = false)) hopen hpart) hmore).mono fun r t' h => ?_
      refine ⟨h₁₂.trans h.proceeds, fun hrefused dict hdict => ?_, fun hplain => by simpa using h.entries hplain⟩
      obtain ⟨other, hmem, hother⟩ := hrefused
      rcases List.mem_cons.mp hmem with rfl | hmem
      · rcases hother with hcollection | hother
        · rw [hleaf] at hcollection
          cases hcollection
        · exact h₂.raises hother value rfl
      · exact h.raises ⟨other, hmem, hother⟩ dict hdict

/-! ### Values -/

omit [KeyHasher] in
private theorem stands_list {g : Guest} {ids : List Identity} {vs : List Value}
    (h : List.Forall₂ (g.Stands W) ids vs) (hg : g.IsTidy W) :
    (g.adding { body := .list ids.toArray }).Stands W g.next (.list vs) := by
  have hheld := ((List.forall₂_and_left ids vs).mp (h.imp fun _ _ h => ⟨h.untouched.holds, h⟩)).1
  have hproceeds : g.Proceeds W (g.adding { body := .list ids.toArray }) := (Adds.push g _).proceeds
  have hitems := List.forall₂_iff_zip.mp (h.imp fun _ _ h => h.proceeds hproceeds)
  exact .list (isUntouched_adding hg _) (body_adding g _) (by simpa using hitems.1)
    (fun item hitem => hheld item (by simpa using hitem)) fun pair hpair => hitems.2 hpair

omit [KeyHasher] in
private theorem stands_map {g : Guest} {dict : Dict} {m : ValueMap}
    (h : List.Forall₂ (IsEntryOf g W) dict m.toList) (hg : g.IsTidy W) :
    (g.adding { body := .dict dict }).Stands W g.next (.map m) := by
  have hheld := ((List.forall₂_and_left dict m.toList).mp
    (h.imp fun _ _ h => ⟨And.intro h.key.holds h.value.untouched.holds, h⟩)).1
  have hproceeds : g.Proceeds W (g.adding { body := .dict dict }) := (Adds.push g _).proceeds
  have hentries := List.forall₂_iff_zip.mp (h.imp fun _ _ h => h.proceeds hproceeds)
  exact .map (isUntouched_adding hg _) (body_adding g _) hentries.1 hheld
    (fun pair hpair => ⟨(hentries.2 hpair).key, (hentries.2 hpair).tells⟩)
    fun pair hpair => (hentries.2 hpair).value

omit [KeyHasher] in
/-- The object behind a handle is looked up; if it is gone, the text of its identity comes up instead. -/
private theorem handle_proceeds (id : Identity) (t : Transfer) :
    Ends (handle id) t fun _ t' => t.Proceeds (fun _ => False) t' := by
  have hresolve : TransferM.resolve id t = .ok (t.guest.lookup t.namespaceDict (.ofString id.namespaceKey)) t := rfl
  refine .bind_of_ok hresolve ?_
  cases t.guest.lookup t.namespaceDict (.ofString id.namespaceKey) with
  | some obj => exact .of_ok rfl (.refl t)
  | none =>
    refine .bind_of_ok (TransferM.record_run _ _ _ t) ?_
    generalize (⟨_, _, _⟩ : Record) = r
    obtain ⟨obj, g', hrun, hadds, _⟩ :=
      GuestM.string_run (toString id) (t.guest.noted r).topContext (t.guest.noted r)
    have hguest : TransferM.guest (GuestM.string (toString id)) { t with guest := t.guest.noted r } =
        .ok obj { t with guest := g' } := by
      rw [TransferM.guest_run, GuestM.atTop_eq, hrun]
    exact .of_ok hguest (.trans (.noted t r) (.of_guest hadds.proceeds))

/-- Conversions of a depth deliver if those of the depth below do. -/
private theorem apply_delivers (hself : Delivers W self) (hv : v.HasFreeKeys) (hg : t.guest.IsTidy W)
    {c : InboundConverter} (hc : resolve standard v = some c) :
    Ends (apply self c.conversion v) t (Delivered W t v) := by
  cases v with
  | list vs =>
    cases hc
    refine (items_delivers hself (fun _ => hv.item) hg).bind (fun ids t₁ h₁ => ?_) fun f t₁ h₁ => .of_error h₁.1
    obtain ⟨hproceeds, hraises, hstands⟩ := h₁
    have hrefused : ¬ (Value.list vs).HasCollectionKey := fun h => by
      cases h with
      | item hmem h => exact hraises ⟨_, hmem, h⟩ ids rfl
    refine .of_ok rfl ((delivered_adding (hg.proceeds hproceeds.guest) hrefused nofun (fun _ => .inl ⟨_, rfl⟩)
      fun hplain => ?_).after hproceeds)
    exact stands_list (hstands (fun _ => hplain.item) ids rfl) (hg.proceeds hproceeds.guest)
  | map m =>
    cases hc
    have hentries : Ends (entries self [] m.toList) t (EntriesDelivered W (Value.map m).IsPlain t [] m.toList) :=
      entries_delivers hself (fun entry hentry => ⟨hv m .whole entry hentry, hv.value hentry⟩)
        (fun hplain entry hentry => ⟨hplain.key hentry, hplain.value hentry⟩) (fun hplain => hplain.keys_unlike) hg
        (fun _ h => nomatch h) fun _ => .nil
    refine hentries.bind (fun dict t₁ h₁ => ?_) fun f t₁ h₁ => .of_error h₁.proceeds
    have hrefused : ¬ (Value.map m).HasCollectionKey := fun h => by
      cases h with
      | key hmem h => exact h₁.raises ⟨_, hmem, .inl h⟩ dict rfl
      | value hmem h => exact h₁.raises ⟨_, hmem, .inr h⟩ dict rfl
    refine .of_ok rfl ((delivered_adding (hg.proceeds h₁.proceeds.guest) hrefused nofun (fun _ => .inr ⟨_, rfl⟩)
      fun hplain => ?_).after h₁.proceeds)
    exact stands_map (h₁.entries hplain dict rfl) (hg.proceeds h₁.proceeds.guest)
  | handle id =>
    cases hc
    have hself : (Value.handle id == Value.handle id) = true := (Value.beq_iff _ _).mpr (.atom rfl)
    refine (handle_proceeds id t).mono fun r t' h => ⟨h, nofun, nofun, fun hplain => ?_, fun hnan => ?_⟩
    · cases hplain.handles
    · rw [hself] at hnan
      cases hnan
  | _ => cases hc

theorem marshalTo_delivers (W : Identity → Prop) (depth : Nat) : Delivers W (marshalTo standard depth) := by
  induction depth with
  | zero => exact fun v t hv hg => .of_error rfl (.of_error (.refl t))
  | succ depth ih =>
    intro v t hv hg
    unfold marshalTo
    cases hc : resolve standard v with
    | some c =>
      have hnoted (r : Record) := Transfer.Proceeds.noted (W := fun _ => False) t r
      refine .bind_of_ok (TransferM.record_run _ _ _ t) ?_
      exact (apply_delivers ih hv (hg.proceeds (hnoted _).guest) hc).mono fun _ _ h => h.after (hnoted _)
    | none =>
      cases hrun : structural v with
      | some run =>
        obtain ⟨id, t', hanswer, hend⟩ := structural_delivers hrun hg
        exact .of_ok hanswer hend
      | none =>
        obtain ⟨hleaf, hbody⟩ : v.isLeaf = true ∧ Body.wrapper v = v.leafBody := by
          cases v with
          | list | map => cases hc
          | host | handle => exact ⟨rfl, rfl⟩
          | _ => cases hrun
        refine .of_ok rfl (delivered_adding hg (fun h => ?_) (fun _ => hbody) (fun h => ?_)
          fun _ => stands_wrapper hg v)
        · cases h <;> cases hleaf
        · rw [hleaf] at h
          cases h

omit [KeyHasher] in
/-- A value whose conversion raises, without a change to what was there, is wrapped as it is. -/
theorem represents_of_error {converters : List InboundConverter} {f : Fault} {t' : Transfer}
    (hrun : marshal converters v t = .error f t') (hproceeds : t.Proceeds (fun _ => False) t')
    (hg : t.guest.IsTidy W) : ∃ id t'', marshalOrPassthrough converters v t = .ok id t'' ∧
      t.Proceeds (fun _ => False) t'' ∧ t''.guest.Represents W id v := by
  have hnoted (r : Record) := hproceeds.trans (.noted t' r)
  unfold marshalOrPassthrough orPassthrough
  rw [tryCatch_run, hrun]
  refine ⟨_, _, rfl, (hnoted _).trans (.of_guest (Adds.push _ _).proceeds), ?_, fun _ => ?_⟩
  · exact stands_wrapper (hg.proceeds (hnoted _).guest) v
  · exact body_adding _ _

/-- A value whose keys carry no handles is delivered: it is wrapped as it is if a key is a list or a map. -/
theorem marshalOrPassthrough_delivers (hv : v.HasFreeKeys) (hg : t.guest.IsTidy W) :
    ∃ id t', marshalOrPassthrough standard v t = .ok id t' ∧ t.Proceeds (fun _ => False) t' ∧
      (v.IsPlain ∨ v.HasCollectionKey → t'.guest.Represents W id v) := by
  have h := marshalTo_delivers W (depth v) v t hv hg
  cases hrun : marshal standard v t with
  | ok id t' =>
    have hend := h.at_ok hrun
    refine ⟨id, t', by rw [marshalOrPassthrough, orPassthrough, tryCatch_run, hrun], hend.proceeds, fun hcase => ?_⟩
    have hopen : ¬ v.HasCollectionKey := fun hrefused => hend.raises hrefused id rfl
    exact ⟨hend.stands (hcase.resolve_right hopen) id rfl, fun hrefused => absurd hrefused hopen⟩
  | error f t' =>
    obtain ⟨id, t'', hrun', hproceeds, hrepresents⟩ := represents_of_error hrun (h.at_error hrun).proceeds hg
    exact ⟨id, t'', hrun', hproceeds, fun _ => hrepresents⟩

end Inbound
end ScriptHost
