import ScriptHost.Proofs.Value.Association
import ScriptHost.Value.Typed

/-! Where taking a value as a type fails: at the first part of it, in depth-first order, that is not what the type asks
for there, and the error leads to that part. -/
namespace ScriptHost.Target

/-! ### The parts that a type reaches -/

/-- A step into a value: to an item of a list, to the key of an entry of a map or to what stands under that key. -/
inductive Step where
  | item (index : Nat)
  | key (key : Value)
  | entry (key : Value)

/-- What errors call an entry. -/
def entryTitle : Value → String
  | .string s => s
  | key => key.display

/-- The error of a whole for the error of a part of it. -/
def Step.around : Step → ConversionError → ConversionError
  | .item index, e => .listElement index e
  | .key k, e | .entry k, e => .mapEntry (entryTitle k) e

/-- What is asked of a part: to be a string, as keys have to, or to be of a type. -/
inductive Demand where
  | key
  | target (t : Target)

/-- A part of a value, the way to it and what is asked of it. -/
structure Site where
  way : List Step
  demand : Demand
  value : Value

def Site.under (step : Step) (site : Site) : Site := { site with way := step :: site.way }

/-- The parts of a value that a type reaches: the value itself, and within a list or a map those that the type of its
items reaches. Whoever follows the way of a part into the value gets there. -/
inductive Reaches : Target → Value → Site → Prop
  | here (t : Target) (v : Value) : t.Reaches v ⟨[], .target t, v⟩
  | some {item : Target} {v : Value} {site : Site} (hnull : v.isNull = false) (hsite : item.Reaches v site) :
      (option item).Reaches v site
  | item {item : Target} {items : List Value} {index : Nat} {v : Value} {site : Site} (hv : items[index]? = v)
      (hsite : item.Reaches v site) : (list item).Reaches (.list items) (site.under (.item index))
  | key {item : Target} {entries : ValueMap} {key v : Value} (hentry : (key, v) ∈ entries.toList) :
      (map item).Reaches (.map entries) ⟨[.key key], .key, key⟩
  | entry {item : Target} {entries : ValueMap} {key v : Value} {site : Site} (hentry : (key, v) ∈ entries.toList)
      (hsite : item.Reaches v site) : (map item).Reaches (.map entries) (site.under (.entry key))

/-- The parts that a type reaches in depth-first order, each key before what stands under it. -/
def sites : Target → Value → List Site
  | .list item, v => ⟨[], .target (.list item), v⟩ :: match v with
    | .list items => items.zipIdx.flatMap fun (v, index) => (item.sites v).map (·.under (.item index))
    | _ => []
  | .option item, v => ⟨[], .target (.option item), v⟩ :: if v.isNull then [] else item.sites v
  | .map item, v => ⟨[], .target (.map item), v⟩ :: match v with
    | .map entries => entries.toList.flatMap fun (key, v) =>
        ⟨[.key key], .key, key⟩ :: (item.sites v).map (·.under (.entry key))
    | _ => []
  | t, v => [⟨[], .target t, v⟩]

theorem mem_sites {t : Target} {v : Value} {site : Site} : site ∈ t.sites v ↔ t.Reaches v site := by
  constructor
  · intro h
    induction t generalizing v site with
    | list item ih =>
      unfold sites at h
      rcases List.mem_cons.mp h with rfl | h
      · exact .here _ _
      · split at h
        · obtain ⟨⟨v, index⟩, hv, h⟩ := List.mem_flatMap.mp h
          obtain ⟨site, hsite, rfl⟩ := List.mem_map.mp h
          exact .item (List.mem_zipIdx_iff_getElem?.mp hv) (ih hsite)
        · cases h
    | option item ih =>
      unfold sites at h
      rcases List.mem_cons.mp h with rfl | h
      · exact .here _ _
      · split at h
        · cases h
        · next hnull => exact .some (Bool.eq_false_iff.mpr hnull) (ih h)
    | map item ih =>
      unfold sites at h
      rcases List.mem_cons.mp h with rfl | h
      · exact .here _ _
      · split at h
        · obtain ⟨⟨key, v⟩, hentry, h⟩ := List.mem_flatMap.mp h
          rcases List.mem_cons.mp h with rfl | h
          · exact .key hentry
          · obtain ⟨site, hsite, rfl⟩ := List.mem_map.mp h
            exact .entry hentry (ih hsite)
        · cases h
    | _ =>
      obtain rfl := List.mem_singleton.mp h
      exact .here _ _
  · intro h
    induction h with
    | here t v => cases t <;> exact List.mem_cons_self
    | some hnull _ ih =>
      rw [sites, if_neg (Bool.eq_false_iff.mp hnull)]
      exact List.mem_cons_of_mem _ ih
    | @item _ items index v _ hv _ ih =>
      have hmem : (v, index) ∈ items.zipIdx := List.mem_zipIdx_iff_getElem?.mpr hv
      exact List.mem_cons_of_mem _ (List.mem_flatMap.mpr ⟨_, hmem, List.mem_map_of_mem ih⟩)
    | key hentry => exact List.mem_cons_of_mem _ (List.mem_flatMap.mpr ⟨_, hentry, List.mem_cons_self⟩)
    | entry hentry _ ih =>
      exact List.mem_cons_of_mem _
        (List.mem_flatMap.mpr ⟨_, hentry, List.mem_cons_of_mem _ (List.mem_map_of_mem ih)⟩)

/-! ### What is reported of a part -/

/-- What a scalar type that takes some kinds reports of a value. -/
def unlessOf (kinds : List Kind) (expected : Kind) (v : Value) : Option ConversionError :=
  if v.kind ∈ kinds then none
  else if v.isNull then ConversionError.nullValue
  else ConversionError.typeMismatch expected v.kind

/-- What a collection type reports of a value. -/
def unlessShaped (kind : Kind) (v : Value) : Option ConversionError :=
  if v.kind = kind then none else ConversionError.typeMismatch kind v.kind

/-- What a type reports of a value itself, whatever is the matter inside it. -/
def refusal? : Target → Value → Option ConversionError
  | .value, _ => none
  | .bool, v => unlessOf [.bool] .bool v
  | .int64, .bigInt n => ConversionError.integerOverflow (toString n) .bits64
  | .int64, v => unlessOf [.int] .int v
  | .int32, .bigInt n => ConversionError.integerOverflow (toString n) .bits32
  | .int32, .int n =>
    if FitsHalfWord n.toInt then none else ConversionError.integerOverflow (toString n.toInt) .bits32
  | .int32, v => unlessOf [.int] .int v
  | .integer, v => unlessOf [.int, .bigInt] .bigInt v
  | .float, v => unlessOf [.int, .bigInt, .float] .float v
  | .string, v => unlessOf [.string] .string v
  | .handle, v => unlessOf [.handle] .handle v
  | .host, v => unlessOf [.host] .host v
  | .list _, v => unlessShaped .list v
  | .option item, v => if v.isNull then none else item.refusal? v
  | .map _, v => unlessShaped .map v

/-- What is reported of a part. A key that is not a string is reported as maps do it, also if it is null. -/
def Site.refusal? (site : Site) : Option ConversionError :=
  match site.demand with
  | .key => unlessShaped .string site.value
  | .target t => t.refusal? site.value

/-- What is reported of the whole for the sake of a part. -/
def Site.error? (site : Site) : Option ConversionError :=
  site.refusal?.map fun cause => site.way.foldr Step.around cause

theorem error?_root (t : Target) (v : Value) : Site.error? ⟨[], .target t, v⟩ = t.refusal? v := Option.map_id'

theorem sites_eq_cons (t : Target) (v : Value) : ∃ inner, t.sites v = ⟨[], .target t, v⟩ :: inner := by
  cases t <;> exact ⟨_, rfl⟩

/-- The error of a failed extraction. -/
private def failure? {α : Type} : Except ConversionError α → Option ConversionError
  | .ok _ => none
  | .error e => e

@[simp] private theorem failure?_eq_some_iff {α : Type} {result : Except ConversionError α} {e : ConversionError} :
    failure? result = some e ↔ result = .error e := by
  cases result <;> simp [failure?]

private theorem failure?_eq_none_iff {α : Type} {result : Except ConversionError α} :
    failure? result = none ↔ ∃ x, result = .ok x := by
  cases result <;> simp [failure?]

theorem error?_under (step : Step) (site : Site) : (site.under step).error? = site.error?.map step.around := by
  rw [Site.error?, Site.error?, Option.map_map]
  rfl

/-- What is reported first of the parts below a step is reported first of them there, with the step around it. -/
theorem findSome?_under (step : Step) (sites : List Site) :
    (sites.map (·.under step)).findSome? Site.error? = (sites.findSome? Site.error?).map step.around := by
  induction sites with
  | nil => rfl
  | cons site sites ih =>
    rw [List.map_cons, List.findSome?_cons, List.findSome?_cons, error?_under, ih]
    cases site.error? <;> rfl

private theorem failure?_items {α : Type} {run : Value → Except ConversionError α} {sitesOf : Value → List Site}
    (h : ∀ v, failure? (run v) = (sitesOf v).findSome? Site.error?) (items : List Value) (index : Nat) :
    failure? (extractItems run index items) = ((items.zipIdx index).flatMap fun (v, index) =>
      (sitesOf v).map (·.under (.item index))).findSome? Site.error? := by
  induction items generalizing index with
  | nil => rfl
  | cons v items ih =>
    have hv := h v
    rw [List.zipIdx_cons, List.flatMap_cons, List.findSome?_append, findSome?_under, ← hv, ← ih, extractItems]
    cases run v with
    | error e => rfl
    | ok x =>
      dsimp only
      cases extractItems run (index + 1) items <;> rfl

private theorem failure?_entries {α : Type} {run : Value → Except ConversionError α} {sitesOf : Value → List Site}
    (h : ∀ v, failure? (run v) = (sitesOf v).findSome? Site.error?) (entries : List (Value × Value))
    (found : StringMap α) :
    failure? (extractEntries run found entries) = (entries.flatMap fun (key, v) =>
      ⟨[.key key], .key, key⟩ :: (sitesOf v).map (·.under (.entry key))).findSome? Site.error? := by
  induction entries generalizing found with
  | nil => rfl
  | cons entry entries ih =>
    obtain ⟨key, v⟩ := entry
    rw [List.flatMap_cons, List.cons_append, List.findSome?_cons]
    cases key with
    | string key =>
      have hv := h v
      have hkey : Site.error? ⟨[.key (.string key)], .key, .string key⟩ = none := rfl
      rw [hkey, List.findSome?_append, findSome?_under, ← hv, extractEntries]
      cases run v with
      | error e => rfl
      | ok x => exact ih (found.insert key x)
    | _ => rfl

private theorem failure?_leaf {t : Target} {v : Value} (hsites : t.sites v = [⟨[], .target t, v⟩])
    (h : failure? (t.extract v) = t.refusal? v) : failure? (t.extract v) = (t.sites v).findSome? Site.error? := by
  rw [hsites, h, List.findSome?_singleton, error?_root]

/-- An extraction fails with what is reported first of the parts that the type reaches. -/
private theorem failure?_extract (t : Target) (v : Value) :
    failure? (t.extract v) = (t.sites v).findSome? Site.error? := by
  induction t generalizing v with
  | list item ih =>
    cases v with
    | list items => exact failure?_items ih items 0
    | _ => rfl
  | option item ih =>
    by_cases hnull : v.isNull = true
    · cases v with
      | null => rfl
      | _ => cases hnull
    · have hextract := extract_option (Bool.eq_false_iff.mpr hnull) item
      have hsame : failure? (extract (.option item) v) = failure? (item.extract v) := by
        rw [hextract]
        cases item.extract v <;> rfl
      obtain ⟨inner, hinner⟩ := item.sites_eq_cons v
      rw [hsame, ih, sites, if_neg hnull, hinner]
      simp only [List.findSome?_cons, error?_root, refusal?, if_neg hnull]
      cases item.refusal? v <;> rfl
  | map item ih =>
    cases v with
    | map entries => exact failure?_entries ih entries.toList ∅
    | _ => rfl
  | int32 =>
    refine failure?_leaf rfl ?_
    cases v with
    | int n =>
      rw [extract, extractInt32, extractInt64, refusal?]
      dsimp only
      split <;> rfl
    | _ => rfl
  | _ => exact failure?_leaf rfl (by cases v <;> rfl)

/-- The error of an extraction is what is reported first of the parts that the type reaches. -/
theorem extract_eq_error_iff (t : Target) (v : Value) (e : ConversionError) :
    t.extract v = .error e ↔ (t.sites v).findSome? Site.error? = some e := by
  rw [← failure?_eq_some_iff, failure?_extract]

/-! ### The first part that does not conform -/

/-- The type that a part is asked to be of. -/
def Demand.type : Demand → Target
  | .key => .string
  | .target t => t

/-- A cause that has no other one inside, and is what the type that is asked for reports of a part. Of a key that is not
a string it is that the kinds do not match. -/
def Site.Reports (site : Site) (cause : ConversionError) : Prop :=
  cause.source? = none ∧ match site.demand with
    | .key => site.value.kind ≠ .string ∧ cause = .typeMismatch .string site.value.kind
    | .target t => t.extract site.value = .error cause

theorem source?_around (step : Step) (e : ConversionError) : (step.around e).source? = some e := by
  cases step <;> rfl

/-- An error of a whole for the sake of a part of it has the error of a part inside. -/
theorem source?_of_error? {site : Site} {e : ConversionError} (hway : site.way ≠ []) (h : site.error? = some e) :
    e.source? ≠ none := by
  obtain ⟨cause, -, rfl⟩ := Option.map_eq_some_iff.mp h
  obtain ⟨step, way, hway⟩ := List.exists_cons_of_ne_nil hway
  rw [hway, List.foldr_cons, source?_around]
  exact Option.some_ne_none _

/-- What is reported without a cause inside is reported of the value itself. -/
private theorem error?_of_innermost {site : Site} {inner : List Site} {cause : ConversionError}
    (h : (site :: inner).findSome? Site.error? = some cause) (hcause : cause.source? = none)
    (hinner : ∀ part ∈ inner, part.way ≠ []) : site.error? = some cause := by
  rw [List.findSome?_cons] at h
  cases herror : site.error? with
  | some e => rwa [herror] at h
  | none =>
    rw [herror] at h
    obtain ⟨part, hpart, he⟩ := List.exists_of_findSome?_eq_some h
    exact absurd hcause (source?_of_error? (hinner part hpart) he)

private theorem source?_of_unlessOf {kinds : List Kind} {expected : Kind} {v : Value} {cause : ConversionError}
    (h : unlessOf kinds expected v = some cause) : cause.source? = none := by
  unfold unlessOf at h
  split at h
  · cases h
  · split at h <;> cases h <;> rfl

private theorem source?_of_unlessShaped {kind : Kind} {v : Value} {cause : ConversionError}
    (h : unlessShaped kind v = some cause) : cause.source? = none := by
  unfold unlessShaped at h
  split at h <;> cases h
  rfl

/-- What is reported of a value itself has no cause inside. -/
theorem source?_of_refusal? {t : Target} {v : Value} {cause : ConversionError} (h : t.refusal? v = some cause) :
    cause.source? = none := by
  induction t with
  | value => cases h
  | list | map => exact source?_of_unlessShaped h
  | option item ih =>
    unfold refusal? at h
    split at h
    · cases h
    · exact ih h
  | int64 =>
    cases v with
    | bigInt n =>
      cases h
      rfl
    | _ => exact source?_of_unlessOf h
  | int32 =>
    cases v with
    | bigInt n =>
      cases h
      rfl
    | int n =>
      unfold refusal? at h
      split at h <;> cases h
      rfl
    | _ => exact source?_of_unlessOf h
  | _ => exact source?_of_unlessOf h

/-- What a type reports of a value itself is the error of taking the value, unless that has another one inside. -/
theorem refusal?_eq_some_iff (t : Target) (v : Value) (cause : ConversionError) :
    t.refusal? v = some cause ↔ cause.source? = none ∧ t.extract v = .error cause := by
  rw [extract_eq_error_iff]
  constructor
  · intro h
    obtain ⟨inner, hinner⟩ := t.sites_eq_cons v
    rw [hinner, List.findSome?_cons, error?_root, h]
    exact ⟨source?_of_refusal? h, rfl⟩
  · rintro ⟨hcause, h⟩
    induction t with
    | list item =>
      rw [← error?_root]
      refine error?_of_innermost h hcause fun part hpart => ?_
      split at hpart
      · obtain ⟨_, -, hpart⟩ := List.mem_flatMap.mp hpart
        obtain ⟨_, -, rfl⟩ := List.mem_map.mp hpart
        exact List.cons_ne_nil _ _
      · cases hpart
    | option item ih =>
      unfold sites at h
      unfold refusal?
      rw [List.findSome?_cons, error?_root, refusal?] at h
      split at h
      · next e he =>
        cases h
        exact he
      · split at h
        · cases h
        · next hnull =>
          rw [if_neg hnull]
          exact ih h
    | map item =>
      rw [← error?_root]
      refine error?_of_innermost h hcause fun part hpart => ?_
      split at hpart
      · obtain ⟨_, -, hpart⟩ := List.mem_flatMap.mp hpart
        rcases List.mem_cons.mp hpart with rfl | hpart
        · exact List.cons_ne_nil _ _
        · obtain ⟨_, -, rfl⟩ := List.mem_map.mp hpart
          exact List.cons_ne_nil _ _
      · cases hpart
    | _ =>
      rw [← error?_root]
      exact error?_of_innermost h hcause (List.forall_mem_nil _)

theorem Site.refusal?_eq_some_iff {site : Site} {cause : ConversionError} :
    site.refusal? = some cause ↔ site.Reports cause := by
  obtain ⟨way, demand, v⟩ := site
  cases demand with
  | target t => exact Target.refusal?_eq_some_iff t v cause
  | key =>
    unfold Site.refusal? Site.Reports unlessShaped
    dsimp only
    split
    · next hkind => simp [hkind]
    · next hkind =>
      constructor
      · intro h
        cases h
        exact ⟨rfl, hkind, rfl⟩
      · rintro ⟨-, -, rfl⟩
        rfl

/-- A value can be taken as a type if every part that the type reaches conforms. Otherwise the error leads to the first
part that does not, in depth-first order, and says of it what the type there reports of it. -/
theorem extract_refuses_first (t : Target) (v : Value) :
    ((∃ x, t.extract v = .ok x) ↔ ∀ site, t.Reaches v site → site.refusal? = none) ∧
    ∀ e, t.extract v = .error e ↔ ∃ before site after cause, t.sites v = before ++ site :: after ∧
      (∀ earlier ∈ before, earlier.refusal? = none) ∧ t.Reaches v site ∧ site.refusal? = some cause ∧
      site.Reports cause ∧ e = site.way.foldr Step.around cause := by
  have hnone {site : Site} : site.error? = none ↔ site.refusal? = none := Option.map_eq_none_iff
  constructor
  · rw [← failure?_eq_none_iff, failure?_extract, List.findSome?_eq_none_iff]
    simp only [mem_sites, hnone]
  · intro e
    rw [← failure?_eq_some_iff, failure?_extract, List.findSome?_eq_some_iff]
    constructor
    · rintro ⟨before, site, after, hsites, herror, hbefore⟩
      obtain ⟨cause, hcause, rfl⟩ := Option.map_eq_some_iff.mp herror
      have hsite : site ∈ t.sites v := hsites ▸ List.mem_append_right _ List.mem_cons_self
      exact ⟨before, site, after, cause, hsites, fun earlier hearlier => hnone.mp (hbefore earlier hearlier),
        mem_sites.mp hsite, hcause, Site.refusal?_eq_some_iff.mp hcause, rfl⟩
    · rintro ⟨before, site, after, cause, hsites, hbefore, -, hcause, -, rfl⟩
      refine ⟨before, site, after, hsites, ?_, fun earlier hearlier => hnone.mpr (hbefore earlier hearlier)⟩
      rw [Site.error?, hcause, Option.map_some]

/-- An entry whose key is null is not what the type of strings reports of null. -/
theorem extract_refuses_null_key : ¬ ∀ (t : Target) (v : Value) (e : ConversionError), t.extract v = .error e →
    ∃ site cause, t.Reaches v site ∧ cause.source? = none ∧
      site.demand.type.extract site.value = .error cause ∧ e = site.way.foldr Step.around cause := by
  intro hreports
  let _ : KeyHasher := ⟨fun _ => 0⟩
  let entries := ValueMap.ofList [(.null, .bool true)]
  have hentries : entries.toList = [(.null, .bool true)] := (ValueMap.ofList_eq _).2
  have hextract : extract (.map .bool) (.map entries) = .error (.mapEntry "null" (.typeMismatch .string .null)) := by
    rw [extract, hentries]
    rfl
  obtain ⟨site, cause, hsite, hcause, hreport, he⟩ := hreports _ _ _ hextract
  cases hsite with
  | here =>
    rw [List.foldr_nil] at he
    rw [← he] at hcause
    cases hcause
  | key hentry =>
    rw [hentries, List.mem_singleton] at hentry
    cases hentry
    cases hreport
    cases he
  | entry hentry hsite =>
    rw [hentries, List.mem_singleton] at hentry
    cases hentry
    cases hsite
    cases hreport

end ScriptHost.Target
