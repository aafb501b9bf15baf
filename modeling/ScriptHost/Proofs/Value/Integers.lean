import ScriptHost.Proofs.Value.FirstRefusal
import ScriptHost.Proofs.Value.RoundTrip

/-! Integers taken from values, at the top or anywhere inside: what the types of integers make of a number goes by its
size, but for numbers that stand in the shape for bigger ones. -/
namespace ScriptHost

/-- The integer that a value of one of the two integer shapes stands for. -/
inductive Value.Denotes : Value → Int → Prop where
  | int (n : Int64) : Denotes (.int n) n.toInt
  | bigInt (n : Int) : Denotes (.bigInt n) n

theorem Value.denotes_iff (v : Value) (n : Int) : v.Denotes n ↔ v.asBigInt = some n := by
  constructor
  · intro h
    cases h <;> rfl
  · intro h
    cases v with
    | int =>
      cases h
      exact .int _
    | bigInt =>
      cases h
      exact .bigInt _
    | _ => cases h

theorem Value.Denotes.unique {v : Value} {m n : Int} (hm : v.Denotes m) (hn : v.Denotes n) : m = n :=
  Option.some.inj (((v.denotes_iff m).mp hm).symm.trans ((v.denotes_iff n).mp hn))

/-- The accessor for words narrows both integer shapes. -/
theorem Value.asInt_eq_some_iff (v : Value) (n : Int64) : v.asInt = some n ↔ v.Denotes n.toInt := by
  rw [denotes_iff]
  cases v with
  | int m => rw [asInt, asBigInt, Option.some.injEq, Option.some.injEq, Int64.toInt_inj]
  | bigInt m =>
    rw [asInt, asBigInt, Option.some.injEq]
    constructor
    · intro h
      split at h
      · next hfits =>
        obtain ⟨hlow, hhigh⟩ := hfits
        cases h
        exact (Int64.toInt_ofInt_of_le (by omega) (by omega)).symm
      · cases h
    · rintro rfl
      rw [if_pos ⟨n.le_toInt, n.toInt_lt⟩, Int64.ofInt_toInt]
  | _ => exact iff_of_false nofun nofun

namespace Target

/-! ### Data at a place -/

/-- The data of a part of typed data, at the end of the way to it. -/
inductive DataAt : (t : Target) → t.Denote → List Step → (s : Target) → s.Denote → Prop where
  | here (t : Target) (x : t.Denote) : DataAt t x [] t x
  | some {item : Target} {x : item.Denote} {way : List Step} {s : Target} {y : s.Denote} (h : DataAt item x way s y) :
    DataAt (.option item) (Option.some x) way s y
  | item {item : Target} {xs : List item.Denote} {index : Nat} {x : item.Denote} {way : List Step} {s : Target}
    {y : s.Denote} (hx : xs[index]? = Option.some x) (h : DataAt item x way s y) :
    DataAt (.list item) xs (.item index :: way) s y
  | entry {item : Target} {xs : StringMap item.Denote} {key : String} {x : item.Denote} {way : List Step} {s : Target}
    {y : s.Denote} (hx : xs[key]? = Option.some x) (h : DataAt item x way s y) :
    DataAt (.map item) xs (.entry (.string key) :: way) s y

/-- Taking a value as a type takes every part of it as the type that reaches the part. -/
theorem Reaches.dataAt [KeyHasher] {t : Target} {v : Value} {site : Site} (h : t.Reaches v site) (hv : v.Built)
    {s : Target} (hs : site.demand = .target s) {x : t.Denote} (hx : t.extract v = .ok x) :
    ∃ y, s.extract site.value = .ok y ∧ t.DataAt x site.way s y := by
  induction h with
  | here t v =>
    obtain rfl : t = s := Demand.target.inj hs
    exact ⟨x, hx, .here t x⟩
  | @some item v site hnull hsite ih =>
    obtain ⟨inner, hitem, rfl⟩ := extract_option_ok hnull hx
    obtain ⟨y, hy, hdata⟩ := ih hv hs hitem
    exact ⟨y, hy, .some hdata⟩
  | @item item items index v site hindex hsite ih =>
    have hitems := extractItems_ok_iff.mp hx
    obtain ⟨hbound, rfl⟩ := List.getElem?_eq_some_iff.mp hindex
    have hbound' : index < x.length := hitems.length_eq ▸ hbound
    have hinner : item.extract items[index] = .ok x[index] := hitems.get hbound' hbound
    obtain ⟨y, hy, hdata⟩ := ih (hv.items _ (List.getElem_mem hbound)) hs hinner
    exact ⟨y, hy, .item (List.getElem?_eq_getElem hbound') hdata⟩
  | key => cases hs
  | @entry item entries key v site hentry hsite ih =>
    -- The keys of a built map are different, so no later entry takes the place of this one.
    obtain ⟨found, hfound, hperm⟩ := extractEntries_perm hv.orderly.distinct hx
    obtain ⟨⟨name, inner⟩, hmem, hname, hinner⟩ := exists_left hfound hentry
    obtain rfl : key = .string name := hname
    obtain ⟨y, hy, hdata⟩ := ih (hv.orderly.parts _ hentry).2 hs hinner
    exact ⟨y, hy, .entry (Std.ExtTreeMap.mem_toList_iff_getElem?_eq_some.mp (hperm.mem_iff.mpr hmem)) hdata⟩

end Target

/-! ### Types of integers -/

/-- A type of integers that a value can be taken as. -/
inductive IntegerType where
  | word | halfWord | unbounded
  deriving DecidableEq

namespace IntegerType

@[reducible] def target : IntegerType → Target
  | .word => .int64
  | .halfWord => .int32
  | .unbounded => .integer

/-- The integers of the type. -/
def Holds : IntegerType → Int → Prop
  | .word, n => FitsWord n
  | .halfWord, n => FitsHalfWord n
  | .unbounded, _ => True

/-- The integer that data of the type is. -/
def number : (s : IntegerType) → s.target.Denote → Int
  | .word, x => Int64.toInt x
  | .halfWord, x => Int32.toInt x
  | .unbounded, x => x

/-- What is reported of a number that is too big for the type, if there are such numbers. -/
def overflow? : IntegerType → Int → Option ConversionError
  | .word, n => some (.integerOverflow (toString n) .bits64)
  | .halfWord, n => some (.integerOverflow (toString n) .bits32)
  | .unbounded, _ => none

/-- The number that the accessors for integers of the type give out. -/
def access : IntegerType → Value → Option Int
  | .word, v | .halfWord, v => v.asInt.map Int64.toInt
  | .unbounded, v => v.asBigInt

/-- A number that the type holds stands in the shape for bigger ones, where a type with bounds does not look at its
size. -/
def Overlooks (s : IntegerType) (v : Value) : Prop := s ≠ .unbounded ∧ ∃ n, v = .bigInt n ∧ s.Holds n

theorem holds_number (s : IntegerType) (x : s.target.Denote) : s.Holds (s.number x) := by
  cases s with
  | word => exact ⟨Int64.le_toInt x, Int64.toInt_lt x⟩
  | halfWord => exact ⟨Int32.le_toInt x, Int32.toInt_lt x⟩
  | unbounded => trivial

/-- A type with bounds holds nothing beyond a word. -/
theorem fitsWord_of_holds {s : IntegerType} {n : Int} (h : s.Holds n) (hs : s ≠ .unbounded) : FitsWord n := by
  cases s with
  | word => exact h
  | halfWord =>
    obtain ⟨hlow, hhigh⟩ := h
    exact ⟨by omega, by omega⟩
  | unbounded => exact absurd rfl hs

theorem exists_number {s : IntegerType} {n : Int} (h : s.Holds n) : ∃ x, s.number x = n := by
  cases s with
  | word =>
    obtain ⟨hlow, hhigh⟩ := h
    exact ⟨Int64.ofInt n, Int64.toInt_ofInt_of_le (by omega) (by omega)⟩
  | halfWord =>
    obtain ⟨hlow, hhigh⟩ := h
    exact ⟨Int32.ofInt n, Int32.toInt_ofInt_of_le (by omega) (by omega)⟩
  | unbounded => exact ⟨n, rfl⟩

/-! ### Numbers by their shape -/

/-- A number in the shape of words is taken by its size. -/
theorem extract_int (s : IntegerType) (m : Int64) (x : s.target.Denote) :
    s.target.extract (.int m) = .ok x ↔ s.number x = m.toInt := by
  cases s with
  | word =>
    change Except.ok m = Except.ok x ↔ Int64.toInt x = m.toInt
    rw [Int64.toInt_inj, Except.ok.injEq, eq_comm]
  | halfWord =>
    change Target.extractInt32 (.int m) = .ok x ↔ Int32.toInt x = m.toInt
    rw [Target.extractInt32, Target.extractInt64]
    dsimp only
    split
    · next hfits =>
      obtain ⟨hlow, hhigh⟩ := hfits
      rw [Except.ok.injEq, ← Int32.toInt_inj, Int32.toInt_ofInt_of_le (by omega) (by omega), eq_comm]
    · next hfits =>
      refine iff_of_false (by rintro ⟨⟩) fun hx => hfits ?_
      rw [← hx]
      exact holds_number .halfWord x
  | unbounded =>
    change Except.ok m.toInt = Except.ok x ↔ x = m.toInt
    rw [Except.ok.injEq, eq_comm]

/-- A type with bounds refuses every number in the shape for bigger ones. -/
theorem extract_bigInt {s : IntegerType} (hs : s ≠ .unbounded) (m : Int) :
    ∃ e, s.overflow? m = some e ∧ s.target.extract (.bigInt m) = .error e := by
  cases s with
  | word | halfWord => exact ⟨_, rfl, rfl⟩
  | unbounded => exact absurd rfl hs

/-- A value is taken as an integer type exactly if it denotes an integer that the type holds and does not overlook. -/
theorem extract_ok_iff (s : IntegerType) (v : Value) (x : s.target.Denote) :
    s.target.extract v = .ok x ↔ v.Denotes (s.number x) ∧ ¬ s.Overlooks v := by
  cases v with
  | int m =>
    have hnone : ¬ s.Overlooks (.int m) := nofun
    rw [extract_int, Value.denotes_iff, Value.asBigInt, Option.some.injEq, eq_comm]
    exact (and_iff_left hnone).symm
  | bigInt m =>
    rw [Value.denotes_iff, Value.asBigInt, Option.some.injEq]
    by_cases hs : s = .unbounded
    · subst hs
      have hnone : ¬ IntegerType.unbounded.Overlooks (.bigInt m) := fun h => h.1 rfl
      change Except.ok m = Except.ok x ↔ m = x ∧ _
      rw [Except.ok.injEq, and_iff_left hnone]
    · -- Nothing is taken, and a number that is data of the type would be overlooked here.
      obtain ⟨e, -, he⟩ := extract_bigInt hs m
      rw [he]
      refine iff_of_false nofun ?_
      rintro ⟨rfl, hlooks⟩
      exact hlooks ⟨hs, _, rfl, holds_number s x⟩
  | _ =>
    refine iff_of_false ?_ nofun
    cases s <;> exact nofun

theorem overflow?_of_error {s : IntegerType} {v : Value} {n : Int} (hn : v.Denotes n) {e : ConversionError}
    (h : s.target.extract v = .error e) : s.overflow? n = some e := by
  cases hn with
  | int m =>
    cases s with
    | word | unbounded => cases h
    | halfWord =>
      change Target.extractInt32 (.int m) = .error e at h
      rw [Target.extractInt32, Target.extractInt64] at h
      dsimp only at h
      split at h <;> cases h
      rfl
  | bigInt =>
    cases s with
    | word | halfWord =>
      cases h
      rfl
    | unbounded => cases h

/-- What a type takes of the integers that it holds: those that it does not overlook. -/
def Takes (s : IntegerType) (v : Value) (n : Int) : Prop := s.Holds n ∧ ¬ s.Overlooks v

theorem extract_eq_ok_iff (s : IntegerType) {v : Value} {n : Int} (hn : v.Denotes n) (x : s.target.Denote) :
    s.target.extract v = .ok x ↔ s.Takes v n ∧ s.number x = n := by
  rw [extract_ok_iff]
  constructor
  · rintro ⟨hx, hlooks⟩
    have hsame : s.number x = n := hx.unique hn
    exact ⟨⟨hsame ▸ s.holds_number x, hlooks⟩, hsame⟩
  · rintro ⟨⟨-, hlooks⟩, rfl⟩
    exact ⟨hn, hlooks⟩

/-- A number that is not taken is reported as an overflow of the type. -/
theorem extract_eq_error_iff (s : IntegerType) {v : Value} {n : Int} (hn : v.Denotes n) (e : ConversionError) :
    s.target.extract v = .error e ↔ ¬ s.Takes v n ∧ s.overflow? n = some e := by
  constructor
  · intro h
    refine ⟨fun htakes => ?_, overflow?_of_error hn h⟩
    obtain ⟨x, hx⟩ := exists_number htakes.1
    cases h.symm.trans ((s.extract_eq_ok_iff hn x).mpr ⟨htakes, hx⟩)
  · rintro ⟨hnot, he⟩
    cases hrun : s.target.extract v with
    | ok x => exact absurd ((s.extract_eq_ok_iff hn x).mp hrun).1 hnot
    | error e' => rw [Option.some.inj ((overflow?_of_error hn hrun).symm.trans he)]

/-- Taking a value as an integer type goes by the integer that the value denotes: it is taken if the type holds it, and
is reported as an overflow if not. -/
def GoesByNumber (s : IntegerType) (v : Value) (n : Int) : Prop :=
  (∀ x, s.target.extract v = .ok x ↔ s.Holds n ∧ s.number x = n) ∧
    ∀ e, s.target.extract v = .error e ↔ ¬ s.Holds n ∧ s.overflow? n = some e

theorem goesByNumber_iff (s : IntegerType) {v : Value} {n : Int} (hn : v.Denotes n) :
    s.GoesByNumber v n ↔ ¬ s.Overlooks v := by
  constructor
  · rintro ⟨hok, -⟩ ⟨hs, m, rfl, hholds⟩
    obtain rfl : n = m := hn.unique (.bigInt m)
    obtain ⟨x, hx⟩ := exists_number hholds
    obtain ⟨e, -, he⟩ := extract_bigInt hs n
    cases he.symm.trans ((hok x).mpr ⟨hholds, hx⟩)
  · intro hlooks
    have htakes : s.Takes v n ↔ s.Holds n := and_iff_left hlooks
    refine ⟨fun x => ?_, fun e => ?_⟩
    · rw [s.extract_eq_ok_iff hn, htakes]
    · rw [s.extract_eq_error_iff hn, htakes]

/-! ### Accessors -/

private theorem narrowed_eq_some_iff (v : Value) {n : Int} (hn : FitsWord n) :
    v.asInt.map Int64.toInt = some n ↔ v.Denotes n := by
  obtain ⟨x, rfl⟩ : ∃ x : Int64, x.toInt = n := exists_number (s := .word) hn
  rw [← v.asInt_eq_some_iff, Option.map_eq_some_iff]
  simp only [Int64.toInt_inj, exists_eq_right]

theorem access_eq_some_iff (s : IntegerType) (v : Value) (x : s.target.Denote) :
    s.access v = some (s.number x) ↔ v.Denotes (s.number x) := by
  cases s with
  | word | halfWord => exact narrowed_eq_some_iff v (fitsWord_of_holds (holds_number _ x) nofun)
  | unbounded => exact (v.denotes_iff _).symm

/-- The accessors give out what is taken, unless it is overlooked. -/
theorem access_agrees_iff (s : IntegerType) (v : Value) :
    (∀ x, s.target.extract v = .ok x ↔ s.access v = some (s.number x)) ↔ ¬ s.Overlooks v := by
  constructor
  · rintro h ⟨hs, m, rfl, hholds⟩
    obtain ⟨x, hx⟩ := exists_number hholds
    obtain ⟨e, -, he⟩ := extract_bigInt hs m
    have hdenotes : (Value.bigInt m).Denotes (s.number x) := hx ▸ .bigInt m
    cases he.symm.trans ((h x).mpr ((s.access_eq_some_iff _ x).mpr hdenotes))
  · intro hlooks x
    rw [extract_ok_iff, access_eq_some_iff, and_iff_left hlooks]

/-! ### Anywhere in a value -/

/-- Integers that come in the shape of their size are never overlooked. -/
theorem not_overlooks_integer (s : IntegerType) (n : Int) : ¬ s.Overlooks (.integer n) := by
  rintro ⟨hs, m, hshape, hholds⟩
  have hfits := fitsWord_of_holds hholds hs
  rw [Value.integer] at hshape
  split at hshape
  · cases hshape
  · next hbig =>
    cases hshape
    exact hbig hfits

theorem source?_of_overflow? {s : IntegerType} {n : Int} {e : ConversionError} (h : s.overflow? n = some e) :
    e.source? = none := by
  cases s <;> cases h <;> rfl

/-- An option takes a value that is there as its type does. -/
theorem refusal?_option {v : Value} (hv : v.isNull = false) (t : Target) (options : Nat) :
    (Target.option^[options] t).refusal? v = t.refusal? v := by
  induction options with
  | zero => rfl
  | succ options ih =>
    rw [Function.iterate_succ_apply', Target.refusal?, hv, ih]
    rfl

/-- What is reported of a number, with or without options around its type, is reported of the whole, unless something is
of a part before it. -/
theorem extract_of_first {s : IntegerType} {t : Target} {v part : Value} {way : List Target.Step} {n : Int}
    (hn : part.Denotes n) (hnot : ¬ s.Takes part n) {options : Nat} {before after : List Target.Site}
    (hsites : t.sites v = before ++ ⟨way, .target (Target.option^[options] s.target), part⟩ :: after)
    (hbefore : ∀ earlier ∈ before, earlier.refusal? = none) :
    ∃ e, s.overflow? n = some e ∧ t.extract v = .error (way.foldr Target.Step.around e) := by
  cases hrun : s.target.extract part with
  | ok x => exact absurd ((s.extract_eq_ok_iff hn x).mp hrun).1 hnot
  | error e =>
    have he := overflow?_of_error hn hrun
    have hnull : part.isNull = false := by cases hn <;> rfl
    have hrefusal := (Target.refusal?_eq_some_iff s.target part e).mpr ⟨source?_of_overflow? he, hrun⟩
    rw [← refusal?_option hnull s.target options] at hrefusal
    refine ⟨e, he, (Target.extract_eq_error_iff t v _).mpr (List.findSome?_eq_some_iff.mpr ?_)⟩
    refine ⟨before, _, after, hsites, ?_, fun earlier hmem => Option.map_eq_none_iff.mpr (hbefore earlier hmem)⟩
    exact Option.map_eq_some_iff.mpr ⟨e, hrefusal, rfl⟩

/-- The types of integers go by the size of a number, wherever it stands in a value, unless they overlook it in the shape
for bigger numbers. What the type of a part takes of it is found in the data of the whole, at the end of the way to the
part; what it does not take is reported of the whole as an overflow, unless something is of a part before it. The
accessors do not overlook anything. -/
theorem extract_goes_by_number_iff [KeyHasher] (s : IntegerType) {t : Target} {v : Value} (hv : v.Built)
    {way : List Target.Step} {part : Value} (hpart : t.Reaches v ⟨way, .target s.target, part⟩) {n : Int}
    (hn : part.Denotes n) :
    (s.GoesByNumber part n ↔ ¬ s.Overlooks part) ∧
      (∀ x, s.target.extract part = .ok x ↔ s.Takes part n ∧ s.number x = n) ∧
      (∀ e, s.target.extract part = .error e ↔ ¬ s.Takes part n ∧ s.overflow? n = some e) ∧
      (∀ x, t.extract v = .ok x → s.Takes part n ∧ ∃ y, t.DataAt x way s.target y ∧ s.number y = n) ∧
      (¬ s.Takes part n → ∀ options before after,
        t.sites v = before ++ ⟨way, .target (Target.option^[options] s.target), part⟩ :: after →
        (∀ earlier ∈ before, earlier.refusal? = none) →
        ∃ e, s.overflow? n = some e ∧ t.extract v = .error (way.foldr Target.Step.around e)) ∧
      (∀ m, ¬ s.Overlooks (.integer m)) ∧
      ∀ u, (∀ x, s.target.extract u = .ok x ↔ s.access u = some (s.number x)) ↔ ¬ s.Overlooks u := by
  refine ⟨s.goesByNumber_iff hn, s.extract_eq_ok_iff hn, s.extract_eq_error_iff hn, fun x hx => ?_,
    fun hnot _ _ _ hsites hbefore => extract_of_first hn hnot hsites hbefore, s.not_overlooks_integer,
    s.access_agrees_iff⟩
  obtain ⟨y, hy, hdata⟩ := hpart.dataAt hv rfl hx
  obtain ⟨htakes, hnumber⟩ := (s.extract_eq_ok_iff hn y).mp hy
  exact ⟨htakes, y, hdata, hnumber⟩

/-- Under the key of a map stand a missing number, 7 and 5, the last one in the shape for numbers beyond 64 bits: it is
reported as too big for a word, while the accessor gives it out. -/
theorem extract_overlooks_five :
    let items : List Value := [.null, .int 7, .bigInt 5]
    let v := Value.map (ValueMap.ofList [(.string "k", .list items)])
    let t : Target := .map (.list (.option .int64))
    let part : Target.Site := ⟨[.entry (.string "k"), .item 2], .target .int64, .bigInt 5⟩
    v.Built ∧ t.Reaches v part ∧ IntegerType.word.Overlooks (.bigInt 5) ∧
      ¬ IntegerType.word.GoesByNumber (.bigInt 5) 5 ∧ (Value.bigInt 5).asInt = some 5 ∧
      t.extract v = .error (.mapEntry "k" (.listElement 2 (.integerOverflow "5" .bits64))) := by
  intro items v t part
  have hitems : ∀ item ∈ items, item.Built := fun item hmem =>
    .leaf (List.all_eq_true.mp (rfl : items.all Value.isLeaf = true) item hmem)
  have hv : v.Built := .map (.ofList (List.forall_mem_singleton.mpr ⟨.leaf rfl, .list hitems⟩))
  have hsites : t.sites v = [⟨[], .target t, v⟩, ⟨[.key (.string "k")], .key, .string "k"⟩,
      ⟨[.entry (.string "k")], .target (.list (.option .int64)), .list items⟩,
      ⟨[.entry (.string "k"), .item 0], .target (.option .int64), .null⟩,
      ⟨[.entry (.string "k"), .item 1], .target (.option .int64), .int 7⟩,
      ⟨[.entry (.string "k"), .item 1], .target .int64, .int 7⟩] ++
      ⟨[.entry (.string "k"), .item 2], .target (.option .int64), .bigInt 5⟩ :: [part] := by
    dsimp only [t, v]
    rw [Target.sites, ValueMap.toList_ofList (List.pairwise_singleton _ _)]
    rfl
  have hpart : t.Reaches v part := by
    rw [← Target.mem_sites, hsites]
    exact List.mem_append_right _ (List.mem_cons_of_mem _ (List.mem_singleton.mpr rfl))
  have hlooks : IntegerType.word.Overlooks (.bigInt 5) := ⟨by decide, 5, rfl, by decide, by decide⟩
  obtain ⟨hgoes, -, -, -, hfirst, -⟩ := extract_goes_by_number_iff .word hv hpart (.bigInt 5)
  obtain ⟨e, he, hwhole⟩ := hfirst (fun htakes => htakes.2 hlooks) 1 _ _ hsites fun earlier hmem =>
    Option.isNone_iff_eq_none.mp (List.all_eq_true.mp (rfl : List.all _ (·.refusal?.isNone) = true) earlier hmem)
  cases he
  exact ⟨hv, hpart, hlooks, fun h => hgoes.mp h hlooks, rfl, hwhole⟩

end IntegerType
end ScriptHost
