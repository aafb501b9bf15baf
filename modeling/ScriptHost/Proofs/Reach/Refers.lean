import ScriptHost.Guest.Lookup

/-! What data refers to: for every kind of data, whether all objects that it refers to are among some. -/
namespace ScriptHost

/-- Data that refers to objects. -/
class Refers (α : Type) where
  /-- Whether all objects that data refers to are among some. -/
  Within : (Identity → Prop) → α → Prop

export Refers (Within)

variable {P : Identity → Prop}

/-! ### Data without references -/

/-- Kinds of data without a place for a reference. -/
class Inert (α : Type) where

instance : Inert Unit := ⟨⟩
instance : Inert PUnit := ⟨⟩
instance : Inert Bool := ⟨⟩
instance : Inert Char := ⟨⟩
instance : Inert Nat := ⟨⟩
instance : Inert Int := ⟨⟩
instance : Inert UInt8 := ⟨⟩
instance : Inert UInt64 := ⟨⟩
instance : Inert Double := ⟨⟩
instance : Inert String := ⟨⟩
instance : Inert Text := ⟨⟩
instance : Inert Fault := ⟨⟩
instance : Inert Value := ⟨⟩

instance {α : Type} [Inert α] : Refers α := ⟨fun _ _ => True⟩

/-- Data of which none refers to an object. -/
class RefersNowhere (α : Type) [Refers α] : Prop where
  within : ∀ (P : Identity → Prop) (a : α), Within P a

@[simp, grind .] theorem within_nowhere {α : Type} [Refers α] [RefersNowhere α] (a : α) : Within P a :=
  RefersNowhere.within P a

instance {α : Type} [Inert α] : RefersNowhere α := ⟨fun _ _ => trivial⟩

/-! ### Collections -/

section
variable {α β : Type} [Refers α] [Refers β]

instance : Refers Identity := ⟨fun P id => P id⟩

@[simp, grind =] theorem within_identity (id : Identity) : Within P id ↔ P id := .rfl

instance : Refers (Option α) := ⟨fun P x => ∀ a, x = some a → Within P a⟩

@[simp, grind =] theorem within_none : Within P (none : Option α) ↔ True := by simp [Within]

@[simp, grind =] theorem within_some (a : α) : Within P (some a) ↔ Within P a := by simp [Within]

instance {ε : Type} : Refers (Except ε α) := ⟨fun P x => ∀ a, x = .ok a → Within P a⟩

@[simp, grind =] theorem within_ok {ε : Type} (a : α) : Within P (.ok a : Except ε α) ↔ Within P a := by simp [Within]

@[simp, grind =] theorem within_error {ε : Type} (e : ε) : Within P (.error e : Except ε α) ↔ True := by simp [Within]

instance : Refers (List α) := ⟨fun P x => ∀ a ∈ x, Within P a⟩

@[simp, grind =] theorem within_nil : Within P ([] : List α) ↔ True := by simp [Within]

@[simp, grind =] theorem within_cons (a : α) (l : List α) : Within P (a :: l) ↔ Within P a ∧ Within P l := by
  simp [Within]

@[simp, grind =] theorem within_append (l l' : List α) : Within P (l ++ l') ↔ Within P l ∧ Within P l' := by
  simp [Within, or_imp, forall_and]

instance : Refers (Array α) := ⟨fun P x => Within P x.toList⟩

@[simp, grind =] theorem within_toList (a : Array α) : Within P a.toList ↔ Within P a := .rfl

grind_pattern within_toList => Within P a, a.toList

@[simp, grind =] theorem within_arrayMk (l : List α) : Within P (Array.mk l) ↔ Within P l := .rfl

@[simp, grind =] theorem within_toArray (l : List α) : Within P l.toArray ↔ Within P l := .rfl

instance : Refers (α × β) := ⟨fun P x => Within P x.1 ∧ Within P x.2⟩

@[simp, grind =] theorem within_prod (x : α × β) : Within P x ↔ Within P x.1 ∧ Within P x.2 := .rfl

instance : Refers (MProd α β) := ⟨fun P x => Within P x.1 ∧ Within P x.2⟩

@[simp, grind =] theorem within_mprod (x : MProd α β) : Within P x ↔ Within P x.1 ∧ Within P x.2 := .rfl

instance : Refers (ForInStep α) := ⟨fun P step => match step with
  | .done a | .yield a => Within P a⟩

@[simp, grind =] theorem within_done (a : α) : Within P (ForInStep.done a) ↔ Within P a := .rfl

@[simp, grind =] theorem within_yield (a : α) : Within P (ForInStep.yield a) ↔ Within P a := .rfl

end

section
variable {α β : Type} [Refers α] [Refers β] [RefersNowhere α] [RefersNowhere β]

instance : RefersNowhere (Option α) := ⟨fun P _ a _ => within_nowhere (P := P) a⟩

instance {ε : Type} : RefersNowhere (Except ε α) := ⟨fun P _ a _ => within_nowhere (P := P) a⟩

instance : RefersNowhere (List α) := ⟨fun P _ a _ => within_nowhere (P := P) a⟩

instance : RefersNowhere (Array α) := ⟨fun P x => within_nowhere (P := P) x.toList⟩

instance : RefersNowhere (α × β) := ⟨fun P x => ⟨within_nowhere (P := P) x.1, within_nowhere (P := P) x.2⟩⟩

end

/-! ### Parts of collections -/

section
variable {α β : Type} [Refers α] [Refers β] {l l' : List α} {x : Option α} {a b : α}

theorem within_of_subset (h : l' ⊆ l) (hl : Within P l) : Within P l' := fun a ha => hl a (h ha)

@[grind ←] theorem within_filter (p : α → Bool) (hl : Within P l) : Within P (l.filter p) :=
  fun a ha => hl a (List.mem_filter.mp ha).1

@[grind ←] theorem within_take (n : Nat) (hl : Within P l) : Within P (l.take n) :=
  within_of_subset (List.take_subset n l) hl

@[grind ←] theorem within_drop (n : Nat) (hl : Within P l) : Within P (l.drop n) :=
  within_of_subset (List.drop_subset n l) hl

@[grind ←] theorem within_reverse (hl : Within P l) : Within P l.reverse :=
  within_of_subset (List.reverse_subset.mpr (List.Subset.refl l)) hl

@[grind ←] theorem within_tail (hl : Within P l) : Within P l.tail := fun a ha => hl a (List.mem_of_mem_tail ha)

@[grind ←] theorem within_dropLast (hl : Within P l) : Within P l.dropLast :=
  within_of_subset (List.dropLast_subset l) hl

@[grind ←] theorem within_dropWhile (p : α → Bool) (hl : Within P l) : Within P (l.dropWhile p) :=
  within_of_subset (List.dropWhile_subset p) hl

@[grind ←] theorem within_replicate (n : Nat) (ha : Within P a) : Within P (List.replicate n a) :=
  fun _ hb => (List.eq_of_mem_replicate hb) ▸ ha

@[grind ←] theorem within_map {f : α → β} (hl : Within P l) (hf : ∀ a, Within P a → Within P (f a)) :
    Within P (l.map f) := fun b hb => by
  obtain ⟨a, ha, rfl⟩ := List.mem_map.mp hb
  exact hf a (hl a ha)

@[grind ←] theorem within_filterMap {f : α → Option β} (hl : Within P l) (hf : ∀ a, Within P a → Within P (f a)) :
    Within P (l.filterMap f) := fun b hb => by
  obtain ⟨a, ha, hfound⟩ := List.mem_filterMap.mp hb
  exact hf a (hl a ha) b hfound

@[grind ←] theorem within_flatten {l : List (List α)} (hl : Within P l) : Within P l.flatten := fun a ha => by
  obtain ⟨part, hpart, hfound⟩ := List.mem_flatten.mp ha
  exact hl part hpart a hfound

@[grind ←] theorem within_zip {r : List β} (hl : Within P l) (hr : Within P r) : Within P (l.zip r) := fun _ hx =>
  ⟨hl _ (List.of_mem_zip hx).1, hr _ (List.of_mem_zip hx).2⟩

@[grind ←] theorem within_findSome? {f : α → Option β} (hl : Within P l) (hf : ∀ a, Within P a → Within P (f a)) :
    Within P (l.findSome? f) := fun b hb => by
  obtain ⟨a, ha, hfound⟩ := List.exists_of_findSome?_eq_some hb
  exact hf a (hl a ha) b hfound

@[grind ←] theorem within_list_find? (p : α → Bool) (hl : Within P l) : Within P (l.find? p) := fun a ha =>
  hl a (List.mem_of_find?_eq_some ha)

grind_pattern within_list_find? => Within P l, l.find? p

@[grind ←] theorem within_getElem? (hl : Within P l) (i : Nat) : Within P l[i]? := fun a ha =>
  hl a (List.mem_of_getElem? ha)

grind_pattern within_getElem? => Within P l, l[i]?

@[grind ←] theorem within_head? (hl : Within P l) : Within P l.head? := fun a ha => hl a (List.mem_of_head? ha)

grind_pattern within_head? => Within P l, l.head?

@[grind ←] theorem within_getLast? (hl : Within P l) : Within P l.getLast? := fun a ha =>
  hl a (List.mem_of_getLast? ha)

grind_pattern within_getLast? => Within P l, l.getLast?

@[grind ←] theorem within_optionToList (hx : Within P x) : Within P x.toList := by
  cases x with
  | none => simp
  | some a => exact (within_cons _ _).mpr ⟨(within_some a).mp hx, within_nil.mpr trivial⟩

@[grind ←] theorem within_optionGetD (hx : Within P x) (ha : Within P a) : Within P (x.getD a) := by
  cases x with
  | none => exact ha
  | some b => exact (within_some b).mp hx

grind_pattern within_optionGetD => Within P x, x.getD a

@[grind ←] theorem within_optionMap {f : α → β} (hx : Within P x) (hf : ∀ a, Within P a → Within P (f a)) :
    Within P (x.map f) := by
  cases x with
  | none => simp
  | some a => exact (within_some _).mpr (hf a ((within_some a).mp hx))

grind_pattern within_optionMap => Within P x, x.map f

@[grind ←] theorem within_optionBind {f : α → Option β} (hx : Within P x) (hf : ∀ a, Within P a → Within P (f a)) :
    Within P (x.bind f) := by
  cases x with
  | none => simp
  | some a => exact hf a ((within_some a).mp hx)

grind_pattern within_optionBind => Within P x, x.bind f

@[simp, grind =] theorem within_optionOr (x y : Option α) : Within P (x.or y) ↔ Within P x ∧ (x = none → Within P y) := by
  cases x <;> simp

@[grind ←] theorem within_optionFilter (p : α → Bool) (hx : Within P x) : Within P (x.filter p) := fun a ha =>
  hx a (Option.filter_eq_some_iff.mp ha).1

grind_pattern within_optionFilter => Within P x, x.filter p

@[grind ←] theorem within_headD (hl : Within P l) (ha : Within P a) : Within P (l.headD a) := by
  rw [List.headD_eq_head?_getD]
  exact within_optionGetD (within_head? hl) ha

grind_pattern within_headD => Within P l, l.headD a

@[grind ←] theorem within_getD (hl : Within P l) (i : Nat) (ha : Within P a) : Within P (l.getD i a) := by
  rw [List.getD_eq_getElem?_getD]
  exact within_optionGetD (within_getElem? hl i) ha

grind_pattern within_getD => Within P l, l.getD i a

@[grind ←] theorem within_foldl {f : β → α → β} {b : β} (hl : Within P l) (hb : Within P b)
    (hf : ∀ b a, Within P b → Within P a → Within P (f b a)) : Within P (l.foldl f b) := by
  induction l generalizing b with
  | nil => exact hb
  | cons a l ih =>
    rw [within_cons] at hl
    exact ih hl.2 (hf b a hb hl.1)

@[grind ←] theorem within_lookup {κ : Type} [BEq κ] [Refers κ] {l : List (κ × α)} (key : κ) (hl : Within P l) :
    Within P (l.lookup key) := by
  induction l with
  | nil => simp
  | cons entry l ih =>
    obtain ⟨other, held⟩ := entry
    rw [within_cons] at hl
    rw [List.lookup_cons]
    split
    · exact (within_some _).mpr hl.1.2
    · exact ih hl.2

grind_pattern within_lookup => Within P l, l.lookup key

theorem within_array {s : Array α} : Within P s ↔ ∀ a ∈ s, Within P a := by
  simp only [← Array.mem_toList_iff]
  exact .rfl

@[grind ←] theorem within_array_getElem? {s : Array α} (hs : Within P s) (i : Nat) : Within P s[i]? := fun a ha =>
  within_array.mp hs a (Array.mem_of_getElem? ha)

grind_pattern within_array_getElem? => Within P s, s[i]?

@[grind ←] theorem within_array_foldl {f : β → α → β} {b : β} {s : Array α} (hs : Within P s) (hb : Within P b)
    (hf : ∀ b a, Within P b → Within P a → Within P (f b a)) : Within P (s.foldl f b) := by
  rw [← Array.foldl_toList]
  exact within_foldl hs hb hf

@[grind ←] theorem within_array_map {f : α → β} {s : Array α} (hs : Within P s)
    (hf : ∀ a, Within P a → Within P (f a)) : Within P (s.map f) := by
  rw [← within_toList, Array.toList_map]
  exact within_map hs hf

@[grind ←] theorem within_array_set {s : Array α} (hs : Within P s) (i : Nat) (ha : Within P a) :
    Within P (s.setIfInBounds i a) := by
  rw [← within_toList, Array.toList_setIfInBounds]
  exact fun b hb => (List.mem_or_eq_of_mem_set hb).elim (hs b) fun he => he ▸ ha

@[grind ←] theorem within_array_replicate (n : Nat) (ha : Within P a) : Within P (Array.replicate n a) := by
  rw [← within_toList, Array.toList_replicate]
  exact within_replicate n ha

@[grind ←] theorem within_array_getElem {s : Array α} (hs : Within P s) (i : Nat) (h : i < s.size) : Within P s[i] :=
  within_array.mp hs _ (Array.getElem_mem h)

grind_pattern within_array_getElem => Within P s, s[i]

@[grind ←] theorem within_array_modify {f : α → α} {s : Array α} (hs : Within P s) (i : Nat)
    (hf : ∀ a, Within P a → Within P (f a)) : Within P (s.modify i f) := by
  refine within_array.mpr fun a ha => ?_
  obtain ⟨j, hj, rfl⟩ := Array.mem_iff_getElem.mp ha
  rw [Array.getElem_modify]
  split
  · exact hf _ (within_array_getElem hs _ _)
  · exact within_array_getElem hs _ _

@[simp, grind =] theorem within_push (s : Array α) (a : α) : Within P (s.push a) ↔ Within P s ∧ Within P a := by
  rw [← within_toList, Array.toList_push, within_append, within_cons]
  simp

@[grind ←] theorem within_pop {s : Array α} (hs : Within P s) : Within P s.pop := by
  rw [← within_toList, Array.toList_pop]
  exact within_dropLast hs

@[grind ←] theorem within_array_reverse {s : Array α} (hs : Within P s) : Within P s.reverse := by
  rw [← within_toList, Array.toList_reverse]
  exact within_reverse hs

@[grind ←] theorem within_extract {s : Array α} (hs : Within P s) (start stop : Nat) :
    Within P (s.extract start stop) := by
  rw [← within_toList, Array.toList_extract, List.extract]
  exact within_take _ (within_drop _ hs)

grind_pattern within_extract => Within P s, s.extract start stop

@[simp, grind =] theorem within_arrayAppend (s s' : Array α) :
    Within P (s ++ s') ↔ Within P s ∧ Within P s' := by
  rw [← within_toList, Array.toList_append, within_append, within_toList, within_toList]

end

/-! ### Objects -/

/-- The objects that a part of the form of a key stands for. -/
@[simp, grind =] def KeyPart.Within (P : Identity → Prop) : KeyPart → Prop
  | .identity id | .special _ id => P id
  | .method target _ => P target
  | .bound function self => P function ∧ P self
  | .integer _ | .float _ | .complex _ _ | .text _ | .bytes _ | .tuple _ | .frozenSet _ | .range _ _ _ => True

instance : Refers KeyPart := ⟨KeyPart.Within⟩

@[simp, grind =] theorem within_keyPart (part : KeyPart) : Within P part ↔ part.Within P := .rfl

instance : Refers DictEntry := ⟨fun P entry => Within P entry.form ∧ P entry.key ∧ P entry.value⟩

@[simp, grind =] theorem within_dictEntry (entry : DictEntry) :
    Within P entry ↔ Within P entry.form ∧ P entry.key ∧ P entry.value := .rfl

@[simp, grind =] def MemberSlot.Within (P : Identity → Prop) : MemberSlot → Prop
  | .member _ form id => Refers.Within P form ∧ P id
  | .free | .removed => True

instance : Refers MemberSlot := ⟨MemberSlot.Within⟩

@[simp, grind =] theorem within_memberSlot (slot : MemberSlot) : Within P slot ↔ slot.Within P := .rfl

instance : Refers MemberTable := ⟨fun P t => Within P t.slots⟩

@[simp, grind =] theorem within_memberTable (t : MemberTable) : Within P t ↔ Within P t.slots := .rfl

instance : Refers Place := ⟨fun P place => P place.globals ∧ P place.builtins⟩

@[simp, grind =] theorem within_place (place : Place) : Within P place ↔ P place.globals ∧ P place.builtins := .rfl

@[simp, grind =] def Cursor.Within (P : Identity → Prop) : Cursor → Prop
  | .places source _ | .backwards source _ | .subscripts source _ | .numbered source _ => P source
  | .items rest _ => Refers.Within P rest
  | .entries dict _ _ _ | .entriesBack dict _ _ _ => P dict
  | .members set _ _ => P set
  | .looked keys mapping _ => P keys ∧ P mapping
  | .together sources => Refers.Within P sources
  | .mapped function sources => P function ∧ Refers.Within P sources
  | .filtered function source => Refers.Within P function ∧ P source
  | .calls function sentinel => P function ∧ P sentinel
  | .shared iterator => P iterator
  | .octets _ | .points _ | .progression _ _ _ => True

instance : Refers Cursor := ⟨Cursor.Within⟩

@[simp, grind =] theorem within_cursor (cursor : Cursor) : Within P cursor ↔ cursor.Within P := .rfl

@[simp, grind =] def Reply.Within (P : Identity → Prop) : Reply → Prop
  | .returns object => P object
  | .raises _ => True

instance : Refers Reply := ⟨Reply.Within⟩

@[simp, grind =] theorem within_reply (reply : Reply) : Within P reply ↔ reply.Within P := .rfl

@[simp, grind =] def Feature.Within (P : Identity → Prop) : Feature → Prop
  | .reply answer => Refers.Within P answer
  | .yields items _ => Refers.Within P items
  | .entry entries | .keys entries | .count entries => Refers.Within P entries
  | .item items => P items
  | .yieldsItself | .mark => True

instance : Refers Feature := ⟨Feature.Within⟩

@[simp, grind =] theorem within_feature (feature : Feature) : Within P feature ↔ feature.Within P := .rfl

instance : Refers ScriptClass :=
  ⟨fun P made => Within P made.bases ∧ Within P made.ancestors ∧ P made.base⟩

@[simp, grind =] theorem within_scriptClass (made : ScriptClass) :
    Within P made ↔ Within P made.bases ∧ Within P made.ancestors ∧ P made.base := .rfl

@[simp, grind =] def Function.Within (P : Identity → Prop) : Function → Prop
  | .feature _ _ does => Refers.Within P does
  | .renamed _ _ f => f.Within P
  | .raising _ _ _ | .increment => True

instance : Refers Function := ⟨Function.Within⟩

@[simp, grind =] theorem within_function (f : Function) : Within P f ↔ f.Within P := .rfl

@[simp, grind =] def Body.Within (P : Identity → Prop) : Body → Prop
  | .memoryView source _ _ _ => P source
  | .list items | .tuple items => Refers.Within P items
  | .set members | .frozenSet members => Refers.Within P members
  | .dict entries => Refers.Within P entries
  | .view _ d | .proxy d => P d
  | .mappingView _ mapping => P mapping
  | .slice start stop step => P start ∧ P stop ∧ P step
  | .exception _ arguments details => Refers.Within P arguments ∧ Refers.Within P details
  | .iterator _ cursor => Refers.Within P cursor
  | .classObject made => Refers.Within P made
  | .function f home => Refers.Within P f ∧ Refers.Within P home
  | .method f self => P f ∧ P self
  | .property getter setter deleter _ =>
    Refers.Within P getter ∧ Refers.Within P setter ∧ Refers.Within P deleter
  | .place class? _ _ => P class?
  | .staticMethod f | .classMethod f => P f
  | .ancestral class? target => P class? ∧ Refers.Within P target
  | .bound target _ _ _ => P target
  | .module attributes => P attributes
  | .none | .ellipsis | .notImplemented | .bool _ | .int _ | .float _ | .complex _ _ | .text _ | .bytes _
  | .byteArray _ | .range _ _ _ | .builtin _ | .member _ _ _ | .output _ _ | .stream | .wrapper _ | .tagged _
  | .plain _ => True

instance : Refers Body := ⟨Body.Within⟩

@[simp, grind =] theorem within_body (body : Body) : Within P body ↔ body.Within P := .rfl

instance : Refers Object :=
  ⟨fun P o => Within P o.body ∧ Within P o.home ∧ Within P o.attributes ∧ Within P o.places⟩

@[simp, grind =] theorem within_object (o : Object) :
    Within P o ↔ Within P o.body ∧ Within P o.home ∧ Within P o.attributes ∧ Within P o.places := .rfl

@[simp, grind =] def ClassEntry.Within (P : Identity → Prop) : ClassEntry → Prop
  | .scripted value => P value
  | .own _ _ _ | .nothing => True

instance : Refers ClassEntry := ⟨ClassEntry.Within⟩

@[simp, grind =] theorem within_classEntry (entry : ClassEntry) : Within P entry ↔ entry.Within P := .rfl

/-! ### All objects -/

/-- The set of all objects. -/
def everything (_ : Identity) : Prop := True

@[simp] theorem everything_of (id : Identity) : everything id := trivial

/-- Data of which every part is among all objects. -/
class RefersSomewhere (α : Type) [Refers α] : Prop where
  within : ∀ a : α, Within everything a

@[simp] theorem within_everything {α : Type} [Refers α] [RefersSomewhere α] (a : α) : Within everything a :=
  RefersSomewhere.within a

section
variable {α β : Type} [Refers α] [Refers β] [RefersSomewhere α] [RefersSomewhere β]

instance {α : Type} [Inert α] : RefersSomewhere α := ⟨fun _ => trivial⟩

instance : RefersSomewhere Identity := ⟨fun _ => trivial⟩

instance : RefersSomewhere (Option α) := ⟨fun _ a _ => within_everything a⟩

instance : RefersSomewhere (List α) := ⟨fun _ a _ => within_everything a⟩

instance : RefersSomewhere (Array α) := ⟨fun x => within_everything x.toList⟩

instance : RefersSomewhere (α × β) := ⟨fun x => ⟨within_everything x.1, within_everything x.2⟩⟩

end

instance : RefersSomewhere KeyPart := ⟨fun part => by cases part <;> simp⟩

instance : RefersSomewhere DictEntry := ⟨fun entry => by simp⟩

instance : RefersSomewhere MemberSlot := ⟨fun slot => by cases slot <;> simp⟩

instance : RefersSomewhere MemberTable := ⟨fun t => by simp⟩

instance : RefersSomewhere Place := ⟨fun place => by simp⟩

instance : RefersSomewhere Cursor := ⟨fun cursor => by cases cursor <;> simp⟩

instance : RefersSomewhere Reply := ⟨fun reply => by cases reply <;> simp⟩

instance : RefersSomewhere Feature := ⟨fun feature => by cases feature <;> simp⟩

instance : RefersSomewhere ScriptClass := ⟨fun made => by simp⟩

instance : RefersSomewhere Function := ⟨fun f => by induction f <;> simp_all⟩

instance : RefersSomewhere Body := ⟨fun body => by cases body <;> simp⟩

instance : RefersSomewhere Object := ⟨fun o => by simp⟩

end ScriptHost
