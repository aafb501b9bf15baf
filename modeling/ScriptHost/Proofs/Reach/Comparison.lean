import ScriptHost.Guest.Entries
import ScriptHost.Proofs.Reach.Sorting
import ScriptHost.Proofs.Reach.Written

/-! Comparisons of objects, and collections that find their items by keys, stay within what a computation was given. -/
namespace ScriptHost
open GuestM (Spares)

variable {P : Identity → Prop} {α β : Type} [Refers α] [Refers β] {a answer b dict id item key value : Identity}
  {equal order : Identity → Identity → GuestM Bool} {entries others : Dict}
  {reflected straight : GuestM (Option Identity)} {data : Identity → Identity → GuestM (Option Bool)}
  {ids items : List Identity} {form : Key} {held : List (Key × Identity)} {table : MemberTable}

instance : Inert Comparison := ⟨⟩

instance : Inert Number := ⟨⟩

namespace GuestM

@[grind ←] theorem spares_viewForms? (hid : P id) : Spares P (viewForms? id) := by
  unfold viewForms?
  repeat' first | with_reducible refine .bind ?_ fun _ _ => ?_ | with_reducible refine .either ?_ ?_ | split
  all_goals grind

theorem within_isSequencePair {body body' : Body} (h : Within P body) (h' : Within P body') :
    Within P (isSequencePair body body') := by
  unfold isSequencePair
  split <;> grind

grind_pattern within_isSequencePair => Within P body, isSequencePair body body'

@[grind ←] theorem spares_allSame (hequal : ∀ a b, P a → P b → Spares P (equal a b)) {as bs : List Identity}
    (has : Within P as) (hbs : Within P bs) : Spares P (allSame equal as bs) := by
  induction as generalizing bs with
  | nil => exact .pure trivial
  | cons a as ih =>
    cases bs with
    | nil => exact .pure trivial
    | cons b bs =>
      rw [allSame]
      grind

@[grind ←] theorem spares_entriesSame (hequal : ∀ a b, P a → P b → Spares P (equal a b)) {entries : Dict}
    (hothers : Within P others) (he : Within P entries) : Spares P (entriesSame equal others entries) := by
  induction entries with
  | nil => exact .pure trivial
  | cons entry entries ih =>
    rw [entriesSame]
    split
    · split <;> grind
    · exact .pure trivial

theorem spares_equalData? (hequal : ∀ a b, P a → P b → Spares P (equal a b)) (ha : P a) (hb : P b) :
    Spares P (equalData? equal a b) := by
  unfold equalData?
  repeat' first | with_reducible refine .bind ?_ fun _ _ => ?_ | with_reducible refine .either ?_ ?_ | split
  all_goals grind

@[grind ←] theorem spares_inTurn (ha : P a) (hb : P b) (hstraight : Spares P straight)
    (hreflected : Spares P reflected) :
    Spares P (inTurn a b straight reflected) := by
  unfold inTurn
  repeat' first | with_reducible refine .bind ?_ fun _ _ => ?_ | with_reducible refine .either ?_ ?_ | split
  all_goals grind

@[grind ←] theorem spares_applicable? (hanswer : P answer) : Spares P (applicable? answer) := by
  unfold applicable?
  repeat' first | with_reducible refine .bind ?_ fun _ _ => ?_ | with_reducible refine .either ?_ ?_ | split
  all_goals grind

@[grind ←] theorem spares_compareItems (c : Comparison) (hequal : ∀ a b, P a → P b → Spares P (equal a b))
    (horder : ∀ a b, P a → P b → Spares P (order a b)) {as bs : List Identity} (has : Within P as)
    (hbs : Within P bs) : Spares P (compareData?.compareItems c equal order as bs) := by
  induction as generalizing bs with
  | nil => cases bs <;> exact .pure trivial
  | cons a as ih =>
    cases bs with
    | nil => exact .pure trivial
    | cons b bs =>
      rw [compareData?.compareItems]
      grind

theorem spares_compareData? (c : Comparison) (hequal : ∀ a b, P a → P b → Spares P (equal a b))
    (horder : ∀ a b, P a → P b → Spares P (order a b)) (ha : P a) (hb : P b) :
    Spares P (compareData? c equal order a b) := by
  unfold compareData?
  repeat' first | with_reducible refine .bind ?_ fun _ _ => ?_ | with_reducible refine .either ?_ ?_ | split
  all_goals grind

@[grind ←] theorem spares_relate (name : String) (hdata : ∀ a b, P a → P b → Spares P (data a b)) (ha : P a)
    (hb : P b) :
    Spares P (relate name data a b) := by
  unfold relate
  repeat' first | with_reducible refine .bind ?_ fun _ _ => ?_ | with_reducible refine .either ?_ ?_ | split
  all_goals grind

@[grind ←] theorem spares_notOrdered (c : Comparison) : Spares P (notOrdered c a b : GuestM α) := by
  unfold notOrdered
  repeat' first | with_reducible refine .bind ?_ fun _ _ => ?_ | with_reducible refine .either ?_ ?_ | split
  all_goals grind

@[grind ←] theorem spares_equalityTo (depth : Nat) (ha : P a) (hb : P b) : Spares P (equalityTo depth a b) := by
  induction depth generalizing a b with
  | zero => exact .raise _
  | succ depth ih =>
    rw [equalityTo]
    refine .bind .get fun g hg => ?_
    extract_lets inner data
    have hinner : ∀ a b, P a → P b → Spares P (inner a b) := by grind
    have hdata : ∀ a b, P a → P b → Spares P (data a b) := fun a b ha hb => spares_equalData? hinner ha hb
    clear_value inner data
    repeat' first | with_reducible refine .bind ?_ fun _ _ => ?_ | with_reducible refine .either ?_ ?_ | split
    all_goals grind

@[grind ←] theorem spares_equalTo (depth : Nat) (ha : P a) (hb : P b) : Spares P (equalTo depth a b) :=
  .bind (spares_equalityTo depth ha hb) fun _ => spares_truth

@[grind ←] theorem spares_orderTo (c : Comparison) (depth : Nat) (ha : P a) (hb : P b) :
    Spares P (orderTo c depth a b) := by
  induction depth generalizing a b with
  | zero => exact .raise _
  | succ depth ih =>
    rw [orderTo]
    refine .bind .get fun g hg => ?_
    extract_lets inner data back
    have hinner : ∀ a b, P a → P b → Spares P (inner a b) := by grind
    have hdata : ∀ c a b, P a → P b → Spares P (data c a b) := fun c a b ha hb =>
      spares_compareData? c (fun _ _ => spares_equalTo depth) hinner ha hb
    clear_value inner data
    repeat' first | with_reducible refine .bind ?_ fun _ _ => ?_ | with_reducible refine .either ?_ ?_ | split
    all_goals grind

@[grind ←] theorem spares_equality (ha : P a) (hb : P b) : Spares P (equality a b) := spares_equalityTo _ ha hb

@[grind ←] theorem spares_equal (ha : P a) (hb : P b) : Spares P (GuestM.equal a b) := spares_equalTo _ ha hb

@[grind ←] theorem spares_same (ha : P a) (hb : P b) : Spares P (same a b) := by
  unfold same
  exact .either (.pure trivial) (spares_equal ha hb)

@[grind ←] theorem spares_sameData? (ha : P a) (hb : P b) : Spares P (sameData? a b) :=
  spares_equalData? (fun _ _ => spares_equal) ha hb

@[grind ←] theorem spares_compare (c : Comparison) (ha : P a) (hb : P b) : Spares P (compare c a b) :=
  .bind (spares_orderTo c _ ha hb) fun _ => spares_truth

@[grind ←] theorem spares_orderData? (c : Comparison) (ha : P a) (hb : P b) : Spares P (orderData? c a b) :=
  spares_compareData? c (fun _ _ => spares_equal) (fun _ _ => spares_compare c) ha hb

@[grind ←] theorem spares_sort (hids : Within P ids) : Spares P (sort ids) :=
  fun context g hcontext hg =>
    Sorting.spares_sort (fun _ _ => spares_compare .less) (Guest.within_default hg) hids context g hcontext hg

@[grind ←] theorem spares_keptHash (hform : Within P form) (hid : P id) : Spares P (keptHash form id) := by
  unfold keptHash
  split
  · exact .pure trivial
  · exact spares_hash hid

@[grind ←] theorem spares_equalForm? (wanted : UInt64) (hid : P id) {held : List (Key × Identity)}
    (hheld : Within P held) : Spares P (equalForm? wanted id held) := by
  induction held with
  | nil => exact .pure (by simp)
  | cons entry held ih =>
    obtain ⟨hentry, hrest⟩ := (within_cons entry held).mp hheld
    rw [equalForm?]
    refine .bind (spares_keptHash hentry.1 hentry.2) fun _ _ => .either ?_ (ih hrest)
    exact .bind (spares_same hentry.2 hid) fun _ _ => .either (.pure ((within_some _).mpr hentry.1)) (ih hrest)

@[grind ←] theorem spares_formAmong (hheld : Within P held) (hid : P id) : Spares P (formAmong held id) := by
  unfold formAmong
  refine .bind (spares_keyForm hid) fun form hform => .either (.pure hform) ?_
  refine .bind (spares_keptHash hform hid) fun _ _ => .bind (spares_equalForm? _ hid hheld) fun _ h => .pure ?_
  exact within_optionGetD h hform

@[grind ←] theorem spares_formIn (hentries : Within P entries) (hkey : P key) : Spares P (formIn entries key) :=
  spares_formAmong (by grind) hkey

@[grind ←] theorem spares_find? (hentries : Within P entries) (hkey : P key) : Spares P (find? entries key) :=
  .bind (spares_formIn hentries hkey) fun _ _ => .pure (by grind)

@[grind ←] theorem spares_inserted (hentries : Within P entries) (hkey : P key) (hvalue : P value) :
    Spares P (inserted entries key value) :=
  .bind (spares_formIn hentries hkey) fun _ _ => .pure (by grind)

@[grind ←] theorem spares_setEntry (hdict : P dict) (hkey : P key) (hvalue : P value) :
    Spares P (setEntry dict key value) := by
  unfold setEntry
  refine .bind .get fun g hg => .bind (spares_formIn (by grind) hkey) fun form _ => ?_
  exact .modify fun g' hg' => by grind

@[grind ←] theorem spares_dict {entries : List (Identity × Identity)} (hentries : Within P entries) :
    Spares P (GuestM.dict entries) := by
  unfold GuestM.dict
  refine .bind (.forIn hentries (by simp) fun entry found hentry hfound => ?_) fun found hfound => ?_
  · exact .bind (spares_inserted hfound hentry.1 hentry.2) fun _ h => .pure h
  · exact spares_allocate hfound (by simp)

@[grind ←] theorem spares_formOfMember (htable : Within P table) (hitem : P item) :
    Spares P (formOfMember table item) :=
  spares_formAmong (by grind) hitem

@[grind ←] theorem spares_addMember (htable : Within P table) (hitem : P item) : Spares P (addMember table item) :=
  .bind (spares_formOfMember htable hitem) fun _ _ => .bind (spares_hash hitem) fun _ _ => .pure (by grind)

@[grind ←] theorem spares_members (hitems : Within P items) : Spares P (members items) :=
  .foldlM hitems (by grind) fun _ _ => spares_addMember

end GuestM

end ScriptHost
