import ScriptHost.Proofs.Reach.Spares
import ScriptHost.Sorting

/-! Sorting gives nothing but the items that it was given, whatever comparisons of them answer. -/
namespace ScriptHost.Sorting
open GuestM (Spares)

variable {P : Identity → Prop} {less : Identity → Identity → GuestM Bool} {a b : Array Identity}

instance {α : Type} [Refers α] : Refers (Merging α) := ⟨fun P s => Within P s.placed⟩

@[simp, grind =] theorem within_merging (s : Merging Identity) : Within P s ↔ Within P s.placed := .rfl

instance : Inert Turn := ⟨⟩

instance {α : Type} [Refers α] : Refers (Run α) := ⟨fun P run => Within P run.items⟩

@[simp, grind =] theorem within_run (run : Run Identity) : Within P run ↔ Within P run.items := .rfl

theorem within_item (hd : P default) (ha : Within P a) (i : Nat) : P (item a i) := by
  unfold item
  rw [Array.getD_eq_getD_getElem?]
  exact within_optionGetD (within_array_getElem? ha i) hd

grind_pattern within_item => Within P a, item a i

/-! ### Places among sorted items -/

@[grind ←] theorem spares_bisect {goesRight : Nat → GuestM Bool} (h : ∀ i, Spares P (goesRight i))
    (fuel low high : Nat) : Spares P (bisect goesRight fuel low high) := by
  induction fuel generalizing low high with
  | zero => exact .pure trivial
  | succ fuel ih =>
    rw [bisect]
    split <;> grind

@[grind ←] theorem spares_stretch {passes : Nat → GuestM Bool} (h : ∀ i, Spares P (passes i))
    (most fuel last offset : Nat) : Spares P (stretch passes most fuel last offset) := by
  induction fuel generalizing last offset with
  | zero => exact .pure ⟨trivial, trivial⟩
  | succ fuel ih =>
    rw [stretch]
    split <;> grind

@[grind ←] theorem spares_gallop {goesRight : Nat → GuestM Bool} (h : ∀ i, Spares P (goesRight i))
    (size hint : Nat) : Spares P (gallop goesRight size hint) := by
  unfold gallop
  refine .bind (h hint) fun right _ => ?_
  split
  · exact .bind (spares_stretch (fun i => h _) _ _ _ _) fun x _ => spares_bisect h _ _ _
  · exact .bind (spares_stretch (fun i => .map (h _) fun _ _ => trivial) _ _ _ _) fun x _ => spares_bisect h _ _ _

section
variable (hless : ∀ a b, P a → P b → Spares P (less a b)) (hd : P default)
include hless

@[grind ←] theorem spares_gallopLeft {key : Identity} {xs : Nat → Identity} (hk : P key) (hxs : ∀ i, P (xs i))
    (size hint : Nat) : Spares P (gallopLeft less key xs size hint) :=
  spares_gallop (fun i => hless _ _ (hxs i) hk) size hint

@[grind ←] theorem spares_gallopRight {key : Identity} {xs : Nat → Identity} (hk : P key) (hxs : ∀ i, P (xs i))
    (size hint : Nat) : Spares P (gallopRight less key xs size hint) :=
  spares_gallop (fun i => .map (hless _ _ hk (hxs i)) fun _ _ => trivial) size hint

end

/-! ### Merging -/

section
variable {s : Merging Identity}

@[grind ←] theorem within_placeLeft (ha : Within P a) (hs : Within P s) (count : Nat) :
    Within P (placeLeft a s count) := (within_arrayAppend _ _).mpr ⟨hs, within_extract ha _ _⟩

@[grind ←] theorem within_placeRight (hb : Within P b) (hs : Within P s) (count : Nat) :
    Within P (placeRight b s count) := (within_arrayAppend _ _).mpr ⟨hs, within_extract hb _ _⟩

@[grind ←] theorem within_takeLeft (ha : Within P a) (hs : Within P s) (count : Nat) :
    Within P (takeLeft a s count) := (within_arrayAppend _ _).mpr ⟨within_extract ha _ _, hs⟩

@[grind ←] theorem within_takeRight (hb : Within P b) (hs : Within P s) (count : Nat) :
    Within P (takeRight b s count) := (within_arrayAppend _ _).mpr ⟨within_extract hb _ _, hs⟩

variable (hless : ∀ a b, P a → P b → Spares P (less a b)) (hd : P default) (ha : Within P a) (hb : Within P b)
include hless hd ha hb

@[grind ←] theorem spares_singleUp (fuel wins losses : Nat) (hs : Within P s) :
    Spares P (singleUp less a b fuel wins losses s) := by
  induction fuel generalizing wins losses s with
  | zero => exact .pure ⟨trivial, hs⟩
  | succ fuel ih =>
    rw [singleUp]
    repeat' first | with_reducible refine .bind ?_ fun _ _ => ?_ | with_reducible refine .either ?_ ?_ | split
    all_goals grind

@[grind ←] theorem spares_gallopUp (fuel : Nat) (hs : Within P s) : Spares P (gallopUp less a b fuel s) := by
  induction fuel generalizing s with
  | zero => exact .pure ⟨trivial, hs⟩
  | succ fuel ih =>
    unfold gallopUp
    extract_lets s₀
    have h₀ : Within P s₀ := hs
    clear_value s₀
    refine .bind (by grind) fun wins _ => ?_
    extract_lets s₁ s₂
    have h₁ : Within P s₁ := within_placeLeft ha h₀ wins
    have h₂ : Within P s₂ := within_placeRight hb h₁ 1
    clear_value s₁ s₂
    refine .ite (fun _ => by grind) fun _ => .ite (fun _ => by grind) fun _ => .ite (fun _ => by grind) fun _ => ?_
    refine .bind (by grind) fun losses _ => ?_
    extract_lets s₃ s₄
    have h₃ : Within P s₃ := within_placeRight hb h₂ losses
    have h₄ : Within P s₄ := within_placeLeft ha h₃ 1
    clear_value s₃ s₄
    repeat' split
    all_goals grind

@[grind ←] theorem spares_mergeUp (fuel : Nat) (hs : Within P s) : Spares P (mergeUp less a b fuel s) := by
  induction fuel generalizing s with
  | zero => exact .pure ⟨trivial, hs⟩
  | succ fuel ih =>
    rw [mergeUp]
    repeat' first | with_reducible refine .bind ?_ fun _ _ => ?_ | with_reducible refine .either ?_ ?_ | split
    all_goals grind

@[grind ←] theorem spares_mergeLow (threshold : Nat) : Spares P (mergeLow less a b threshold) := by
  unfold mergeLow
  extract_lets s rest
  have hs : Within P s := within_placeRight hb (s := { left := 0, right := 0, threshold }) (by simp) 1
  have hrest : ∀ x, Within P x → Spares P (rest x) := fun x hx => by
    simp only [rest]
    split <;> grind
  clear_value s rest
  repeat' split
  all_goals grind

@[grind ←] theorem spares_singleDown (fuel wins losses : Nat) (hs : Within P s) :
    Spares P (singleDown less a b fuel wins losses s) := by
  induction fuel generalizing wins losses s with
  | zero => exact .pure ⟨trivial, hs⟩
  | succ fuel ih =>
    rw [singleDown]
    repeat' first | with_reducible refine .bind ?_ fun _ _ => ?_ | with_reducible refine .either ?_ ?_ | split
    all_goals grind

@[grind ←] theorem spares_gallopDown (fuel : Nat) (hs : Within P s) : Spares P (gallopDown less a b fuel s) := by
  induction fuel generalizing s with
  | zero => exact .pure ⟨trivial, hs⟩
  | succ fuel ih =>
    unfold gallopDown
    extract_lets s₀
    have h₀ : Within P s₀ := hs
    clear_value s₀
    refine .bind (by grind) fun place _ => ?_
    extract_lets wins s₁ s₂
    have h₁ : Within P s₁ := within_takeLeft ha h₀ wins
    have h₂ : Within P s₂ := within_takeRight hb h₁ 1
    clear_value s₁ s₂
    refine .ite (fun _ => by grind) fun _ => .ite (fun _ => by grind) fun _ => ?_
    refine .bind (by grind) fun place _ => ?_
    extract_lets losses s₃ s₄
    have h₃ : Within P s₃ := within_takeRight hb h₂ losses
    have h₄ : Within P s₄ := within_takeLeft ha h₃ 1
    clear_value s₃ s₄
    repeat' split
    all_goals grind

@[grind ←] theorem spares_mergeDown (fuel : Nat) (hs : Within P s) : Spares P (mergeDown less a b fuel s) := by
  induction fuel generalizing s with
  | zero => exact .pure ⟨trivial, hs⟩
  | succ fuel ih =>
    rw [mergeDown]
    repeat' first | with_reducible refine .bind ?_ fun _ _ => ?_ | with_reducible refine .either ?_ ?_ | split
    all_goals grind

@[grind ←] theorem spares_mergeHigh (threshold : Nat) : Spares P (mergeHigh less a b threshold) := by
  unfold mergeHigh
  extract_lets s rest
  have hs : Within P s := within_takeLeft ha (s := { left := a.size, right := b.size, threshold }) (by simp) 1
  have hrest : ∀ x, Within P x → Spares P (rest x) := fun x hx => by
    simp only [rest]
    split <;> grind
  clear_value s rest
  repeat' split
  all_goals grind

@[grind ←] theorem spares_mergeRuns (threshold : Nat) : Spares P (mergeRuns less threshold a b) := by
  unfold mergeRuns
  repeat' first | with_reducible refine .bind ?_ fun _ _ => ?_ | with_reducible refine .either ?_ ?_ | split
  all_goals grind

end

/-! ### Runs -/

section
variable (hless : ∀ a b, P a → P b → Spares P (less a b)) (hd : P default)
include hless hd

@[grind ←] theorem spares_settle (power fuel threshold : Nat) {runs : List (Run Identity)} (hruns : Within P runs) :
    Spares P (settle less power fuel threshold runs) := by
  induction fuel generalizing threshold runs with
  | zero => exact .pure ⟨hruns, trivial⟩
  | succ fuel ih =>
    unfold settle
    split
    · split <;> grind
    · exact .pure ⟨hruns, trivial⟩

@[grind ←] theorem spares_mergeAll (fuel threshold : Nat) {runs : List (Run Identity)} (hruns : Within P runs) :
    Spares P (mergeAll less fuel threshold runs) := by
  induction fuel generalizing threshold runs with
  | zero => exact .pure hruns
  | succ fuel ih =>
    unfold mergeAll
    split
    · split <;> grind
    · grind
    · exact .pure hruns

omit hd in
@[grind ←] theorem spares_countRun (falls : Bool) {x : Identity} {items : List Identity} (hx : P x)
    (hi : Within P items) : Spares P (countRun less falls x items) := by
  induction items generalizing x with
  | nil => exact .pure trivial
  | cons y rest ih =>
    rw [countRun]
    repeat' first | with_reducible refine .bind ?_ fun _ _ => ?_ | with_reducible refine .either ?_ ?_ | split
    all_goals grind

@[grind ←] theorem spares_insertInOrder {sorted : Array Identity} {x : Identity} (hs : Within P sorted) (hx : P x) :
    Spares P (insertInOrder less sorted x) := by
  unfold insertInOrder
  repeat' first | with_reducible refine .bind ?_ fun _ _ => ?_ | with_reducible refine .either ?_ ?_ | split
  all_goals grind

@[grind ←] theorem spares_frontRun (least : Nat) {items : List Identity} (hi : Within P items) :
    Spares P (frontRun less least items) := by
  unfold frontRun
  repeat' first | with_reducible refine .bind ?_ fun _ _ => ?_ | with_reducible refine .either ?_ ?_ | split
  all_goals grind

@[grind ←] theorem spares_sortFrom (total least fuel threshold start : Nat) {runs : List (Run Identity)}
    {items : List Identity} (hruns : Within P runs) (hi : Within P items) :
    Spares P (sortFrom less total least fuel threshold start runs items) := by
  induction fuel generalizing threshold start runs items with
  | zero => exact .pure hruns
  | succ fuel ih =>
    rw [sortFrom]
    repeat' first | with_reducible refine .bind ?_ fun _ _ => ?_ | with_reducible refine .either ?_ ?_ | split
    all_goals grind

theorem spares_sort {items : List Identity} (hi : Within P items) : Spares P (sort less items) := by
  unfold sort
  repeat' first | with_reducible refine .bind ?_ fun _ _ => ?_ | with_reducible refine .either ?_ ?_ | split
  all_goals grind

end
end ScriptHost.Sorting
