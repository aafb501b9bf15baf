import ScriptHost.Proofs.Reach.Refers
import ScriptHost.Proofs.Guest.Namespace
import ScriptHost.Proofs.Guest.Strokes
import ScriptHost.Proofs.Stepping

/-! Computations that are given nothing but objects of a set in which no object refers to one outside: they leave the
objects outside alone and give nothing but objects of the set. Whatever the set, they forget no object, and they tell
hooks of lines by strokes on line writers only. -/
namespace ScriptHost
open Stepping

variable {P : Identity → Prop} {α β : Type} [Refers α] [Refers β]

namespace Guest
variable {g g' g'' : Guest} {id : Identity}

/-- No object of a set refers to one outside of it, nor does anything that the interpreter keeps by itself. No class of
a script is outside, since those can be found without a reference. -/
structure KeepsTo (P : Identity → Prop) (g : Guest) : Prop where
  classes : ∀ id made, g.body id = .classObject made → P id
  default : P default
  object : ∀ id, P id → Within P (g.object id)
  system : P g.system
  builtins : P g.builtins
  modules : P g.modules
  standardModules : Within P g.standardModules
  constants : ∀ (constant : Nat × Constant) id, g.constants[constant]? = some id → P id

/-- An interpreter keeps to a set, and what is outside of the set is there. -/
structure IsClosed (P : Identity → Prop) (g : Guest) : Prop extends g.KeepsTo P where
  outside : ∀ id, ¬ P id → g.Holds id

instance : Refers Guest := ⟨IsClosed⟩

theorem within_guest : Within P g ↔ g.IsClosed P := .rfl

/-- Nothing but objects of a set have changed, which is still closed. What the interpreter itself refers to is in its
place, and line writers are the only ones that told hooks of lines, which are all that hooks are told. -/
structure ChangesWithin (P : Identity → Prop) (g g' : Guest) : Prop where
  closed : Within P g'
  object : ∀ id, ¬ P id → g'.object id = g.object id
  system : g'.system = g.system
  builtins : g'.builtins = g.builtins
  modules : g'.modules = g.modules
  prints : g.Prints g'
  notices : g'.notices = g.notices

namespace ChangesWithin

theorem refl (h : Within P g) : g.ChangesWithin P g :=
  ⟨h, fun _ _ => rfl, rfl, rfl, rfl, .refl g, rfl⟩

theorem trans (h : g.ChangesWithin P g') (h' : g'.ChangesWithin P g'') : g.ChangesWithin P g'' where
  closed := h'.closed
  object := fun id hid => (h'.object id hid).trans (h.object id hid)
  system := h'.system.trans h.system
  builtins := h'.builtins.trans h.builtins
  modules := h'.modules.trans h.modules
  prints := h.prints.trans h'.prints
  notices := h'.notices.trans h.notices

end ChangesWithin

/-! ### What is read -/

theorem within_system (h : Within P g) : P g.system := h.system

grind_pattern within_system => Within P g, g.system

theorem within_builtins (h : Within P g) : P g.builtins := h.builtins

grind_pattern within_builtins => Within P g, g.builtins

theorem within_modules (h : Within P g) : P g.modules := h.modules

grind_pattern within_modules => Within P g, g.modules

theorem within_standardModules (h : Within P g) : Within P g.standardModules := h.standardModules

grind_pattern within_standardModules => Within P g, g.standardModules

@[grind →] theorem within_default (h : Within P g) : P default := h.default

@[grind →] theorem IsClosed.next (h : Within P g) : P g.next :=
  Classical.byContradiction fun hid => Nat.lt_irrefl _ (h.outside _ hid)

theorem within_places (h : Within P g) (hid : P id) : Within P (g.object id).places :=
  (h.object id hid).2.2.2

grind_pattern within_places => Within P g, (g.object id).places

theorem within_body_of (h : Within P g) (hid : P id) : Within P (g.body id) := (h.object id hid).1

grind_pattern within_body_of => Within P g, g.body id

theorem within_home (h : Within P g) (hid : P id) : Within P (g.home? id) := (h.object id hid).2.1

grind_pattern within_home => Within P g, g.home? id

/-! ### What is written -/

/-- A change that concerns nothing but objects of the set, and keeps them among themselves. -/
theorem changesWithin_of (h : Within P g) (hobject : ∀ id, ¬ P id → g'.object id = g.object id)
    (hwithin : ∀ id, P id → Within P (g'.object id))
    (hsystem : g'.system = g.system) (hbuiltins : g'.builtins = g.builtins) (hmodules : g'.modules = g.modules)
    (hstandard : Within P g'.standardModules)
    (hconstants : ∀ (constant : Nat × Constant) id, g'.constants[constant]? = some id → P id)
    (hprints : g.Prints g') (hnotices : g'.notices = g.notices) : g.ChangesWithin P g' where
  closed :=
    { outside := fun id hid => hprints.holds (h.outside id hid)
      classes := fun id made hmade => Classical.byContradiction fun hid => by
        rw [body, hobject id hid] at hmade
        exact hid (h.classes id made hmade)
      default := h.default
      object := hwithin
      system := hsystem ▸ h.system
      builtins := hbuiltins ▸ h.builtins
      modules := hmodules ▸ h.modules
      standardModules := hstandard
      constants := hconstants }
  object := hobject
  system := hsystem
  builtins := hbuiltins
  modules := hmodules
  prints := hprints
  notices := hnotices

@[grind ←] theorem changesWithin_modify {f : Object → Object} (h : Within P g) (hid : P id) (hf : ∀ o, Within P o → Within P (f o)) :
    g.ChangesWithin P { g with heap := g.heap.modify id.index f } := by
  have hobject (other : Identity) (hne : other ≠ id) :
      Guest.object { g with heap := g.heap.modify id.index f } other = g.object other := by
    have hindex : id.index ≠ other.index := fun he => hne (by cases other; cases id; exact congrArg _ he.symm)
    rw [Guest.object, Array.getD_eq_getD_getElem?, Array.getElem?_modify, if_neg hindex, Guest.object,
      Array.getD_eq_getD_getElem?]
  refine changesWithin_of h (fun other hother => hobject other fun he => hother (he ▸ hid)) (fun other hother => ?_) rfl rfl rfl
    h.standardModules h.constants (.of_same (Nat.le_of_eq Array.size_modify.symm) rfl rfl rfl) rfl
  by_cases hne : other = id
  · subst hne
    have hbefore := h.object other hid
    rw [Guest.object, Array.getD_eq_getD_getElem?] at hbefore ⊢
    rw [Array.getElem?_modify, if_pos rfl]
    cases ho : g.heap[other.index]? with
    | none =>
      rw [ho] at hbefore
      exact hbefore
    | some o =>
      rw [ho] at hbefore
      exact hf o hbefore
  · rw [hobject other hne]
    exact h.object other hother

@[grind ←] theorem changesWithin_withBody {body : Body} (h : Within P g) (hid : P id) (hb : Within P body) :
    g.ChangesWithin P (g.withBody id body) := changesWithin_modify h hid fun _ ho => (within_object _).mpr ⟨hb, ho.2⟩

theorem changesWithin_adding {o : Object} (h : Within P g) (ho : Within P o) : g.ChangesWithin P (g.adding o) := by
  have hobject (other : Identity) (hheld : g.Holds other) : (g.adding o).object other = g.object other := by
    rw [Guest.object, Array.getD_eq_getD_getElem?, adding, Array.getElem?_push, if_neg (Nat.ne_of_lt hheld),
      Guest.object, Array.getD_eq_getD_getElem?]
  refine changesWithin_of h (fun other hother => hobject other (h.outside other hother)) (fun other hother => ?_) rfl rfl rfl
    h.standardModules h.constants (.of_same (by simp [adding]) rfl rfl rfl) rfl
  by_cases hheld : g.Holds other
  · rw [hobject other hheld]
    exact h.object other hother
  · rw [Guest.object, Array.getD_eq_getD_getElem?, adding, Array.getElem?_push]
    split
    · exact ho
    · rw [Array.getElem?_eq_none (Nat.le_of_not_lt hheld)]
      simp [within_object, default]

/-- What is kept beside the objects changes, but for what the interpreter refers to by itself. -/
theorem changesWithin_of_same (h : Within P g) (hheap : g'.heap = g.heap) (hsystem : g'.system = g.system)
    (hbuiltins : g'.builtins = g.builtins) (hmodules : g'.modules = g.modules)
    (hstandard : g'.standardModules = g.standardModules) (hconstants : g'.constants = g.constants)
    (hprints : g.Prints g') (hnotices : g'.notices = g.notices) : g.ChangesWithin P g' := by
  have hobject (id : Identity) : g'.object id = g.object id := by rw [object, hheap, object]
  exact changesWithin_of h (fun id _ => hobject id) (fun id hid => hobject id ▸ h.object id hid) hsystem hbuiltins
    hmodules (hstandard ▸ h.standardModules) (hconstants ▸ h.constants) hprints hnotices

/-! ### Whole interpreters -/

/-- Every interpreter keeps to the set of all objects. -/
theorem isClosed_everything (g : Guest) : g.IsClosed everything where
  classes := fun _ _ _ => trivial
  default := trivial
  object := fun _ _ => within_everything _
  system := trivial
  builtins := trivial
  modules := trivial
  standardModules := within_everything _
  constants := fun _ _ _ => trivial
  outside := fun _ h => (h trivial).elim

/-- Nothing refers to an object that is not there. -/
def IsSound (g : Guest) : Prop := ∀ absent, ¬ g.Holds absent → g.KeepsTo (· ≠ absent)

/-- What is new is referred to by nothing. -/
theorem IsSound.closed_adding (h : g.IsSound) {o : Object} (ho : ∀ made, o.body ≠ .classObject made) :
    (g.adding o).IsClosed (· ≠ g.next) := by
  have hkeeps := h g.next (Nat.lt_irrefl _)
  have hobject (id : Identity) (hid : id ≠ g.next) : (g.adding o).object id = g.object id := by
    have hindex : id.index ≠ g.heap.size := fun he => hid (by cases id; exact congrArg _ he)
    rw [Guest.object, Array.getD_eq_getD_getElem?, adding, Array.getElem?_push, if_neg hindex, Guest.object,
      Array.getD_eq_getD_getElem?]
  exact
    { outside := fun id hid => by
        obtain rfl : id = g.next := Classical.not_not.mp hid
        simp [Holds, next, adding]
      classes := fun id made hmade hid => by
        obtain rfl := hid
        rw [body, object_adding] at hmade
        exact ho made hmade
      default := hkeeps.default
      object := fun id hid => by
        rw [hobject id hid]
        exact hkeeps.object id hid
      system := hkeeps.system
      builtins := hkeeps.builtins
      modules := hkeeps.modules
      standardModules := hkeeps.standardModules
      constants := hkeeps.constants }

end Guest

/-- A context that knows nothing but objects of a set, and whose calls spare the others. -/
structure Context.IsWithin (P : Identity → Prop) (context : Context) : Prop where
  place : Within P context.place
  call : ∀ place function arguments (g : Guest), Within P place → P function → Within P arguments → Within P g →
    Ends (context.call place function arguments) g fun answer g' => g.ChangesWithin P g' ∧ Within P answer

namespace GuestM

/-- A computation that spares what is outside of a set, and answers with nothing from there. -/
def Spares (P : Identity → Prop) (run : GuestM α) : Prop :=
  ∀ (context : Context) (g : Guest), context.IsWithin P → Within P g →
    Ends (run context) g fun answer g' => g.ChangesWithin P g' ∧ Within P answer

/-- A computation that is handed on refers to what it takes for it to spare the rest. -/
instance : Refers (GuestM α) := ⟨Spares⟩

@[simp, grind =] theorem within_run {run : GuestM α} : Within P run ↔ run.Spares P := .rfl

namespace Spares

@[grind ←] protected theorem pure {a : α} (h : Within P a) : Spares P (Pure.pure a : GuestM α) :=
  fun _ _ _ hg => .of_ok rfl ⟨.refl hg, by simpa using h⟩

@[grind ←] protected theorem bind {m : GuestM α} {f : α → GuestM β} (h : m.Spares P)
    (hf : ∀ a, Within P a → (f a).Spares P) : Spares P (m >>= f) := fun context g hcontext hg => by
  refine (h context g hcontext hg).bind (fun a g' hg' => ?_) fun e g' hg' => ⟨hg'.1, by simp⟩
  refine (hf a (by simpa using hg'.2) context g' hcontext hg'.1.closed).mono fun r g'' hg'' => ?_
  exact ⟨hg'.1.trans hg''.1, hg''.2⟩

@[grind ←] protected theorem map {m : GuestM α} {f : α → β} (h : m.Spares P)
    (hf : ∀ a, Within P a → Within P (f a)) : Spares P (f <$> m) := .bind h fun a ha => .pure (hf a ha)

@[grind ←] protected theorem discard {m : GuestM α} (h : m.Spares P) : Spares P (discard m) :=
  .map h fun _ _ => trivial

@[grind ←] protected theorem get : Spares P (MonadState.get : GuestM Guest) :=
  fun _ _ _ hg => .of_ok rfl ⟨.refl hg, by simpa using hg⟩

/-- The object that stands for none that is missing is one that the interpreter knows by itself. -/
protected theorem of_default {m : GuestM α} (h : P default → m.Spares P) : m.Spares P := fun context g hcontext hg =>
  h (Guest.within_default hg) context g hcontext hg

theorem within_of_default {x : Option (GuestM α)} (h : P default → Within P x) : Within P x := fun run hrun =>
  .of_default fun hdefault => h hdefault run hrun

@[grind ←] protected theorem getD {x : Option (GuestM α)} {m : GuestM α} (hx : Within P x) (hm : m.Spares P) :
    Spares P (x.getD m) := within_optionGetD hx hm

@[grind ←] protected theorem raise (f : Fault) : Spares P (raise f : GuestM α) :=
  fun _ _ _ hg => .of_error rfl ⟨.refl hg, by simp⟩

@[grind ←] protected theorem place : Spares P place :=
  fun _ _ hcontext hg => .of_ok rfl ⟨.refl hg, by simpa using hcontext.place⟩

@[grind ←] protected theorem call {function : Identity} {arguments : List Identity} (hf : P function)
    (ha : Within P arguments) : Spares P (call function arguments) :=
  fun context g hcontext hg => hcontext.call context.place function arguments g hcontext.place hf ha hg

@[grind ←] protected theorem elim {x : Option α} {m : GuestM β} {f : α → GuestM β} (hx : Within P x) (hm : m.Spares P)
    (hf : ∀ a, Within P a → (f a).Spares P) : Spares P (x.elim m f) := by
  cases x with
  | none => exact hm
  | some a => exact hf a ((within_some a).mp hx)

protected theorem ite {c : Prop} [Decidable c] {m m' : GuestM α} (h : c → m.Spares P) (h' : ¬ c → m'.Spares P) :
    Spares P (if c then m else m') := by
  split
  · exact h ‹_›
  · exact h' ‹_›

protected theorem either {c : Prop} [Decidable c] {m m' : GuestM α} (h : m.Spares P) (h' : m'.Spares P) :
    Spares P (if c then m else m') := .ite (fun _ => h) fun _ => h'

@[grind ←] protected theorem tryCatch {m : GuestM α} {f : Fault → GuestM α} (h : m.Spares P)
    (hf : ∀ e, (f e).Spares P) : Spares P (tryCatch m f) := fun context g hcontext hg => by
  have hm := h context g hcontext hg
  cases hrun : m context g with
  | ok a g' => exact .of_ok (by rw [reader_tryCatch_run, hrun]) (hm.at_ok hrun)
  | error e g' =>
    obtain ⟨hspares, -⟩ := hm.at_error hrun
    have hafter := (hf e context g' hcontext hspares.closed).mono fun r g'' h =>
      show g.ChangesWithin P g'' ∧ Within P r from ⟨hspares.trans h.1, h.2⟩
    unfold Ends at hafter ⊢
    rwa [reader_tryCatch_run, hrun]

@[grind ←] protected theorem modify {f : Guest → Guest} (h : ∀ g : Guest, Within P g → g.ChangesWithin P (f g)) :
    Spares P (modify f : GuestM PUnit) := fun _ g _ hg => .of_ok rfl ⟨h g hg, by simp⟩

end Spares

/-! ### Objects that are made and kept -/

@[grind ←] theorem spares_allocate {body : Body} {home : Option Identity} (hb : Within P body) (hh : Within P home) :
    Spares P (allocate body home) := fun context g _ hg =>
  .of_ok rfl ⟨Guest.changesWithin_adding hg ⟨hb, hh, by simp, by simp⟩, by simpa using Guest.IsClosed.next hg⟩

theorem within_constant (c : Constant) : Within P c.body := by cases c <;> simp [Constant.body]

@[grind ←] theorem spares_internIn (script : Nat) (c : Constant) : Spares P (internIn script c) := by
  intro context g _ hg
  unfold internIn
  refine .of_ok (reader_modifyGet_run _ _ _) ?_
  cases hc : (g.constants[(script, c)]?).filter fun id => g.constant? id == some c with
  | some id => exact ⟨.refl hg, by simpa using hg.constants _ id (Option.filter_eq_some_iff.mp hc).1⟩
  | none =>
    have hnext := Guest.IsClosed.next hg
    have hadded := Guest.changesWithin_adding (o := { body := c.body }) hg
      ⟨within_constant c, by simp, by simp, by simp⟩
    refine ⟨Guest.changesWithin_of hg hadded.object hadded.closed.object rfl rfl rfl hg.standardModules
      (fun constant id hid => ?_) (.of_same (by simp) rfl rfl rfl) rfl, by simpa using hnext⟩
    rw [Std.HashMap.getElem?_insert] at hid
    split at hid
    · cases hid
      exact hnext
    · exact hg.constants constant id hid

@[grind ←] theorem spares_setBody {id : Identity} {body : Body} (hid : P id) (hb : Within P body) :
    Spares P (setBody id body) :=
  .modify fun _ hg => Guest.changesWithin_withBody hg hid hb

@[grind ←] theorem spares_intern (c : Constant) : Spares P (intern c) := spares_internIn 0 c

@[grind ←] theorem spares_bodyOf {id : Identity} (hid : P id) : Spares P (bodyOf id) := .map .get fun _ hg =>
  Guest.within_body_of hg hid

@[grind ←] theorem spares_none : Spares P none := spares_intern .none

@[grind ←] theorem spares_bool (b : Bool) : Spares P (bool b) := spares_intern (.bool b)

@[grind ←] theorem spares_int (n : Int) : Spares P (int n) := by
  unfold int
  split <;> grind

@[grind ←] theorem spares_float (x : Double) : Spares P (float x) := by
  unfold float
  grind

@[grind ←] theorem spares_text (t : Text) : Spares P (text t) := by
  unfold text
  split <;> grind

@[grind ←] theorem spares_string (s : String) : Spares P (string s) := spares_text (.ofString s)

@[grind ←] theorem spares_name (t : Text) : Spares P (name t) := by
  unfold name
  split <;> grind

@[grind ←] theorem spares_literalInt (n : Int) : Spares P (literalInt n) :=
  .bind .place fun _ _ => spares_internIn _ _

@[grind ←] theorem spares_literalText (t : Text) : Spares P (literalText t) :=
  .bind .place fun _ _ => spares_internIn _ _

@[grind ←] theorem spares_bytes (data : List UInt8) : Spares P (bytes data) := by
  unfold bytes
  split <;> grind

@[grind ←] theorem spares_tuple {items : List Identity} (h : Within P items) : Spares P (tuple items) := by
  unfold tuple
  split
  · exact spares_intern .emptyTuple
  · exact spares_allocate h (by simp)

@[grind ←] theorem spares_list {items : List Identity} (h : Within P items) : Spares P (list items) :=
  spares_allocate h (by simp)

@[grind ←] theorem spares_builtin (name : String) : Spares P (builtin name) := spares_intern (.builtin name)

@[grind ←] theorem spares_atPlace {place : Place} {run : GuestM α} (hp : Within P place) (h : run.Spares P) :
    Spares P (atPlace place run) := fun _ g hcontext hg => h _ g ⟨hp, hcontext.call⟩ hg

@[grind ←] theorem spares_record (level : Level) (source : Source) (message : String) :
    Spares P (record level source message) :=
  .modify fun _ hg => Guest.changesWithin_of_same hg rfl rfl rfl rfl rfl rfl (.of_same (Nat.le_refl _) rfl rfl rfl) rfl

/-! ### Repeated computations -/

namespace Spares

@[grind ←] protected theorem mapM {f : α → GuestM β} {l : List α} (hl : Within P l)
    (hf : ∀ a, Within P a → (f a).Spares P) : Spares P (l.mapM f) := by
  induction l with
  | nil => exact .pure (by simp)
  | cons a l ih =>
    rw [within_cons] at hl
    rw [List.mapM_cons]
    exact .bind (hf a hl.1) fun b hb => .bind (ih hl.2) fun bs hbs => .pure ((within_cons b bs).mpr ⟨hb, hbs⟩)

@[grind ←] protected theorem mapM_option {f : α → GuestM β} {x : Option α} (hx : Within P x)
    (hf : ∀ a, Within P a → (f a).Spares P) : Spares P (x.mapM f) := by
  cases x with
  | none => exact .pure (by simp)
  | some a => exact .map (hf a ((within_some a).mp hx)) fun b hb => (within_some b).mpr hb

@[grind ←] protected theorem foldlM {f : β → α → GuestM β} {l : List α} {b : β} (hl : Within P l) (hb : Within P b)
    (hf : ∀ b a, Within P b → Within P a → (f b a).Spares P) : Spares P (l.foldlM f b) := by
  induction l generalizing b with
  | nil => exact .pure hb
  | cons a l ih =>
    rw [within_cons] at hl
    rw [List.foldlM_cons]
    exact .bind (hf b a hb hl.1) fun b hb => ih hl.2 hb

@[grind ←] protected theorem filterM {f : α → GuestM Bool} {l : List α} (hl : Within P l)
    (hf : ∀ a, Within P a → (f a).Spares P) : Spares P (l.filterM f) := by
  suffices h : ∀ acc : List α, Within P acc → Spares P (l.filterAuxM f acc) by
    rw [List.filterM]
    exact .bind (h [] (by simp)) fun l hl => .pure fun a ha => hl a (List.mem_reverse.mp ha)
  intro acc hacc
  induction l generalizing acc with
  | nil => exact .pure hacc
  | cons a l ih =>
    rw [within_cons] at hl
    rw [List.filterAuxM]
    refine .bind (hf a hl.1) fun b _ => ih hl.2 _ ?_
    cases b
    · exact hacc
    · exact (within_cons a acc).mpr ⟨hl.1, hacc⟩

@[grind ←] protected theorem anyM {f : α → GuestM Bool} {l : List α} (hl : Within P l)
    (hf : ∀ a, Within P a → (f a).Spares P) : Spares P (l.anyM f) := by
  induction l with
  | nil => exact .pure trivial
  | cons a l ih =>
    rw [within_cons] at hl
    rw [List.anyM]
    refine .bind (hf a hl.1) fun b _ => ?_
    cases b
    · exact ih hl.2
    · exact .pure trivial

@[grind ←] protected theorem findSomeM? {f : α → GuestM (Option β)} {l : List α} (hl : Within P l)
    (hf : ∀ a, Within P a → (f a).Spares P) : Spares P (l.findSomeM? f) := by
  induction l with
  | nil => exact .pure (by simp)
  | cons a l ih =>
    rw [within_cons] at hl
    rw [List.findSomeM?]
    refine .bind (hf a hl.1) fun b hb => ?_
    cases b
    · exact ih hl.2
    · exact .pure hb

@[grind ←] protected theorem forM {f : α → GuestM PUnit} {l : List α} (hl : Within P l)
    (hf : ∀ a, Within P a → (f a).Spares P) : Spares P (l.forM f) := by
  induction l with
  | nil => exact .pure trivial
  | cons a l ih =>
    rw [within_cons] at hl
    exact .bind (hf a hl.1) fun _ _ => ih hl.2

@[grind ←] protected theorem forIn {f : α → β → GuestM (ForInStep β)} {l : List α} {b : β} (hl : Within P l)
    (hb : Within P b) (hf : ∀ a b, Within P a → Within P b → (f a b).Spares P) : Spares P (forIn l b f) := by
  induction l generalizing b with
  | nil => exact .pure hb
  | cons a l ih =>
    rw [within_cons] at hl
    rw [List.forIn_cons]
    refine .bind (hf a b hl.1 hb) fun step hstep => ?_
    cases step with
    | done b => exact .pure hstep
    | yield b => exact ih hl.2 hstep

end Spares

end GuestM
end ScriptHost
