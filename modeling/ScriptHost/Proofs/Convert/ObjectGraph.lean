import ScriptHost.Convert.Outbound
import ScriptHost.Proofs.Handle.Registry

/-! Graphs of objects as a conversion meets them: what it relies on in the interpreter while it goes from
object to object, in whatever order and whether or not a step raises. -/
namespace ScriptHost
variable {n : Identity}

/-- A computation that leads to a later state, leaves the kept names alone, and answers as it should
if it does not raise. -/
def Custody.Calm {α : Type} (K : Custody n) (g : Guest) (run : GuestM α) (answer : Guest → α → Prop) : Prop :=
  Ends (GuestM.atTop run) g fun r g' => K.later g g' ∧
    (∀ name, K.kept name → g'.lookup n name = g.lookup n name) ∧ ∀ a, r = .ok a → answer g' a

/-- What the converters that every table starts with choose for an object. -/
def Outbound.chosen? (g : Guest) (id : Identity) : Option OutboundConversion :=
  (resolve standard g id).map (·.conversion)

/-- Objects, entries of mappings and iterations that lead to nothing but each other. Only the registry changes the
namespace, so no step from one to the next touches a kept name. -/
structure ObjectGraph (n : Identity) extends Custody n where
  object : Guest → Identity → Prop
  entry : Guest → MappingItem → Prop
  iteration : Guest → Cursor → Prop
  object_later : ∀ {g g' id}, later g g' → object g id → object g' id
  entry_later : ∀ {g g' item}, later g g' → entry g item → entry g' item
  mark : ∀ {g id}, state g → object g id → toCustody.Calm g (GuestM.askForMark id) fun _ _ => True
  mappingItems : ∀ {g g' id}, state g → object g id → Outbound.chosen? g id = some .mapping → later g g' →
    toCustody.Calm g' (GuestM.mappingItems id) fun g items => ∀ item ∈ items, entry g item
  pair : ∀ {g item}, state g → entry g item →
    toCustody.Calm g (GuestM.pairOf item) fun g p => object g p.1 ∧ object g p.2
  cursor : ∀ {g g' id}, state g → object g id → Outbound.chosen? g id = some .iterable → later g g' →
    toCustody.Calm g' (GuestM.cursor id) iteration
  advance : ∀ {g g' c}, state g → iteration g c → later g g' →
    toCustody.Calm g' (GuestM.advance c) fun g step =>
      ∀ item c', step = some (item, c') → object g item ∧ iteration g c'
  unwrap : ∀ {g g' id}, state g → object g id → Outbound.chosen? g id = none → later g g' →
    toCustody.Calm g' (GuestM.unwrap id) fun g bottom => ∀ next, bottom = .other next → object g next

private theorem calm_trivially {α : Type} {K : Custody n} (hlater : ∀ g g', K.later g g')
    (hkept : ∀ name, ¬ K.kept name) (g : Guest) (run : GuestM α) {answer : Guest → α → Prop}
    (hanswer : ∀ g a, answer g a) : K.Calm g run answer := by
  unfold Custody.Calm Ends
  split <;> exact ⟨hlater _ _, fun name h => absurd h (hkept name), fun a _ => hanswer _ a⟩

namespace ObjectGraph

/-- All objects and all iterations, where no name is kept. -/
def everything (n : Identity) : ObjectGraph n where
  state _ := True
  later _ _ := True
  kept _ := False
  refl _ := trivial
  trans _ _ := trivial
  state_later _ _ := trivial
  holds _ h := h.elim
  noted _ _ := trivial
  parked _ _ := trivial
  dropped _ _ := trivial
  object _ _ := True
  entry _ _ := True
  iteration _ _ := True
  object_later _ _ := trivial
  entry_later _ _ := trivial
  mark {g _} _ _ := calm_trivially (fun _ _ => trivial) (fun _ h => h) g _ fun _ _ => trivial
  mappingItems {_ g _} _ _ _ _ := calm_trivially (fun _ _ => trivial) (fun _ h => h) g _
    fun _ _ _ _ => trivial
  pair {g _} _ _ := calm_trivially (fun _ _ => trivial) (fun _ h => h) g _ fun _ _ => ⟨trivial, trivial⟩
  cursor {_ g _} _ _ _ _ := calm_trivially (fun _ _ => trivial) (fun _ h => h) g _ fun _ _ => trivial
  advance {_ g _} _ _ _ := calm_trivially (fun _ _ => trivial) (fun _ h => h) g _
    fun _ _ _ _ _ => ⟨trivial, trivial⟩
  unwrap {_ g _} _ _ _ _ := calm_trivially (fun _ _ => trivial) (fun _ h => h) g _ fun _ _ _ _ => trivial

/-- Where no name is kept, every computation leaves the kept names alone. -/
theorem calm_everything {α : Type} (g : Guest) (run : GuestM α) :
    (everything n).Calm g run fun _ _ => True :=
  calm_trivially (fun _ _ => trivial) (fun _ h => h) g run fun _ _ => trivial

end ObjectGraph

/-- A user's conversion, from a state on, that takes up nothing but objects of a graph and runs the
interpreter without a change to the kept names. -/
inductive OutboundPlan.Within (G : ObjectGraph n) : Guest → OutboundPlan → Prop
  | done (g : Guest) (v : Value) : Within G g (.done v)
  | fail (g : Guest) (f : Fault) : Within G g (.fail f)
  | look {g : Guest} {next : Guest → OutboundPlan} (h : Within G g (next g)) : Within G g (.look next)
  | compute {g : Guest} {run : GuestM Identity} {next : Except Fault Identity → OutboundPlan}
    {answer : Guest → Identity → Prop} (hrun : G.Calm g run answer)
    (h : ∀ g' r, G.later g g' → (∀ id, r = .ok id → answer g' id) → Within G g' (next r)) :
    Within G g (.compute run next)
  | iterate {g : Guest} {id : Identity} {next : Except Fault Cursor → OutboundPlan}
    {answer : Guest → Cursor → Prop} (hrun : G.Calm g (GuestM.cursor id) answer)
    (h : ∀ g' r, G.later g g' → (∀ c, r = .ok c → answer g' c) → Within G g' (next r)) :
    Within G g (.iterate id next)
  | advance {g : Guest} {c : Cursor} {next : Except Fault (Option (Identity × Cursor)) → OutboundPlan}
    {answer : Guest → Option (Identity × Cursor) → Prop} (hrun : G.Calm g (GuestM.advance c) answer)
    (h : ∀ g' r, G.later g g' → (∀ step, r = .ok step → answer g' step) → Within G g' (next r)) :
    Within G g (.advance c next)
  | marshal {g : Guest} {id : Identity} {next : Except Fault Value → OutboundPlan} (hid : G.object g id)
    (h : ∀ g' r, G.later g g' → Within G g' (next r)) : Within G g (.marshal id next)
  | marshalOrHandle {g : Guest} {id : Identity} {next : Value → OutboundPlan} (hid : G.object g id)
    (h : ∀ g' v, G.later g g' → Within G g' (next v)) : Within G g (.marshalOrHandle id next)
  | handleFor {g : Guest} {id : Identity} {next : Value → OutboundPlan}
    (h : ∀ g' v, G.later g g' → Within G g' (next v)) : Within G g (.handleFor id next)
  | handleCount {g : Guest} {next : Nat → OutboundPlan} (h : ∀ k, Within G g (next k)) :
    Within G g (.handleCount next)

theorem OutboundPlan.within_everything (plan : OutboundPlan) (g : Guest) :
    plan.Within (ObjectGraph.everything n) g := by
  induction plan generalizing g with
  | done v => exact .done g v
  | fail f => exact .fail g f
  | look next ih => exact .look (ih g g)
  | compute run next ih =>
    exact .compute (ObjectGraph.calm_everything g _) fun g' r _ _ => ih r g'
  | iterate id next ih =>
    exact .iterate (ObjectGraph.calm_everything g _) fun g' r _ _ => ih r g'
  | advance c next ih =>
    exact .advance (ObjectGraph.calm_everything g _) fun g' r _ _ => ih r g'
  | marshal id next ih => exact .marshal trivial fun g' r _ => ih r g'
  | marshalOrHandle id next ih => exact .marshalOrHandle trivial fun g' v _ => ih v g'
  | handleFor id next ih => exact .handleFor fun g' v _ => ih v g'
  | handleCount next ih => exact .handleCount fun k => ih k g

/-! ### Tables -/

/-- Whether a conversion is a user's. -/
def OutboundConversion.isCustom : OutboundConversion → Bool
  | .custom _ => true
  | _ => false

/-- What a table holds once a converter is registered. -/
theorem Converter.mem_insert {Guard Conversion : Type} {c d : Converter Guard Conversion}
    {list : List (Converter Guard Conversion)} : d ∈ c.insert list ↔ d = c ∨ d ∈ list := by
  induction list with
  | nil => simp [insert]
  | cons first rest ih =>
    rw [insert]
    split
    · rw [List.mem_cons]
    · simp only [List.mem_cons, ih, or_left_comm]

namespace Outbound
variable {converters : List OutboundConverter} {c : OutboundConverter} {g : Guest} {id : Identity}

/-- A table of the built-in converters, in their order, with conversions of users anywhere among them. -/
def Extends (converters : List OutboundConverter) : Prop :=
  converters.filter (fun c => !c.conversion.isCustom) = standard

theorem extends_standard : Extends standard := rfl

/-- To register a user's conversion, of whatever priority, extends a table. -/
theorem Extends.insert (h : Extends converters) (hc : c.conversion.isCustom = true) :
    Extends (c.insert converters) := by
  unfold Extends at h ⊢
  rw [← h]
  clear h
  induction converters with
  | nil => simp [Converter.insert, hc]
  | cons d rest ih =>
    rw [Converter.insert]
    split
    · simp [List.filter_cons, hc]
    · simp only [List.filter_cons, ih]

theorem Extends.known (h : Extends converters) (hc : c ∈ converters) :
    c ∈ standard ∨ ∃ plan, c.conversion = .custom plan := by
  cases hconversion : c.conversion with
  | custom plan => exact .inr ⟨plan, rfl⟩
  | _ =>
    left
    rw [← h]
    exact List.mem_filter.mpr ⟨hc, by simp [hconversion, OutboundConversion.isCustom]⟩

/-- The built-in converter that a table chooses is the one that the built-in ones choose by themselves. -/
theorem Extends.chosen?_of_resolve (h : Extends converters) (hfound : resolve converters g id = some c)
    (hc : c.conversion.isCustom = false) : chosen? g id = some c.conversion := by
  unfold chosen? resolve at *
  rw [← h, List.find?_filter]
  obtain ⟨hguard, before, after, rfl, hbefore⟩ := List.find?_eq_some_iff_append.mp hfound
  rw [List.find?_append, List.find?_eq_none.mpr, Option.none_or, List.find?_cons]
  · simp [hc, hguard]
  · intro d hd
    simpa using fun _ => hbefore d hd

theorem Extends.chosen?_of_unresolved (h : Extends converters) (hfound : resolve converters g id = none) :
    chosen? g id = none := by
  unfold chosen? resolve at *
  rw [← h, List.find?_filter, List.find?_eq_none.mpr, Option.map_none]
  intro d hd
  simpa using fun _ => List.find?_eq_none.mp hfound d hd

end Outbound

namespace ObjectGraph

/-- Whether the conversions that users added to the built-in ones keep to a graph, on the objects that
they accept. -/
structure Admits (G : ObjectGraph n) (converters : List OutboundConverter) : Prop where
  extends_standard : Outbound.Extends converters
  within : ∀ c ∈ converters, ∀ plan, c.conversion = .custom plan → ∀ g g' id, G.state g →
    G.object g id → c.guard g id = true → G.later g g' → (plan id).Within G g'

theorem admits_standard (G : ObjectGraph n) : G.Admits Outbound.standard where
  extends_standard := Outbound.extends_standard
  within c hc plan hplan := by
    simp only [Outbound.standard, List.mem_cons, List.not_mem_nil, or_false] at hc
    rcases hc with rfl | rfl | rfl | rfl | rfl <;> cases hplan

/-- To register a conversion that keeps to a graph keeps the table to it. -/
theorem Admits.insert {G : ObjectGraph n} {converters : List OutboundConverter} {c : OutboundConverter}
    {plan : Identity → OutboundPlan} (h : G.Admits converters) (hc : c.conversion = .custom plan)
    (hplan : ∀ g g' id, G.state g → G.object g id → c.guard g id = true → G.later g g' → (plan id).Within G g') :
    G.Admits (c.insert converters) where
  extends_standard := h.extends_standard.insert (by rw [hc]; rfl)
  within d hd plan' hplan' := by
    rcases Converter.mem_insert.mp hd with rfl | hd
    · obtain rfl : plan = plan' := by rwa [hc, OutboundConversion.custom.injEq] at hplan'
      exact hplan
    · exact h.within d hd plan' hplan'

theorem everything_admits {converters : List OutboundConverter} (h : Outbound.Extends converters) :
    (everything n).Admits converters where
  extends_standard := h
  within _ _ plan _ _ g' id _ _ _ _ := (plan id).within_everything g'

end ObjectGraph
end ScriptHost
