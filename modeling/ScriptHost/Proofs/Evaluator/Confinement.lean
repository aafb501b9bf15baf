import ScriptHost.Proofs.Evaluator.Course
import ScriptHost.Proofs.Reach.Conversion

/-! What an evaluation stays within: a set of objects in which no object refers to one outside, if the session's names
lead to nothing outside either. Of the namespace of the session, which may be outside itself, nothing but the entries
for handles changes. -/
namespace ScriptHost
open Stepping

variable {P : Identity → Prop} {α β : Type} [Refers α] [Refers β] {n : Identity} {g g' : Guest}

instance : Refers Scope := ⟨fun P scope => P scope.globals⟩

@[simp] theorem within_scope (scope : Scope) : Within P scope ↔ P scope.globals := .rfl

instance : Inert EvalError := ⟨⟩

instance : Refers Stage := ⟨fun P stage => Within P stage.scope ∧ Within P stage.output⟩

@[simp] theorem within_stage (stage : Stage) :
    Within P stage ↔ Within P stage.scope ∧ Within P stage.output := .rfl

/-- The converters of both directions spare what is outside of a set. -/
structure ConverterTable.Fair (P : Identity → Prop) (table : ConverterTable) : Prop where
  inbound : Inbound.Fair P table.inbound
  outbound : Outbound.Fair P table.outbound

/-! ### The journal -/

namespace Guest

/-- What is in the journal is no object. -/
theorem KeepsTo.journal (h : g.KeepsTo P) (records : Array Record) (events : Array Event) :
    KeepsTo P { g with records, events } where
  classes := h.classes
  default := h.default
  object := h.object
  system := h.system
  builtins := h.builtins
  modules := h.modules
  standardModules := h.standardModules
  constants := h.constants

theorem IsClosed.journal (h : g.IsClosed P) (records : Array Record) (events : Array Event) :
    IsClosed P { g with records, events } := { h.toKeepsTo.journal records events with outside := h.outside }

theorem within_unreported (h : Within P g) : Within P g.unreported := IsClosed.journal h _ _

theorem within_reporting (before : Guest) (h : Within P g) : Within P (before.reporting g) := IsClosed.journal h _ _

theorem IsSound.unreported (h : g.IsSound) : g.unreported.IsSound := fun absent habsent => (h absent habsent).journal _ _

theorem Prints.reported (h : g.unreported.Prints g') : g.Prints (g.reporting g') := by
  obtain ⟨hgrows, strokes, told, hstrokes, htold, hemits⟩ := h
  refine ⟨hgrows, strokes, told, hstrokes, ?_, hemits⟩
  have hevents : g'.outputs = told.map (·.2) := htold
  rw [outputs, reporting, Array.toList_append, List.filter_append, ← hevents, outputs, outputs]

theorem CrossesWithin.reported (h : g.unreported.CrossesWithin P n g') : g.CrossesWithin P n (g.reporting g') where
  closed := within_reporting g h.closed
  kept := h.kept
  object := h.object
  names := h.names
  system := h.system
  builtins := h.builtins
  modules := h.modules
  prints := h.prints.reported

theorem foldl_noted (records : List Record) (g : Guest) : ∃ noted, records.foldl Guest.noted g = { g with records := noted } := by
  induction records generalizing g with
  | nil => exact ⟨g.records, rfl⟩
  | cons r records ih => exact ih (g.noted r)

/-- What goes to the journal and is no line concerns no object. -/
theorem crosses_journal {records : Array Record} {events : Array Event} (h : Within P g) (hkept : Within P (g.entries n))
    (hevents : events.toList.filter Event.isOutput = g.outputs) :
    g.CrossesWithin P n { g with records, events } where
  closed := IsClosed.journal h _ _
  kept := hkept
  object := fun _ _ _ => rfl
  names := fun _ => rfl
  system := rfl
  builtins := rfl
  modules := rfl
  prints := ⟨Nat.le_refl _, [], [], (List.append_nil _).symm, by rw [outputs, hevents, List.map_nil, List.append_nil],
    .nil _⟩

/-- No object of the smallest interpreter refers to its namespace, nor to one that is not there. -/
theorem keepsTo_minimal {P : Identity → Prop} (h : ∀ id, minimal.Holds id → id ≠ minimalNamespace → P id) :
    minimal.KeepsTo P where
  classes := fun id made hmade => by
    obtain ⟨n⟩ := id
    match n with
    | 0 | 1 | 2 | 3 | 4 | 5 | 6 | n + 7 => cases hmade
  default := h _ (by decide) (by decide)
  object := fun id _ => by
    have hkey := h ⟨5⟩ (by decide) (by decide)
    have hstream := h ⟨6⟩ (by decide) (by decide)
    have hsystem := h ⟨0⟩ (by decide) (by decide)
    have hbuiltins := h ⟨2⟩ (by decide) (by decide)
    obtain ⟨n⟩ := id
    match n with
    | 0 => simp [object, minimal, hkey, hstream]
    | 1 => simp [object, minimal, hsystem]
    | 2 => simp [object, minimal]
    | 3 => simp [object, minimal, hbuiltins]
    | 4 => simp [object, minimal]
    | 5 => simp [object, minimal]
    | 6 => simp [object, minimal]
    | n + 7 =>
      have hbeyond : minimal.object ⟨n + 7⟩ = { body := .none } := rfl
      simp [hbeyond]
  system := h _ (by decide) (by decide)
  builtins := h _ (by decide) (by decide)
  modules := h _ (by decide) (by decide)
  standardModules := by
    have hsystem := h ⟨1⟩ (by decide) (by decide)
    have hbuiltins := h ⟨3⟩ (by decide) (by decide)
    simp [minimal, hsystem, hbuiltins]
  constants := fun constant id hid => by simp [minimal] at hid

end Guest

/-! ### Steps of the interpreter -/

namespace GuestM

@[grind ←] theorem spares_resetSearchPath (path : List String) : Spares P (resetSearchPath path) := by
  unfold resetSearchPath
  repeat' first | with_reducible refine .bind ?_ fun _ _ => ?_ | split
  all_goals grind

/-- A writer is put in use when it is made. -/
private theorem spares_install (made : LineWriter) (listeners : Nat) : Spares P (do
    let writer ← allocate (.output made listeners)
    modify fun g => { g with writers := g.writers.insert writer (made, listeners) }
    return writer : GuestM Identity) := fun context g _ hg => by
  have hadded := Guest.changesWithin_adding (o := { body := .output made listeners }) hg (by simp)
  refine .of_ok rfl ⟨Guest.changesWithin_of hg hadded.object hadded.closed.object rfl rfl rfl hg.standardModules
    hg.constants ⟨hadded.prints.grows, [], [], (List.append_nil _).symm, (List.append_nil _).symm, ?_⟩ rfl,
    by simpa using Guest.IsClosed.next hg⟩
  exact .install (Nat.lt_irrefl _) (.nil _)

@[grind ←] theorem spares_redirectOutput (label : String) (listeners : Nat) :
    Spares P (redirectOutput label listeners) := by
  have hrun : redirectOutput label listeners = (do
      let system ← hostImport "sys"
      let previous ← attributeOf system "stdout"
      let writer ← (do
        let writer ← allocate (.output { label } listeners)
        modify fun g => { g with writers := g.writers.insert writer ({ label }, listeners) }
        return writer : GuestM Identity)
      setAttribute system "stdout" writer
      return (previous, writer)) := rfl
  rw [hrun]
  refine .bind (spares_hostImport _) fun system hsystem => .bind (by grind) fun previous hprevious =>
    .bind (spares_install _ _) fun writer hwriter => .bind (by grind) fun _ _ => .pure (by simpa using ⟨hprevious, hwriter⟩)

@[grind ←] theorem spares_restoreOutput {previous : Identity} (writer : Identity) (hprevious : P previous) :
    Spares P (restoreOutput previous writer) := by
  unfold restoreOutput
  refine .bind .get fun g _ => ?_
  split
  · exact .bind (spares_strike _ _ _) fun _ _ => spares_setSystem _ hprevious
  · exact spares_setSystem _ hprevious

end GuestM

/-! ### Scopes -/

namespace Scope
open TransferM
variable {table : ConverterTable} {scope : Scope}

theorem spares_anew {run : TransferM α} (h : run.Spares P) : Spares P (anew run) :=
  .bind (.modify (fun _ => rfl) fun _ => rfl) fun _ _ => h

/-- A scope starts with objects that the namespace of the session holds. -/
theorem spares_make : Spares P make := fun t ht => by
  unfold make
  refine .bind_of_ok (get_run t) (.bind_of_ok (get_run t) ?_)
  have hlayered := within_filter (fun entry => !entry.isHandle t.guest) ht.kept
  refine Spares.bind (.guest (GuestM.spares_allocate hlayered (by simp))) (fun globals hglobals => ?_) t ht
  refine .bind (.guest (GuestM.spares_hostImport _)) fun builtins hbuiltins =>
    .bind (.guest (GuestM.spares_setName _ hglobals hbuiltins)) fun _ _ =>
      .bind (.guest (GuestM.spares_string _)) fun main hmain =>
        .bind (.guest (GuestM.spares_setName _ hglobals hmain)) fun _ _ => .pure hglobals

theorem spares_bind (htable : table.Fair P) (hscope : Within P scope) (name : String) (v : Value) :
    Spares P (bind table scope name v) :=
  spares_anew <| .bind (Inbound.spares_marshalOrPassthrough htable.inbound v) fun _ hobj =>
    .guest (GuestM.spares_setName _ hscope hobj)

theorem spares_bindAll (htable : table.Fair P) (hscope : Within P scope) (pairs : List (String × Value)) :
    Spares P (bindAll table scope pairs) := by
  induction pairs with
  | nil => exact .pure trivial
  | cons pair rest ih => exact .bind (spares_bind htable hscope _ _) fun _ _ => ih

theorem spares_seed (htable : table.Fair P) (hscope : Within P scope) (pairs : List (String × Value)) :
    Spares P (seed table scope pairs) :=
  .bind (spares_bindAll htable hscope pairs) fun _ _ => .pure hscope

theorem spares_execute (hscope : Within P scope) (code : Script) : Spares P (execute scope code) := by
  refine .bind (.attempt (.guest (GuestM.spares_runScript code hscope))) fun answer _ => ?_
  cases answer with
  | ok => exact .pure ⟨by simp, hscope⟩
  | error f => exact .bind (spares_record _ _ _) fun _ _ => .pure ⟨by simp, hscope⟩

theorem spares_get (htable : table.Fair P) (hscope : Within P scope) (name : String) :
    Spares P (get table scope name) := by
  refine .bind .get fun t ht => ?_
  have hfound := Guest.within_lookup ht.guest hscope (.ofString name)
  split
  · next obj hobj =>
    exact .map (spares_anew (Outbound.spares_marshalOrHandle htable.outbound (hfound obj hobj))) fun v _ => by simp
  · exact .pure (by simp)

theorem spares_read (htable : table.Fair P) (hscope : Within P scope) (name : String) :
    Spares P (read table scope name) := by
  unfold read
  split
  · exact .pure ⟨by simp, hscope⟩
  · exact .bind (spares_get htable hscope name) fun v _ => .pure ⟨by simp, hscope⟩

end Scope

/-! ### Worlds -/

/-- An evaluator but for the counts of its handles. -/
def Evaluator.uncounted (e : Evaluator) : Evaluator :=
  { e with runtime := e.runtime.map fun runtime => { runtime with counts := ∅ } }

/-- A world goes on: its interpreter stays within a set, and its evaluators count handles and do nothing else. -/
structure World.CrossesWithin (P : Identity → Prop) (n : Identity) (w w' : World) : Prop where
  guest : w.guest.CrossesWithin P n w'.guest
  evaluators : w'.evaluators.map Evaluator.uncounted = w.evaluators.map Evaluator.uncounted
  held : w'.held = w.held

namespace World.CrossesWithin
variable {w w' w'' : World}

theorem refl (h : Within P w.guest) (hkept : Within P (w.guest.entries n)) : w.CrossesWithin P n w :=
  ⟨.refl h hkept, rfl, rfl⟩

theorem trans (h : w.CrossesWithin P n w') (h' : w'.CrossesWithin P n w'') : w.CrossesWithin P n w'' :=
  ⟨h.guest.trans h'.guest, h'.evaluators.trans h.evaluators, h'.held.trans h.held⟩

end World.CrossesWithin

namespace WorldM
variable {γ : Type} {i : Nat} {runtime : Runtime} {e : Evaluator} {scope : Scope} {w w' : World}

theorem uncounted_keepCounts (evaluators : Array Evaluator) (i : Nat) (counts : Counts) :
    (keepCounts evaluators i counts).map Evaluator.uncounted = evaluators.map Evaluator.uncounted := by
  refine Array.ext_getElem? fun j => ?_
  rw [keepCounts, Array.getElem?_map, Array.getElem?_map, Array.getElem?_modify]
  split
  · cases evaluators[j]? with
    | none => rfl
    | some e => simp [Evaluator.uncounted, Function.comp_def]
  · rfl

/-- A computation inside the lock that spares what is outside of a set, and answers with nothing from there. -/
def Spares (P : Identity → Prop) (n : Identity) (run : WorldM α) : Prop :=
  ∀ w, w.held = true → Within P w.guest → Within P (w.guest.entries n) →
    w.CrossesWithin P n (run w).2 ∧ Within P (run w).1

namespace Spares

protected theorem pure {a : α} (ha : Within P a) : Spares P n (Pure.pure a) := fun _ _ h hkept => ⟨.refl h hkept, ha⟩

protected theorem bind {m : WorldM α} {f : α → WorldM β} (h : m.Spares P n) (hf : ∀ a, Within P a → (f a).Spares P n) :
    Spares P n (m >>= f) := fun w hheld hw hkept => by
  obtain ⟨hm, ha⟩ := h w hheld hw hkept
  obtain ⟨hrest, hb⟩ := hf _ ha (m w).2 (hm.held.trans hheld) hm.guest.closed hm.guest.kept
  exact ⟨hm.trans hrest, hb⟩

protected theorem discard {m : WorldM α} (h : m.Spares P n) : Spares P n (discard m) := fun w hheld hw hkept =>
  ⟨(h w hheld hw hkept).1, trivial⟩

/-- What goes to the journal and is no line is nothing else. -/
protected theorem journal {run : WorldM α} (h : ∀ w, w.held = true → ∃ records events, (run w).2 =
    { w with guest := { w.guest with records, events } } ∧ events.toList.filter Event.isOutput = w.guest.outputs)
    (hanswer : ∀ w, Within P (run w).1) : Spares P n run := fun w hheld hw hkept => by
  obtain ⟨records, events, hrun, hevents⟩ := h w hheld
  rw [hrun]
  exact ⟨⟨Guest.crosses_journal hw hkept hevents, rfl, rfl⟩, hanswer w⟩

protected theorem record (level : Level) (source : Source) (message : String) :
    Spares P n (record level source message) :=
  .journal (fun w _ => ⟨_, w.guest.events, rfl, rfl⟩) fun _ => trivial

protected theorem notify {event : Event} (h : event.isOutput = false) : Spares P n (notify event) :=
  .journal (fun w _ => ⟨w.guest.records, w.guest.events.push event, rfl, by simp [Guest.outputs, h]⟩) fun _ => trivial

/-- What hooks call is refused. -/
protected theorem carryOut (depth place : Nat) (requests : List Request) :
    Spares P n (carryOut (issue depth) place requests) := by
  refine .journal (fun w hheld => ?_) fun _ => trivial
  unfold carryOut
  split
  · exact ⟨w.guest.records, w.guest.events, rfl, rfl⟩
  · obtain ⟨records, hrun⟩ := OnlyRecords.mapM requests (onlyRecords_issue depth) w hheld
    refine ⟨records, w.guest.events.push (.reentered place w.held (requests.mapM (issue depth) w).1), ?_, ?_⟩
    · rw [bind_run, get_run, bind_run, hrun]
      rfl
    · simp [Guest.outputs, Event.isOutput]

protected theorem guest {run : GuestM α} (h : run.Spares P) : Spares P n (guest run) := fun w hheld hw hkept => by
  have hended := GuestM.atTop_spares h (Guest.within_unreported hw)
  rw [guest_run]
  cases hrun : GuestM.atTop run w.guest.unreported with
  | ok a g =>
    obtain ⟨hchanges, ha⟩ := hended.at_ok hrun
    exact ⟨⟨(hchanges.crosses hkept).reported, rfl, rfl⟩, ha⟩
  | error f g =>
    obtain ⟨hchanges, ha⟩ := hended.at_error hrun
    exact ⟨⟨(hchanges.crosses hkept).reported, rfl, rfl⟩, by simp⟩

protected theorem cross {run : TransferM α} (h : run.Spares P) (i : Nat) (runtime : Runtime) :
    Spares P runtime.namespaceDict (cross i runtime run) := fun w hheld hw hkept => by
  have hcrossing : Within P (w.crossing i runtime) := ⟨Guest.within_unreported hw, hkept⟩
  have hended := h _ hcrossing
  rw [cross_run]
  cases hrun : run (w.crossing i runtime) with
  | ok a t =>
    obtain ⟨hcrosses, ha⟩ := hended.at_ok hrun
    exact ⟨⟨hcrosses.guest.reported, uncounted_keepCounts _ _ _, rfl⟩, ha⟩
  | error f t =>
    obtain ⟨hcrosses, ha⟩ := hended.at_error hrun
    exact ⟨⟨hcrosses.guest.reported, uncounted_keepCounts _ _ _, rfl⟩, by simp⟩

end Spares

/-! ### An evaluation -/

theorem spares_resetPath (e : Evaluator) (runtime : Runtime) : Spares P n (resetPath e runtime) := by
  unfold resetPath
  split
  · exact .guest (GuestM.spares_resetSearchPath _)
  · exact .pure (by simp)

section
variable (htable : e.converters.Fair P)
include htable

theorem spares_prepare (i : Nat) (runtime : Runtime) (bindings : Bindings) :
    Spares P runtime.namespaceDict (prepare i runtime e bindings) := by
  unfold prepare
  refine .bind (spares_resetPath e runtime) fun reset _ => ?_
  cases reset with
  | error f => exact .pure (by simp)
  | ok =>
    refine .bind (.cross Scope.spares_make i runtime) fun made hmade => ?_
    cases made with
    | error f => exact .pure (by simp)
    | ok scope =>
      have hscope := (within_ok scope).mp hmade
      refine .bind (.cross (Scope.spares_seed htable hscope _) i runtime) fun seeded hseeded => ?_
      cases seeded with
      | error f => exact .pure (by simp)
      | ok scope =>
        have hscope := (within_ok scope).mp hseeded
        dsimp only
        split
        · refine .bind (.guest (GuestM.spares_redirectOutput _ _)) fun output houtput => ?_
          cases output with
          | error f => exact .pure (by simp)
          | ok output => exact .pure (by simpa using ⟨hscope, (within_ok output).mp houtput⟩)
        · exact .pure (by simpa using hscope)

variable (hscope : Within P scope)
include hscope

theorem spares_notifyStarted (depth i : Nat) (runtime : Runtime) (values : List Value) (hooks : List (Nat × Hook)) :
    Spares P runtime.namespaceDict (notifyStarted (issue depth) i runtime e.converters scope values hooks) := by
  induction hooks with
  | nil => exact .pure trivial
  | cons hook rest ih =>
    exact .bind (.notify rfl) fun _ _ =>
      .bind (.discard (.cross (Scope.spares_bindAll htable hscope _) i runtime)) fun _ _ =>
        .bind (.carryOut _ _ _) fun _ _ => ih

theorem spares_readings (names : List String) : TransferM.Spares P (readings e.converters scope names) := by
  induction names with
  | nil => exact .pure (by simp)
  | cons name names ih =>
    exact .bind (Scope.spares_get htable hscope name) fun v _ => .bind ih fun found _ => .pure (by simp)

theorem spares_notifyFinished (depth i : Nat) (runtime : Runtime) (outcome : Outcome) (values : List Value)
    (hooks : List (Nat × Hook)) : Spares P runtime.namespaceDict
      (notifyFinished (issue depth) i runtime e.converters scope outcome values hooks) := by
  induction hooks with
  | nil => exact .pure trivial
  | cons hook rest ih =>
    unfold notifyFinished
    refine .bind (.cross (spares_readings htable hscope _) i runtime) fun found _ => ?_
    exact .bind (.notify rfl) fun _ _ => .bind (.carryOut _ _ _) fun _ _ => ih

theorem spares_runIn (i : Nat) (runtime : Runtime) (code : Script) (output : String) :
    Spares P runtime.namespaceDict (runIn i runtime e.converters scope code output) := by
  unfold runIn
  refine .bind (.cross (.bind (Scope.spares_execute hscope code) fun executed hexecuted => ?_) i runtime)
    fun answer hanswer => ?_
  · obtain ⟨answer, scope⟩ := executed
    have hscope : Within P scope := hexecuted.2
    cases answer with
    | error err => exact .pure ⟨by simp, hscope⟩
    | ok => exact .bind (Scope.spares_read htable hscope output) fun found hfound => .pure ⟨by simp, hfound.2⟩
  · cases answer with
    | ok answer => exact .pure ((within_ok answer).mp hanswer)
    | error f => exact .pure ⟨by simp, hscope⟩

theorem spares_conclude (depth i : Nat) (runtime : Runtime) (code : Script) (bindings : Bindings) :
    Spares P runtime.namespaceDict (conclude (issue depth) i runtime e scope code bindings) := by
  unfold conclude
  refine .bind (spares_runIn htable hscope i runtime code _) fun ⟨answer, scope⟩ hanswer => ?_
  have hscope : Within P scope := hanswer.2
  refine .bind (spares_notifyFinished htable hscope depth i runtime _ _ _) fun _ _ => ?_
  cases answer with
  | ok v => exact .pure (by simp)
  | error err => exact .bind (.record _ _ _) fun _ _ => .pure (by simp)

end

theorem spares_restore {output : Option (Identity × Identity)} (h : Within P output) : Spares P n (restore output) := by
  cases output with
  | none => exact .pure trivial
  | some pair => exact .discard (.guest (GuestM.spares_restoreOutput _ ((within_some pair).mp h).1))

theorem spares_begin (htable : e.converters.Fair P) (depth i : Nat) (runtime : Runtime) (bindings : Bindings) :
    Spares P runtime.namespaceDict (begin (issue depth) i runtime e bindings) := by
  unfold begin
  refine .bind (.record _ _ _) fun _ _ => .bind (spares_prepare htable i runtime bindings) fun prepared hprepared => ?_
  cases prepared with
  | error failure => exact .pure (by simp)
  | ok stage =>
    have hstage := (within_stage stage).mp ((within_ok stage).mp hprepared)
    exact .bind (spares_notifyStarted htable hstage.1 depth i runtime _ _) fun _ _ => .pure (by simpa using hstage)

theorem spares_evaluateIn (htable : e.converters.Fair P) (depth i : Nat) (runtime : Runtime) (code : Script)
    (bindings : Bindings) : Spares P runtime.namespaceDict (evaluateIn (issue depth) i runtime e code bindings) := by
  unfold evaluateIn
  refine .bind (spares_begin htable depth i runtime bindings) fun begun hbegun => ?_
  cases begun with
  | error failure => exact .bind (.record _ _ _) fun _ _ => .pure (by simp)
  | ok stage =>
    have hstage := (within_stage stage).mp ((within_ok stage).mp hbegun)
    exact .bind (spares_conclude htable hstage.1 depth i runtime code bindings) fun answer _ =>
      .bind (spares_restore hstage.2) fun _ _ => .pure (by simp)

/-- Where the session's names lead to nothing outside of a set, an evaluation changes nothing outside but the entries for
handles, and evaluators go on as they are but for their counts. -/
theorem evaluate_crosses (hstarted : (w.evaluator i).runtime = some runtime) (htable : (w.evaluator i).converters.Fair P)
    (hw : Within P w.guest) (hkept : Within P (w.guest.entries runtime.namespaceDict)) (code : Script)
    (names : List String) (values : List Value) :
    w.CrossesWithin P runtime.namespaceDict (evaluate i code names values w).2 := by
  cases hheld : w.held with
  | true =>
    obtain ⟨records, hrun⟩ := onlyRecords_evaluateUsing (issue requestDepth) i code names values w hheld
    unfold evaluate
    rw [hrun]
    have hevents : w.guest.events.toList.filter Event.isOutput = w.guest.outputs := rfl
    exact ⟨Guest.crosses_journal hw hkept hevents, rfl, rfl⟩
  | false =>
    rcases hbindings : Bindings.ofArguments (w.evaluator i).config names values with ⟨bindings, records⟩
    let inside : World := { w with guest := records.foldl Guest.noted w.guest, held := true }
    have hinside : w.guest.CrossesWithin P runtime.namespaceDict inside.guest := by
      obtain ⟨noted, hnoted⟩ := Guest.foldl_noted records w.guest
      rw [show inside.guest = _ from hnoted]
      have hevents : w.guest.events.toList.filter Event.isOutput = w.guest.outputs := rfl
      exact Guest.crosses_journal hw hkept hevents
    obtain ⟨hcrosses, -⟩ := spares_evaluateIn htable requestDepth i runtime code bindings inside rfl hinside.closed
      hinside.kept
    rw [evaluate_inside hheld hbindings]
    simp only [bind_run]
    rw [ensureStarted_run (w := { w with guest := records.foldl Guest.noted w.guest, held := true }) hstarted]
    exact ⟨hinside.trans hcrosses.guest, hcrosses.evaluators, hheld.symm⟩

end WorldM
end ScriptHost
