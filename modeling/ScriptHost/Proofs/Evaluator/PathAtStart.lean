import ScriptHost.Proofs.Evaluator.Ending
import ScriptHost.Proofs.Evaluator.SearchPath
import ScriptHost.Proofs.Evaluator.Staging
import ScriptHost.Proofs.Evaluator.Starting

/-! The search path that a script starts with: whatever scripts have done to it before, each call of an evaluator puts
its own back, and nothing between that and the script's first statement changes it but the conversion of a value. -/
namespace ScriptHost
open Stepping

namespace Guest
variable {path : List String} {redirects : Bool} {globals : Identity} {g g' : Guest}

/-- An interpreter in which a script is about to run in a namespace: the search path is in its place, and so is the
standard output where that is to be redirected. -/
structure HasStage (g : Guest) (path : List String) (redirects : Bool) (globals : Identity) : Prop
    extends g.HasPath path where
  output : redirects = true → (g.lookup g.system (.ofString "stdout")).isSome
  scope : g.Holds globals ∧ g.isDict globals = true
  apart : globals ≠ g.system

theorem HasStage.kept (hg : g.HasStage path redirects globals) (h : g.Proceeds (fun _ => False) g') :
    g'.HasStage path redirects globals where
  toHasPath := hg.toHasPath.kept h
  output hredirects := by
    rw [h.system, h.lookup_eq hg.system.1 id]
    exact hg.output hredirects
  scope := ⟨h.holds hg.scope.1, h.dict _ hg.scope.1 hg.scope.2⟩
  apart := by
    rw [h.system]
    exact hg.apart

/-- Names of the namespace are bound. -/
theorem HasStage.bound (hg : g.HasStage path redirects globals) (h : g.Proceeds (· = globals) g') :
    g'.HasStage path redirects globals where
  toHasPath := hg.toHasPath.written h hg.scope.2 hg.apart
  output hredirects := by
    rw [h.system, h.lookup_eq hg.system.1 (Ne.symm hg.apart)]
    exact hg.output hredirects
  scope := ⟨h.holds hg.scope.1, h.dict _ hg.scope.1 hg.scope.2⟩
  apart := by
    rw [h.system]
    exact hg.apart

/-- Another standard output takes its place. -/
theorem HasStage.redirected (hg : g.HasStage path redirects globals) (h : g.Proceeds (· = g.system) g')
    (hstdout : g'.stdout.isSome)
    (hkept : g'.lookup g.system (.ofString "path") = g.lookup g.system (.ofString "path")) :
    g'.HasStage path redirects globals where
  toHasPath := hg.toHasPath.proceeds h (fun id hid => hid ▸ hg.system.2) hkept
  output _ := hstdout
  scope := ⟨h.holds hg.scope.1, h.dict _ hg.scope.1 hg.scope.2⟩
  apart := by
    rw [h.system]
    exact hg.apart

end Guest

/-! ### The conversions of a call -/

/-- The conversions that are made while names are bound in a scope, each with the state that it begins in. -/
inductive Scope.Converts (table : ConverterTable) (scope : Scope) :
    List (String × Value) → Transfer → Value → Transfer → Prop
  | first {name : String} {v : Value} {rest : List (String × Value)} {t : Transfer} :
    Converts table scope ((name, v) :: rest) t v { t with active := [], acquired := #[] }
  | later {name : String} {v v' : Value} {rest : List (String × Value)} {t t' begun : Transfer}
    (hbound : bind table scope name v t = .ok ⟨⟩ t') (h : Converts table scope rest t' v' begun) :
    Converts table scope ((name, v) :: rest) t v' begun

/-- The conversions that are made while hooks are notified of a script. -/
inductive WorldM.Injects (i : Nat) (runtime : Runtime) (table : ConverterTable) (scope : Scope) (values : List Value) :
    List (Nat × Hook) → World → Value → Transfer → Prop
  | first {place : Nat} {hook : Hook} {rest : List (Nat × Hook)} {w : World} {v : Value} {begun : Transfer}
    (h : Scope.Converts table scope hook.inject ((notify (.started place values) w).2.crossing i runtime) v begun) :
    Injects i runtime table scope values ((place, hook) :: rest) w v begun
  | later {hook : Nat × Hook} {rest : List (Nat × Hook)} {w : World} {v : Value} {begun : Transfer}
    (h : Injects i runtime table scope values rest
      (notifyStarted (issue requestDepth) i runtime table scope values [hook] w).2 v begun) :
    Injects i runtime table scope values (hook :: rest) w v begun

namespace World

/-- The bindings of a call, and the world that it begins with inside the lock. -/
def opened (w : World) (i : Nat) (names : List String) (values : List Value) : Bindings × World :=
  let (bindings, records) := Bindings.ofArguments (w.evaluator i).config names values
  (bindings, { w with guest := records.foldl Guest.noted w.guest, held := true })

/-- The world in which a call puts the search path back, with what the interpreter was started with. -/
def announced (w : World) (i : Nat) (names : List String) (values : List Value) : Except Fault Runtime × World :=
  let (bindings, w) := w.opened i names values
  let (answer, w) := WorldM.ensureStarted i w
  (answer, (WorldM.record .debug .evaluator ("[Evaluator] Evaluating for " ++ bindings.label ++ " with " ++
    toString bindings.pairs.length ++ " binding(s)") w).2)

/-- The conversions that a call makes before its script runs, each with the namespace of the script and the state that
it begins in: those of the values of the call, then those of what hooks inject. -/
inductive Converts (w : World) (i : Nat) (names : List String) (values : List Value) :
    Identity → Value → Transfer → Prop
  | binding {runtime : Runtime} {w₁ w₂ w₃ : World} {scope : Scope} {v : Value} {begun : Transfer}
    (hstart : w.announced i names values = (.ok runtime, w₁))
    (hreset : WorldM.resetPath (w.evaluator i) runtime w₁ = (.ok ⟨⟩, w₂))
    (hmake : WorldM.cross i runtime Scope.make w₂ = (.ok scope, w₃))
    (h : Scope.Converts (w.evaluator i).converters scope (w.opened i names values).1.pairs (w₃.crossing i runtime) v
      begun) :
    Converts w i names values scope.globals v begun
  | injection {runtime : Runtime} {w₁ w₂ : World} {stage : Stage} {v : Value} {begun : Transfer}
    (hstart : w.announced i names values = (.ok runtime, w₁))
    (hprepare : WorldM.prepare i runtime (w.evaluator i) (w.opened i names values).1 w₁ = (.ok stage, w₂))
    (h : WorldM.Injects i runtime (w.evaluator i).converters stage.scope
      ((w.opened i names values).1.pairs.map (·.2)) (WorldM.numbered (w.evaluator i).hooks) w₂ v begun) :
    Converts w i names values stage.scope.globals v begun

end World

/-- The conversion of a value leaves what a script is to find as it is, however it ends. -/
def Inbound.LeavesStage (converters : List InboundConverter) (path : List String) (redirects : Bool)
    (globals : Identity) (v : Value) (t : Transfer) : Prop :=
  t.guest.HasStage path redirects globals →
    Ends (marshalOrPassthrough converters v) t fun _ t' => t'.guest.HasStage path redirects globals

/-! ### From the reset to the script -/

namespace Scope
variable {path : List String} {redirects : Bool} {table : ConverterTable} {scope : Scope} {t : Transfer}

private theorem bind_hasStage {v : Value} (name : String)
    (hv : Inbound.LeavesStage table.inbound path redirects scope.globals v { t with active := [], acquired := #[] })
    (h : t.guest.HasStage path redirects scope.globals) :
    Ends (bind table scope name v) t fun _ t' => t'.guest.HasStage path redirects scope.globals := by
  refine Ends.bind_of_ok (Stepping.modify_run _ t) ((hv h).bind (fun obj t' ht' => ?_) fun _ _ ht' => ht')
  obtain ⟨g, hrun, hproceeds, _⟩ :=
    GuestM.setName_proceeds ht'.scope.1 (.ofString name) obj t'.guest.topContext
  have hset : TransferM.guest (GuestM.setName scope.globals (.ofString name) obj) t' =
      .ok ⟨⟩ { t' with guest := g } := by rw [TransferM.guest_run, GuestM.atTop_eq, hrun]
  exact .of_ok hset (ht'.bound hproceeds)

/-- Names are bound without a change to the search path, if no conversion changes it. -/
theorem bindAll_hasStage {pairs : List (String × Value)}
    (hpairs : ∀ v begun, Converts table scope pairs t v begun →
      Inbound.LeavesStage table.inbound path redirects scope.globals v begun)
    (h : t.guest.HasStage path redirects scope.globals) :
    Ends (bindAll table scope pairs) t fun _ t' => t'.guest.HasStage path redirects scope.globals := by
  induction pairs generalizing t with
  | nil => exact .of_ok rfl h
  | cons pair pairs ih =>
    have hfirst := bind_hasStage pair.1 (hpairs _ _ .first) h
    cases hbound : bind table scope pair.1 pair.2 t with
    | ok _ t' =>
      exact Ends.bind_of_ok hbound
        (ih (fun v begun hv => hpairs v begun (.later hbound hv)) (hfirst.at_ok hbound))
    | error f t' =>
      refine Ends.of_error (e := f) ?_ (hfirst.at_error hbound)
      rw [bindAll, bind_run, hbound]

/-- A scope that is made where the search path has been put back. -/
private theorem make_hasStage {scope : Scope} {t' : Transfer} (hg : t.guest.HasPath path)
    (hstdout : redirects = true → (t.guest.lookup t.guest.system (.ofString "stdout")).isSome)
    (hmake : make t = .ok scope t') : t'.guest.HasStage path redirects scope.globals := by
  obtain ⟨globals, t₁, hmade, hproceeds, hnew, hheld, hdict, _⟩ := make_of_hasBuiltins hg.toHasSystem.hasBuiltins
  rw [hmade] at hmake
  cases hmake
  refine ⟨hg.kept hproceeds, fun hredirects => ?_, ⟨hheld, hdict⟩, fun hsame => hnew ?_⟩
  · rw [hproceeds.system, hproceeds.lookup_eq hg.system.1 id]
    exact hstdout hredirects
  · have hsystem := hg.system.1
    rwa [← hproceeds.system, ← hsame] at hsystem

end Scope

namespace WorldM
variable {path : List String} {i : Nat} {runtime : Runtime} {e : Evaluator} {w w' : World} {bindings : Bindings}
  {stage : Stage}

theorem cross_ok {α : Type} {run : TransferM α} {a : α} (h : cross i runtime run w = (.ok a, w')) :
    ∃ t, run (w.crossing i runtime) = .ok a t ∧ w' = w.crossed i t := by
  rw [cross_run] at h
  cases hrun : run (w.crossing i runtime) with
  | ok a t =>
    rw [hrun] at h
    cases h
    exact ⟨t, rfl, rfl⟩
  | error f t =>
    rw [hrun] at h
    cases h

/-- What a call has done when the interpreter is ready for its script. -/
theorem prepare_ok (h : prepare i runtime e bindings w = (.ok stage, w')) : ∃ w₁ w₂ scope w₃,
    resetPath e runtime w = (.ok ⟨⟩, w₁) ∧ cross i runtime Scope.make w₁ = (.ok scope, w₂) ∧
      cross i runtime (Scope.bindAll e.converters scope bindings.pairs) w₂ = (.ok ⟨⟩, w₃) ∧
      stage.scope = { scope with state := .seeded } ∧
      (e.config.redirectOutput = false ∧ w' = w₃ ∨ e.config.redirectOutput = true ∧ ∃ output,
        guest (GuestM.redirectOutput bindings.label e.hooks.length) w₃ = (.ok output, w')) := by
  unfold prepare at h
  rw [bind_run] at h
  rcases hreset : resetPath e runtime w with ⟨f | _, w₁⟩
  · rw [hreset] at h
    cases h
  simp only [hreset] at h
  rw [bind_run] at h
  rcases hmake : cross i runtime Scope.make w₁ with ⟨f | scope, w₂⟩
  · simp only [hmake] at h
    cases h
  simp only [hmake] at h
  rw [bind_run] at h
  rcases hseed : cross i runtime (Scope.seed e.converters scope bindings.pairs) w₂ with ⟨f | seeded, w₃⟩
  · simp only [hseed] at h
    cases h
  simp only [hseed] at h
  obtain ⟨t, hran, rfl⟩ := cross_ok hseed
  obtain ⟨hbound, rfl⟩ : Scope.bindAll e.converters scope bindings.pairs (w₂.crossing i runtime) = .ok ⟨⟩ t ∧
      seeded = { scope with state := .seeded } := by
    unfold Scope.seed at hran
    rw [Stepping.bind_run] at hran
    split at hran
    · next hbound =>
      cases hran
      exact ⟨hbound, rfl⟩
    · cases hran
  refine ⟨w₁, w₂, scope, w₂.crossed i t, rfl, hmake, by rw [cross_run, hbound], ?_⟩
  split at h
  · next hredirects =>
    rw [bind_run] at h
    rcases houtput : guest (GuestM.redirectOutput bindings.label e.hooks.length) (w₂.crossed i t) with ⟨f | output, w₄⟩
    all_goals
      simp only [houtput] at h
      cases h
    exact ⟨rfl, .inr ⟨hredirects, output, rfl⟩⟩
  · next hredirects =>
    cases h
    exact ⟨rfl, .inl ⟨Bool.eq_false_of_not_eq_true hredirects, rfl⟩⟩

/-- Once the names are bound, output is redirected, and then the interpreter is ready. -/
theorem prepare_of_bound {w₁ w₂ w₃ : World} {scope : Scope} (hreset : resetPath e runtime w = (.ok ⟨⟩, w₁))
    (hmake : cross i runtime Scope.make w₁ = (.ok scope, w₂))
    (hbind : cross i runtime (Scope.bindAll e.converters scope bindings.pairs) w₂ = (.ok ⟨⟩, w₃)) :
    prepare i runtime e bindings w =
      if e.config.redirectOutput then
        match guest (GuestM.redirectOutput bindings.label e.hooks.length) w₃ with
        | (.error f, w') => (.error ("redirect output", f), w')
        | (.ok output, w') => (.ok ⟨{ scope with state := .seeded }, some output⟩, w')
      else (.ok ⟨{ scope with state := .seeded }, none⟩, w₃) := by
  obtain ⟨t, hbound, rfl⟩ := cross_ok hbind
  have hseed : cross i runtime (Scope.seed e.converters scope bindings.pairs) w₂ =
      (.ok { scope with state := .seeded }, w₂.crossed i t) := by
    simp only [cross_run, Scope.seed, Stepping.bind_run, hbound, Stepping.pure_run]
  unfold prepare
  rw [bind_run]
  simp only [hreset]
  rw [bind_run]
  simp only [hmake]
  rw [bind_run]
  simp only [hseed]
  split
  · rw [bind_run]
    rcases guest (GuestM.redirectOutput bindings.label e.hooks.length) (w₂.crossed i t) with ⟨f | output, w'⟩ <;> rfl
  · rfl

private theorem redirect_hasStage {globals : Identity} {redirects : Bool} {label : String} {listeners : Nat}
    {output : Identity × Identity} (hg : w.guest.HasStage path redirects globals) (hredirects : redirects = true)
    (h : guest (GuestM.redirectOutput label listeners) w = (.ok output, w')) :
    w'.guest.HasStage path redirects globals := by
  have hstage := hg.kept (Guest.proceeds_unreported w.guest)
  obtain ⟨found, hfound⟩ := Option.isSome_iff_exists.mp (hstage.output hredirects)
  obtain ⟨g, hrun, hproceeds, hinstalled, -, hkept⟩ := GuestM.redirectOutput_of_hasSystem hstage.toHasSystem hfound
    label listeners w.guest.unreported.topContext
  rw [guest_run, GuestM.atTop_eq, hrun] at h
  cases h
  exact (hstage.redirected hproceeds (Option.isSome_of_eq_some hinstalled) (hkept "path" (by decide))).kept
    (Guest.proceeds_reporting w.guest g)

/-- What is put back at first is there when the interpreter is ready for the script, if no conversion changes it. -/
private theorem prepare_hasStage (hreset : e.config.resetSearchPath = true) (hg : w.guest.HasSystem)
    (hstdout : e.config.redirectOutput = true → (w.guest.lookup w.guest.system (.ofString "stdout")).isSome)
    (hvalues : ∀ w₁ w₂ scope v begun, resetPath e runtime w = (.ok ⟨⟩, w₁) →
      cross i runtime Scope.make w₁ = (.ok scope, w₂) →
      Scope.Converts e.converters scope bindings.pairs (w₂.crossing i runtime) v begun →
      Inbound.LeavesStage e.converters.inbound runtime.searchPath e.config.redirectOutput scope.globals v begun)
    (hprepare : prepare i runtime e bindings w = (.ok stage, w')) :
    w'.guest.HasStage runtime.searchPath e.config.redirectOutput stage.scope.globals := by
  obtain ⟨w₁, w₂, scope, w₃, hset, hmake, hbind, hscope, hend⟩ := prepare_ok hprepare
  obtain ⟨g₁, hrun₁, hproceeds₁, hpath₁, hkept₁⟩ :=
    GuestM.resetSearchPath_of_hasSystem (hg.proceeds (Guest.proceeds_unreported (W := fun _ => False) w.guest) nofun)
      runtime.searchPath w.guest.unreported.topContext
  obtain rfl : w₁ = { w with guest := w.guest.reporting g₁ } := by
    rw [resetPath, if_pos hreset, guest_run, GuestM.atTop_eq, hrun₁] at hset
    exact (congrArg Prod.snd hset).symm
  obtain ⟨t₂, hmade, rfl⟩ := cross_ok hmake
  obtain ⟨t₃, hbound, rfl⟩ := cross_ok hbind
  have hstage : t₂.guest.HasStage runtime.searchPath e.config.redirectOutput scope.globals := by
    refine Scope.make_hasStage (hpath₁.kept ((Guest.proceeds_reporting w.guest g₁).trans (Guest.proceeds_unreported _)))
      (fun hredirects => ?_) hmade
    show (g₁.lookup g₁.system _).isSome
    rw [hproceeds₁.system]
    exact (congrArg Option.isSome (hkept₁ "stdout" (by decide))).trans (hstdout hredirects)
  have hcrossed : (World.crossed { w with guest := w.guest.reporting g₁ } i t₂).guest.HasStage runtime.searchPath
      e.config.redirectOutput scope.globals := hstage.kept (Guest.proceeds_reporting _ t₂.guest)
  have hseeded := ((Scope.bindAll_hasStage
    (t := (World.crossed { w with guest := w.guest.reporting g₁ } i t₂).crossing i runtime)
    (fun v begun => hvalues _ _ _ v begun hset hmake) (hcrossed.kept (Guest.proceeds_unreported _))).at_ok hbound).kept
      (Guest.proceeds_reporting (World.crossed { w with guest := w.guest.reporting g₁ } i t₂).guest t₃.guest)
  rw [hscope]
  rcases hend with ⟨_, rfl⟩ | ⟨hredirects, output, houtput⟩
  · exact hseeded
  · exact redirect_hasStage hseeded hredirects houtput

section
variable {nested : Request → WorldM (Option EvalError)} {table : ConverterTable} {scope : Scope} {values : List Value}
  {redirects : Bool}

/-- The hooks are notified one after the other. -/
theorem notifyStarted_cons (hook : Nat × Hook) (rest : List (Nat × Hook)) (w : World) :
    notifyStarted nested i runtime table scope values (hook :: rest) w =
      notifyStarted nested i runtime table scope values rest
        (notifyStarted nested i runtime table scope values [hook] w).2 := by
  obtain ⟨place, hook⟩ := hook
  simp only [notifyStarted, bind_run]
  rfl

/-- A hook binds what it injects, and the calls that it makes are refused. -/
private theorem notifyOne_hasStage {place : Nat} {hook : Hook}
    (hvalues : ∀ v begun,
      Scope.Converts table scope hook.inject ((notify (.started place values) w).2.crossing i runtime) v begun →
      Inbound.LeavesStage table.inbound path redirects scope.globals v begun)
    (hheld : w.held = true) (h : w.guest.HasStage path redirects scope.globals) :
    (notifyStarted (issue requestDepth) i runtime table scope values [(place, hook)] w).2.guest.HasStage path redirects
      scope.globals := by
  have hnotified : (notify (.started place values) w).2.guest.HasStage path redirects scope.globals :=
    h.kept (Guest.proceeds_of_same rfl rfl rfl rfl)
  have hbound := Scope.bindAll_hasStage hvalues (hnotified.kept (Guest.proceeds_unreported _))
  have hinjected : (cross i runtime (Scope.bindAll table scope hook.inject)
      (notify (.started place values) w).2).2.guest.HasStage path redirects scope.globals := by
    rw [cross_run]
    cases hrun : Scope.bindAll table scope hook.inject ((notify (.started place values) w).2.crossing i runtime) with
    | ok a t => exact (hbound.at_ok hrun).kept (Guest.proceeds_reporting _ t.guest)
    | error f t => exact (hbound.at_error hrun).kept (Guest.proceeds_reporting _ t.guest)
  unfold notifyStarted
  have hstill : (cross i runtime (Scope.bindAll table scope hook.inject)
      (notify (.started place values) w).2).2.held = true := by
    rw [cross_run]
    split <;> exact hheld
  exact hinjected.kept (carryOut_proceeds requestDepth place hook.requests hstill)

/-- The hooks are notified; if no conversion of what they inject changes the search path, nothing else does. -/
private theorem notifyStarted_hasStage {hooks : List (Nat × Hook)}
    (hvalues : ∀ v begun, Injects i runtime table scope values hooks w v begun →
      Inbound.LeavesStage table.inbound path redirects scope.globals v begun) (hheld : w.held = true)
    (h : w.guest.HasStage path redirects scope.globals) :
    (notifyStarted (issue requestDepth) i runtime table scope values hooks w).2.guest.HasStage path redirects
      scope.globals := by
  induction hooks generalizing w with
  | nil => exact h
  | cons hook rest ih =>
    rw [notifyStarted_cons]
    refine ih (fun v begun hv => hvalues v begun (.later hv)) ?_ ?_
    · exact (staysInside_notifyStarted requestDepth i runtime table scope values [hook] w hheld).2
    · exact notifyOne_hasStage (fun v begun hv => hvalues v begun (.first hv)) hheld h

end

end WorldM

namespace World
variable {w₀ w w' : World} {path : List String} {starts : Nat → Option Environment} {i : Nat} {names : List String}
  {values : List Value} {runtime : Runtime} {stage : Stage}

/-- How a call gets ready for its script: the interpreter is started and readied, then the hooks are notified. -/
theorem ready_eq (w : World) (i : Nat) (names : List String) (values : List Value) : w.ready i names values =
    match w.announced i names values with
    | (.error f, _) => (.error f, (WorldM.ensureStarted i (w.opened i names values).2).2)
    | (.ok runtime, w₁) =>
      match WorldM.prepare i runtime (w.evaluator i) (w.opened i names values).1 w₁ with
      | (.error (_, f), w₂) => (.error f, w₂)
      | (.ok stage, w₂) => (.ok (runtime, stage), (WorldM.notifyStarted (WorldM.issue WorldM.requestDepth) i runtime
        (w.evaluator i).converters stage.scope ((w.opened i names values).1.pairs.map (·.2))
        (WorldM.numbered (w.evaluator i).hooks) w₂).2) := by
  unfold ready WorldM.getReady announced opened
  dsimp only
  generalize Bindings.ofArguments (w.evaluator i).config names values = arguments
  rw [WorldM.bind_run]
  rcases WorldM.ensureStarted i { w with guest := arguments.2.foldl Guest.noted w.guest, held := true } with
    ⟨f | runtime, w₀⟩
  · rfl
  dsimp only
  unfold WorldM.begin
  rw [WorldM.bind_run, WorldM.bind_run, WorldM.bind_run]
  generalize (WorldM.record .debug .evaluator _ w₀).2 = w₁
  rcases WorldM.prepare i runtime (w.evaluator i) arguments.1 w₁ with ⟨⟨step, f⟩ | stage, w₂⟩ <;> rfl

/-- What a call has done when its script is about to run. -/
theorem ready_ok (h : w.ready i names values = (.ok (runtime, stage), w')) : ∃ w₁ w₂,
    w.announced i names values = (.ok runtime, w₁) ∧
      WorldM.prepare i runtime (w.evaluator i) (w.opened i names values).1 w₁ = (.ok stage, w₂) ∧
      w' = (WorldM.notifyStarted (WorldM.issue WorldM.requestDepth) i runtime (w.evaluator i).converters stage.scope
        ((w.opened i names values).1.pairs.map (·.2)) (WorldM.numbered (w.evaluator i).hooks) w₂).2 := by
  rw [ready_eq] at h
  rcases hstart : w.announced i names values with ⟨f | started, w₁⟩
  · rw [hstart] at h
    cases h
  simp only [hstart] at h
  rcases hprepare : WorldM.prepare i started (w.evaluator i) (w.opened i names values).1 w₁ with
    ⟨⟨step, f⟩ | prepared, w₂⟩
  all_goals
    rw [hprepare] at h
    cases h
  exact ⟨w₁, w₂, rfl, hprepare, rfl⟩

/-- A script is about to run once the interpreter is ready and the hooks are notified. -/
theorem ready_of_prepared {w₁ w₂ : World} (hstart : w.announced i names values = (.ok runtime, w₁))
    (hprepare : WorldM.prepare i runtime (w.evaluator i) (w.opened i names values).1 w₁ = (.ok stage, w₂)) :
    w.ready i names values = (.ok (runtime, stage), (WorldM.notifyStarted (WorldM.issue WorldM.requestDepth) i runtime
      (w.evaluator i).converters stage.scope ((w.opened i names values).1.pairs.map (·.2))
      (WorldM.numbered (w.evaluator i).hooks) w₂).2) := by
  simp only [ready_eq, hstart, hprepare]

/-- What has kept a call from being ready for its script: the interpreter has not started, or has not been readied. -/
theorem ready_error {f : Fault} (h : w.ready i names values = (.error f, w')) :
    WorldM.ensureStarted i (w.opened i names values).2 = (.error f, w') ∨ ∃ runtime w₁ step,
      w.announced i names values = (.ok runtime, w₁) ∧
        WorldM.prepare i runtime (w.evaluator i) (w.opened i names values).1 w₁ = (.error (step, f), w') := by
  rw [ready_eq] at h
  rcases hstart : w.announced i names values with ⟨f' | started, w₁⟩
  · have hfault : (WorldM.ensureStarted i (w.opened i names values).2).1 = .error f' := congrArg Prod.fst hstart
    rw [hstart] at h
    cases h
    exact .inl (Prod.ext hfault rfl)
  simp only [hstart] at h
  rcases hprepare : WorldM.prepare i started (w.evaluator i) (w.opened i names values).1 w₁ with
    ⟨⟨step, f'⟩ | prepared, w₂⟩
  all_goals
    rw [hprepare] at h
    cases h
  exact .inr ⟨started, w₁, step, rfl, hprepare⟩

/-- No script runs where the interpreter cannot be readied. -/
theorem unready_of_prepared {w₁ w₂ : World} {step : String} {f : Fault}
    (hstart : w.announced i names values = (.ok runtime, w₁))
    (hprepare : WorldM.prepare i runtime (w.evaluator i) (w.opened i names values).1 w₁ = (.error (step, f), w₂)) :
    w.ready i names values = (.error f, w₂) := by
  simp only [ready_eq, hstart, hprepare]

end World

/-! ### An evaluator that is started -/

namespace GuestM
open Guest
variable {g : Guest}

/-- A namespace without session statements is made, with six names and no others, and nothing that was there is
written. -/
theorem makeNamespace_nil (hg : g.HasSystem) (context : Context) : ∃ id g' names module,
    makeNamespace [] context g = .ok id g' ∧ g.Proceeds (fun _ => False) g' ∧ ¬ g.Holds id ∧ g'.IsNamespace id names ∧
      g.standardModules.lookup "builtins" = some module ∧ names (.ofString "__builtins__") = some module ∧
      ∀ name ∉ ["__name__", "__doc__", "__package__", "__loader__", "__spec__", "__builtins__"],
        names (.ofString name) = Option.none := by
  obtain ⟨module, hmodule⟩ := hg.builtins
  obtain ⟨text, g₁, hrun₁, hadds₁, -⟩ := string_run "global" context (g.adding { body := .dict [] })
  have hadds := (Adds.push g (.dict [])).trans hadds₁
  obtain ⟨g₂, hrun₂, hproceeds₂, hspace₂⟩ :=
    setName_isNamespace ((IsNamespace.adding g).kept hadds₁.proceeds) (.ofString "__name__") text context
  obtain ⟨nothing, g₃, hrun₃, hadds₃, -⟩ := internIn_run 0 .none context g₂
  obtain ⟨g₄, hrun₄, hproceeds₄, hspace₄⟩ :=
    setName_isNamespace (hspace₂.kept hadds₃.proceeds) (.ofString "__doc__") nothing context
  obtain ⟨g₅, hrun₅, hproceeds₅, hspace₅⟩ := setName_isNamespace hspace₄ (.ofString "__package__") nothing context
  obtain ⟨g₆, hrun₆, hproceeds₆, hspace₆⟩ := setName_isNamespace hspace₅ (.ofString "__loader__") nothing context
  obtain ⟨g₇, hrun₇, hproceeds₇, hspace₇⟩ := setName_isNamespace hspace₆ (.ofString "__spec__") nothing context
  have hproceeds : g.Proceeds (· = g.next) g₇ :=
    (((((hadds.proceeds.trans hproceeds₂).trans hadds₃.proceeds).trans hproceeds₄).trans hproceeds₅).trans
      hproceeds₆).trans hproceeds₇
  have hnew {g' : Guest} (h : g.Proceeds (· = g.next) g') : g.Proceeds (fun _ => False) g' :=
    h.of_new fun id hid hheld => Nat.lt_irrefl _ (hid ▸ hheld)
  have himport := hostImport_builtins (hg.proceeds (hnew hproceeds) fun _ hid => hid.elim).hasBuiltins
    (hproceeds.standardModules ▸ hmodule) context
  obtain ⟨g₈, hrun₈, hproceeds₈, hspace₈⟩ := setName_isNamespace hspace₇ (.ofString "__builtins__") module context
  refine ⟨g.next, g₈, _, module, ?_, hnew (hproceeds.trans hproceeds₈), Nat.lt_irrefl _, hspace₈, hmodule, if_pos rfl,
    fun name hname => ?_⟩
  · unfold makeNamespace
    simp only [reader_bind_run, allocate_run, hrun₁, hrun₂, show GuestM.none context g₂ = _ from hrun₃, hrun₄, hrun₅,
      hrun₆, hrun₇, himport, hrun₈, reader_pure_run]
    rfl
  · have hne (other : String) (h : name ≠ other) : Text.ofString other ≠ Text.ofString name :=
      fun he => h (Text.ofString_injective he).symm
    simp only [List.mem_cons, List.not_mem_nil, or_false, not_or] at hname
    obtain ⟨hname, hdoc, hpackage, hloader, hspec, hbuiltins⟩ := hname
    rw [if_neg (hne _ hbuiltins), if_neg (hne _ hspec), if_neg (hne _ hloader), if_neg (hne _ hpackage),
      if_neg (hne _ hdoc), if_neg (hne _ hname)]

end GuestM

/-- Without session statements the interpreter is started for an evaluator, and nothing that was there is written. -/
theorem WorldM.ensureStarted_plain {w : World} {path : List String} {i : Nat} (hw : w.Knows path)
    (hsystem : w.guest.HasSystem) (hnone : (w.evaluator i).runtime = none)
    (himports : (w.evaluator i).config.sessionImports = []) : ∃ runtime w',
    ensureStarted i w = (.ok runtime, w') ∧ w.guest.Proceeds (fun _ => False) w'.guest ∧
      runtime.searchPath = SearchPath.forConfig (w.evaluator i).config w.environment path := by
  have hproceeds := Guest.proceeds_noted (W := fun _ => False) w.guest startRecord
  obtain ⟨id, g', _, _, hrun, hproceeds', -⟩ := GuestM.makeNamespace_nil (g := (w.guest.noted startRecord).unreported)
    (hsystem.proceeds (hproceeds.trans (Guest.proceeds_unreported _)) nofun)
    (w.guest.noted startRecord).unreported.topContext
  rw [ensureStarted_unstarted hw hnone, himports, GuestM.atTop_eq, hrun]
  exact ⟨_, _, rfl, hproceeds.trans hproceeds'.reported, rfl⟩

/-- The smallest interpreter, with a search path of one entry. -/
def Guest.pathed : Guest where
  heap := #[{ body := .dict [⟨[.text (.ofString "stdout")], ⟨5⟩, ⟨6⟩⟩, ⟨[.text (.ofString "path")], ⟨7⟩, ⟨9⟩⟩] },
    { body := .module ⟨0⟩ }, { body := .dict [] }, { body := .module ⟨2⟩ }, { body := .dict [] },
    { body := .text (.ofString "stdout") }, { body := .stream }, { body := .text (.ofString "path") },
    { body := .text (.ofString "/lib") }, { body := .list #[⟨8⟩] }]
  system := ⟨0⟩
  builtins := ⟨2⟩
  standardModules := [("sys", ⟨1⟩), ("builtins", ⟨3⟩)]

theorem Guest.hasPath_pathed : pathed.HasPath ["/lib"] where
  importable := ⟨List.not_mem_nil, List.not_mem_nil⟩
  builtins := ⟨⟨3⟩, rfl⟩
  module := ⟨⟨1⟩, rfl, by decide, rfl, rfl⟩
  system := ⟨by decide, rfl⟩
  found := ⟨⟨9⟩, by decide +kernel, by decide, rfl, #[⟨8⟩], rfl, by simp; decide, rfl⟩

namespace World

/-- One evaluator that is not started, in that interpreter. -/
private def waiting (converters : List InboundConverter) (process : List (String × String)) : World where
  guest := .pathed
  evaluators := #[{ config := { libraryPaths := ["/site"], redirectOutput := false }
                    converters := { inbound := converters } }]
  processVariables := process

variable (converters : List InboundConverter) (process : List (String × String))

private theorem isFresh_waiting : (waiting converters process).IsFresh ["/lib"] where
  unlocked := rfl
  unread := rfl
  path := Guest.hasPath_pathed
  unstarted i := by cases i <;> rfl

/-- The interpreter is started for the evaluator. -/
private theorem announced_waiting (names : List String) (values : List Value) : ∃ runtime w₁,
    (waiting converters process).announced 0 names values = (.ok runtime, w₁) ∧
      Guest.pathed.Proceeds (fun _ => False) w₁.guest ∧
      runtime.searchPath = SearchPath.forConfig { libraryPaths := ["/site"], redirectOutput := false }
        (waiting converters process).environment ["/lib"] := by
  have hfollows := (isFresh_waiting converters process).follows
  have hproceeds : Guest.pathed.Proceeds (fun _ => False) ((waiting converters process).opened 0 names values).2.guest :=
    proceeds_foldl_noted _ _
  have hknows : ((waiting converters process).opened 0 names values).2.Knows ["/lib"] :=
    hfollows.knows.noted hproceeds
  obtain ⟨runtime, w₁, hrun, hproceeds₁, hpath⟩ := WorldM.ensureStarted_plain (i := 0) hknows
    (Guest.hasPath_pathed.toHasSystem.proceeds hproceeds fun _ hid => hid.elim) rfl rfl
  refine ⟨runtime, ((waiting converters process).announced 0 names values).2, Prod.ext ?_ rfl, ?_, hpath⟩
  all_goals
    unfold announced
    simp only [hrun]
  exact (hproceeds.trans hproceeds₁).trans (Guest.proceeds_noted _ _)

private theorem hasSystem_waiting (names : List String) (values : List Value) :
    ((waiting converters process).announced 0 names values).2.guest.HasSystem := by
  obtain ⟨runtime, w₁, hstart, hproceeds, -⟩ := announced_waiting converters process names values
  rw [hstart]
  exact Guest.hasPath_pathed.toHasSystem.proceeds hproceeds fun _ hid => hid.elim

/-- A script with one binding is about to run, if its conversion keeps what it is to find. -/
private theorem ready_waiting {v : Value} (post : Identity → Guest → Prop)
    (hconvert : ∀ (t : Transfer) globals, t.guest.HasStage
      (SearchPath.forConfig { libraryPaths := ["/site"], redirectOutput := false }
        (waiting converters process).environment ["/lib"]) false globals →
      ∃ obj t', Inbound.marshalOrPassthrough converters v t = .ok obj t' ∧ t'.guest.Holds globals ∧
        post globals t'.guest)
    (hpost : ∀ globals g g', post globals g → g.Proceeds (· = globals) g' → post globals g') :
    ∃ runtime stage w', (waiting converters process).ready 0 ["x"] [v] = (.ok (runtime, stage), w') ∧
      runtime.searchPath ≠ [] ∧ post stage.scope.globals w'.guest := by
  obtain ⟨runtime, w₁, hstart, hproceeds, hpath⟩ := announced_waiting converters process ["x"] [v]
  have hsystem := Guest.hasPath_pathed.toHasSystem.proceeds hproceeds fun _ hid => hid.elim
  obtain ⟨g₁, hrun₁, -, hpath₁, -⟩ := GuestM.resetSearchPath_of_hasSystem
    (hsystem.proceeds (Guest.proceeds_unreported (W := fun _ => False) w₁.guest) nofun) runtime.searchPath
    w₁.guest.unreported.topContext
  obtain ⟨w₂, hw₂⟩ : ∃ w₂ : World, { w₁ with guest := w₁.guest.reporting g₁ } = w₂ := ⟨_, rfl⟩
  have hpath₂ : (w₂.crossing 0 runtime).guest.HasPath runtime.searchPath := by
    rw [← hw₂]
    exact hpath₁.kept ((Guest.proceeds_reporting w₁.guest g₁).trans (Guest.proceeds_unreported _))
  obtain ⟨globals, t₂, hmade, -⟩ := Scope.make_of_hasBuiltins (t := w₂.crossing 0 runtime) hpath₂.toHasSystem.hasBuiltins
  have hstage : t₂.guest.HasStage runtime.searchPath false globals :=
    Scope.make_hasStage hpath₂ (fun h => absurd h Bool.false_ne_true) hmade
  rw [hpath] at hstage
  obtain ⟨w₃, hw₃⟩ : ∃ w₃, w₂.crossed 0 t₂ = w₃ := ⟨_, rfl⟩
  have hcrossed : (w₃.crossing 0 runtime).guest.HasStage (SearchPath.forConfig
      { libraryPaths := ["/site"], redirectOutput := false } (waiting converters process).environment ["/lib"]) false
      globals := by
    rw [← hw₃]
    exact hstage.kept ((Guest.proceeds_reporting w₂.guest t₂.guest).trans (Guest.proceeds_unreported _))
  obtain ⟨obj, t₃, hconverted, hheld, hafter⟩ := hconvert
    { w₃.crossing 0 runtime with active := [], acquired := #[] } _ hcrossed
  obtain ⟨g₄, hset, hproceeds₄, -⟩ := GuestM.setName_proceeds hheld (.ofString "x") obj t₃.guest.topContext
  have hbound : Scope.bind { inbound := converters } { globals } "x" v (w₃.crossing 0 runtime) =
      .ok ⟨⟩ { t₃ with guest := g₄ } := Scope.bind_of_converted "x" hconverted hset
  let e : Evaluator := (waiting converters process).evaluator 0
  have hreset : WorldM.resetPath e runtime w₁ = (.ok ⟨⟩, w₂) := by
    rw [WorldM.resetPath, if_pos (show e.config.resetSearchPath = true from rfl), WorldM.guest_run, GuestM.atTop_eq,
      hrun₁]
    exact congrArg _ hw₂
  have hmake : WorldM.cross 0 runtime Scope.make w₂ = (.ok { globals }, w₃) := by
    rw [WorldM.cross_run, hmade]
    exact congrArg _ hw₃
  have hbind : WorldM.cross 0 runtime (Scope.bindAll e.converters { globals } [("x", v)]) w₃ =
      (.ok ⟨⟩, w₃.crossed 0 { t₃ with guest := g₄ }) := by
    rw [WorldM.cross_run]
    simp only [Scope.bindAll, bind_run, show e.converters = { inbound := converters } from rfl, hbound, pure_run]
  have hprepare : WorldM.prepare 0 runtime e ((waiting converters process).opened 0 ["x"] [v]).1 w₁ =
      (.ok ⟨{ globals, state := .seeded }, none⟩, _) := WorldM.prepare_of_bound hreset hmake hbind
  refine ⟨runtime, _, _, ready_of_prepared hstart hprepare, ?_,
    hpost globals _ _ hafter (hproceeds₄.trans (Guest.proceeds_reporting w₃.guest g₄))⟩
  rw [hpath, SearchPath.forConfig_eq]
  exact List.cons_ne_nil _ _

/-- Standard converters take up a truth value without a change to what was there. -/
private theorem marshalOrPassthrough_bool (b : Bool) (t : Transfer) : ∃ id g,
    Inbound.marshalOrPassthrough Inbound.standard (.bool b) t = .ok id { t with guest := g } ∧
      t.guest.Proceeds (fun _ => False) g := by
  obtain ⟨id, g, hrun, hadds, -⟩ := GuestM.internIn_run 0 (.bool b) t.guest.topContext t.guest
  have hmarshal : Inbound.marshal Inbound.standard (.bool b) t = .ok id { t with guest := g } := by
    have hstructural : Inbound.marshal Inbound.standard (.bool b) t = TransferM.guest (GuestM.bool b) t := rfl
    rw [hstructural, TransferM.guest_run, GuestM.atTop_eq, show GuestM.bool b _ _ = _ from hrun]
  refine ⟨id, g, ?_, hadds.proceeds⟩
  unfold Inbound.marshalOrPassthrough Inbound.orPassthrough
  rw [tryCatch_run, hmarshal]

private theorem leavesStage_bool (path : List String) (redirects : Bool) (globals : Identity) (b : Bool) (t : Transfer) :
    Inbound.LeavesStage Inbound.standard path redirects globals (.bool b) t := fun hstage => by
  obtain ⟨id, g, hrun, hproceeds⟩ := marshalOrPassthrough_bool b t
  exact .of_ok hrun (hstage.kept hproceeds)

/-- Takes the search path away and answers with what is there instead. -/
private def clearingPlan : InboundPlan :=
  .build
    (do
      let empty ← GuestM.list []
      GuestM.setSystem "path" empty
      return empty)
    fun
      | .ok obj => .done obj
      | .error f => .fail f

private def clearing : InboundConverter where
  name := "clearing"
  priority := 1
  guard _ := true
  conversion := .custom fun _ => clearingPlan

/-- A namespace of its own beside a search path without entries. -/
private def IsCleared (globals : Identity) (g : Guest) : Prop :=
  globals ≠ g.system ∧ g.Holds g.system ∧ ∃ id, g.lookup g.system (.ofString "path") = some id ∧ g.Holds id ∧
    id ≠ globals ∧ g.body id = .list #[]

private theorem IsCleared.proceeds {globals : Identity} {g g' : Guest} (h : IsCleared globals g)
    (hg : g.Proceeds (· = globals) g') : IsCleared globals g' := by
  obtain ⟨hapart, hsystem, id, hlookup, hheld, hne, hbody⟩ := h
  refine ⟨by rwa [hg.system], by rw [hg.system]; exact hg.holds hsystem, id, ?_, hg.holds hheld, hne, ?_⟩
  · rw [hg.system, hg.lookup_eq hsystem (Ne.symm hapart), hlookup]
  · rw [hg.body_eq hheld hne, hbody]

private theorem marshalOrPassthrough_clearing (v : Value) {path : List String} {globals : Identity} {t : Transfer}
    (hstage : t.guest.HasStage path false globals) : ∃ obj t',
      Inbound.marshalOrPassthrough [clearing] v t = .ok obj t' ∧ t'.guest.Holds globals ∧ IsCleared globals t'.guest := by
  obtain ⟨r, hmarshal⟩ : ∃ r, Inbound.marshal [clearing] v t =
      Inbound.runPlan (Inbound.marshalTo [clearing] (v.depth + 999)) clearingPlan
        { t with guest := t.guest.noted r } := ⟨_, rfl⟩
  have hnoted := hstage.kept (Guest.proceeds_noted t.guest r)
  have hadds := Guest.Adds.push (t.guest.noted r) (.list #[])
  have hlisted := hnoted.kept hadds.proceeds
  obtain ⟨g, hrun, hproceeds, hlookup⟩ := GuestM.setName_proceeds hlisted.system.1 (.ofString "path")
    (t.guest.noted r).next (t.guest.noted r).topContext
  obtain ⟨cleared, hcleared⟩ : ∃ id, (t.guest.noted r).next = id := ⟨_, rfl⟩
  obtain ⟨g₀, hg₀⟩ : ∃ g₀, (t.guest.noted r).adding { body := .list #[] } = g₀ := ⟨_, rfl⟩
  have hheld : g₀.Holds cleared := by
    rw [← hcleared, ← hg₀]
    simp [Guest.Holds, Guest.next, Guest.adding]
  have hbody : g₀.body cleared = .list #[] := by rw [← hcleared, ← hg₀, Guest.body, Guest.object_adding]
  have hunlike {d : Identity} (hd : g₀.isDict d = true) : cleared ≠ d := by
    rintro rfl
    rw [Guest.isDict, hbody] at hd
    cases hd
  rw [hg₀, hcleared] at hrun hlookup
  rw [hg₀] at hproceeds hlisted
  refine ⟨cleared, { t with guest := g }, ?_, hproceeds.holds hlisted.scope.1, ?_, ?_, cleared, ?_,
    hproceeds.holds hheld, ?_, ?_⟩
  · have hbuild : (do
        let empty ← GuestM.list []
        GuestM.setSystem "path" empty
        return empty : GuestM Identity) (t.guest.noted r).topContext (t.guest.noted r) = .ok cleared g := by
      unfold GuestM.list GuestM.setSystem
      simp only [reader_bind_run, GuestM.allocate_run, reader_get_run, hcleared, List.toArray, hg₀, hrun,
        reader_pure_run]
    unfold Inbound.marshalOrPassthrough Inbound.orPassthrough
    rw [tryCatch_run, hmarshal, clearingPlan, Inbound.runPlan]
    simp only [bind_run, attempt_run, TransferM.guest_run, GuestM.atTop_eq, hbuild]
    rfl
  · rw [hproceeds.system]
    exact hlisted.apart
  · rw [hproceeds.system]
    exact hproceeds.holds hlisted.system.1
  · rw [hproceeds.system, hlookup, if_pos rfl]
  · exact hunlike hlisted.scope.2
  · rw [hproceeds.body_eq hheld (hunlike hlisted.system.2), hbody]

end World
end ScriptHost
