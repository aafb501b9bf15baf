import ScriptHost.Proofs.Evaluator.Course
import ScriptHost.Proofs.Guest.SystemPath

/-! Starts and the calls around them: whatever a host calls, an evaluator that has been started keeps its namespace and
its search path, and the path that the interpreter had at first is read once and kept. -/
namespace ScriptHost
open Stepping

/-- What an evaluator keeps once it is made, and once it is started. -/
def Evaluator.standing (e : Evaluator) : Config × Option (Identity × List String) :=
  (e.config, e.runtime.map fun runtime => (runtime.namespaceDict, runtime.searchPath))

namespace Evaluator
variable {e e' : Evaluator}

theorem config_of_standing (hsame : e'.standing = e.standing) : e'.config = e.config := congrArg Prod.fst hsame

theorem unstarted_of_standing (hsame : e'.standing = e.standing) (hnone : e.runtime = none) : e'.runtime = none := by
  have hruntimes := congrArg Prod.snd hsame
  rw [standing, standing, hnone] at hruntimes
  exact Option.map_eq_none_iff.mp hruntimes

theorem started_of_standing {runtime : Runtime} (hsame : e'.standing = e.standing) (hstarted : e.runtime = some runtime) :
    ∃ runtime', e'.runtime = some runtime' ∧ runtime'.searchPath = runtime.searchPath := by
  have hruntimes := congrArg Prod.snd hsame
  rw [standing, standing, hstarted] at hruntimes
  obtain ⟨runtime', hruntime, hpath⟩ := Option.map_eq_some_iff.mp hruntimes
  exact ⟨runtime', hruntime, congrArg Prod.snd hpath⟩

end Evaluator

namespace World
variable {w w' w'' : World} {i : Nat}

/-- A world after a computation in it, where no evaluator was started and nothing of the process has changed. -/
structure Stays (w w' : World) : Prop where
  standing : ∀ i, (w'.evaluator i).standing = (w.evaluator i).standing
  interpreterPath : w'.interpreterPath = w.interpreterPath
  process : w'.processVariables = w.processVariables
  held : w'.held = w.held

namespace Stays

theorem refl (w : World) : w.Stays w := ⟨fun _ => rfl, rfl, rfl, rfl⟩

theorem trans (h : w.Stays w') (h' : w'.Stays w'') : w.Stays w'' where
  standing i := (h'.standing i).trans (h.standing i)
  interpreterPath := h'.interpreterPath.trans h.interpreterPath
  process := h'.process.trans h.process
  held := h'.held.trans h.held

theorem of_guest (w : World) (g : Guest) : w.Stays { w with guest := g } := ⟨fun _ => rfl, rfl, rfl, rfl⟩

/-- Counts are no part of what an evaluator keeps. -/
theorem crossed (w : World) (i : Nat) (t : Transfer) : w.Stays (w.crossed i t) where
  standing j := by
    rw [World.evaluator, World.crossed]
    dsimp only
    rw [WorldM.getD_keepCounts]
    split
    · rw [Evaluator.standing, Evaluator.standing, Option.map_map]
      rfl
    · rfl
  interpreterPath := rfl
  process := rfl
  held := rfl

end Stays
end World

namespace WorldM
variable {α β : Type} {i : Nat} {runtime : Runtime} {e : Evaluator} {w : World}

/-- A computation that, inside the lock, starts no evaluator. -/
def StartsNothing (run : WorldM α) : Prop := ∀ w : World, w.held = true → w.Stays (run w).2

namespace StartsNothing

protected theorem pure (a : α) : StartsNothing (Pure.pure a) := fun w _ => .refl w

protected theorem bind {m : WorldM α} {f : α → WorldM β} (h : m.StartsNothing) (hf : ∀ a, (f a).StartsNothing) :
    StartsNothing (m >>= f) := fun w hheld =>
  (h w hheld).trans (hf (m w).1 (m w).2 ((h w hheld).held.trans hheld))

protected theorem discard {m : WorldM α} (h : m.StartsNothing) : StartsNothing (discard m) := h

protected theorem record (level : Level) (source : Source) (message : String) :
    StartsNothing (record level source message) := fun w _ => .of_guest w _

protected theorem notify (event : Event) : StartsNothing (notify event) := fun w _ => .of_guest w _

protected theorem guest (run : GuestM α) : StartsNothing (guest run) := fun w _ => by
  rw [guest_run]
  split <;> exact .of_guest w _

protected theorem cross (i : Nat) (runtime : Runtime) (run : TransferM α) : StartsNothing (cross i runtime run) :=
  fun w _ => by
    rw [cross_run]
    split <;> exact .crossed w i _

protected theorem carryOut (depth place : Nat) (requests : List Request) :
    StartsNothing (carryOut (issue depth) place requests) := fun w hheld => by
  obtain ⟨records, events, hrun⟩ := carryOut_run depth place requests hheld
  rw [hrun]
  exact .of_guest w _

end StartsNothing

theorem composes_startsNothing : Composes StartsNothing where
  pure := .pure
  bind := .bind
  record := .record

theorem startsNothing_resetPath (e : Evaluator) (runtime : Runtime) : (resetPath e runtime).StartsNothing :=
  composes_startsNothing.resetPath (.guest _) e

theorem startsNothing_begin (i : Nat) (runtime : Runtime) (e : Evaluator) (bindings : Bindings) :
    (begin (issue requestDepth) i runtime e bindings).StartsNothing :=
  composes_startsNothing.begin
    (composes_startsNothing.prepare (startsNothing_resetPath e runtime) (.cross i runtime _)
      (fun _ => .cross i runtime _) (.guest _))
    fun _ => composes_startsNothing.notifyStarted .notify (fun _ => .cross i runtime _) (.carryOut requestDepth)

theorem startsNothing_notifyFinished (depth i : Nat) (runtime : Runtime) (table : ConverterTable) (scope : Scope)
    (outcome : Outcome) (values : List Value) (hooks : List (Nat × Hook)) :
    (notifyFinished (issue depth) i runtime table scope outcome values hooks).StartsNothing := by
  induction hooks with
  | nil => exact .pure _
  | cons hook rest ih =>
    unfold notifyFinished
    exact .bind (.cross i runtime _) fun _ => .bind (.notify _) fun _ => .bind (.carryOut _ _ _) fun _ => ih

theorem startsNothing_conclude (i : Nat) (runtime : Runtime) (e : Evaluator) (scope : Scope) (code : Script)
    (bindings : Bindings) : (conclude (issue requestDepth) i runtime e scope code bindings).StartsNothing := by
  have hrunIn : (runIn i runtime e.converters scope code e.config.outputBinding).StartsNothing := by
    refine .bind (.cross i runtime _) fun answer => ?_
    cases answer <;> exact .pure _
  refine .bind hrunIn fun (answer, scope) => .bind (startsNothing_notifyFinished _ i runtime _ _ _ _ _) fun _ => ?_
  cases answer with
  | ok v => exact .pure _
  | error err => exact .bind (.record _ _ _) fun _ => .pure _

theorem startsNothing_evaluateIn (i : Nat) (runtime : Runtime) (e : Evaluator) (code : Script) (bindings : Bindings) :
    (evaluateIn (issue requestDepth) i runtime e code bindings).StartsNothing := by
  refine .bind (startsNothing_begin i runtime e bindings) fun begun => ?_
  rcases begun with ⟨step, f⟩ | stage
  · exact .bind (.record _ _ _) fun _ => .pure _
  · refine .bind (startsNothing_conclude i runtime e stage.scope code bindings) fun answer => ?_
    refine .bind ?_ fun _ => .pure _
    cases stage.output with
    | none => exact .pure _
    | some pair => exact .discard (.guest _)

end WorldM

/-! ### Starts -/

namespace World
variable {w w' w'' : World} {path : List String} {i : Nat}

/-- The search path that the interpreter had before any evaluator ran has been read, or it stands there to be read and no
evaluator is started. -/
def Knows (w : World) (path : List String) : Prop :=
  w.interpreterPath = some path ∨
    w.interpreterPath = none ∧ w.guest.HasPath path ∧ ∀ i, (w.evaluator i).runtime = none

/-- A world after a computation in it that may have started an evaluator, whose search path is made from the one that the
interpreter had. -/
structure Starts (w : World) (i : Nat) (path : List String) (w' : World) : Prop where
  config : ∀ j, (w'.evaluator j).config = (w.evaluator j).config
  others : ∀ j, j ≠ i → (w'.evaluator j).standing = (w.evaluator j).standing
  runtime : (w'.evaluator i).standing = (w.evaluator i).standing ∨ (w.evaluator i).runtime = none ∧
    ∃ runtime, (w'.evaluator i).runtime = some runtime ∧
      runtime.searchPath = SearchPath.forConfig (w.evaluator i).config w.environment path
  process : w'.processVariables = w.processVariables
  held : w'.held = w.held

theorem Stays.starts (h : w.Stays w') : w.Starts i path w' where
  config j := Evaluator.config_of_standing (h.standing j)
  others j _ := h.standing j
  runtime := .inl (h.standing i)
  process := h.process
  held := h.held

theorem Starts.then_stays (h : w.Starts i path w') (h' : w'.Stays w'') : w.Starts i path w'' where
  config j := (Evaluator.config_of_standing (h'.standing j)).trans (h.config j)
  others j hne := (h'.standing j).trans (h.others j hne)
  runtime := by
    rcases h.runtime with hsame | ⟨hnone, runtime, hruntime, hpath⟩
    · exact .inl ((h'.standing i).trans hsame)
    · obtain ⟨runtime', hruntime', hsame⟩ := Evaluator.started_of_standing (h'.standing i) hruntime
      exact .inr ⟨hnone, runtime', hruntime', hsame.trans hpath⟩
  process := h'.process.trans h.process
  held := h'.held.trans h.held

/-- What was noted is nothing to the path that the interpreter has. -/
theorem Knows.noted {g : Guest} (h : w.Knows path) (hproceeds : w.guest.Proceeds (fun _ => False) g) :
    Knows { w with guest := g } path := by
  rcases h with hread | ⟨hnone, hpath, hall⟩
  · exact .inl hread
  · exact .inr ⟨hnone, hpath.kept hproceeds, hall⟩

/-- Where an evaluator is started, the path that the interpreter had has been read. -/
theorem Knows.read {runtime : Runtime} (h : w.Knows path) (hstarted : (w.evaluator i).runtime = some runtime) :
    w.interpreterPath = some path := by
  rcases h with hread | ⟨_, _, hall⟩
  · exact hread
  · rw [hall i] at hstarted
    cases hstarted

end World

namespace WorldM
variable {i : Nat} {path : List String} {w : World}

/-- The path that the interpreter had is given, and kept from then on. -/
theorem interpreterPath_run (hw : w.Knows path) :
    interpreterPath w = (.ok path, { w with interpreterPath := some path }) := by
  unfold interpreterPath
  rw [bind_run, get_run]
  rcases hw with hread | ⟨hnone, hpath, _⟩
  · obtain ⟨g, evaluators, held, read, processVariables⟩ := w
    cases hread
    rfl
  · simp only [hnone]
    rw [bind_run, guest_run, GuestM.atTop_eq,
      GuestM.readSearchPath_of_hasPath (hpath.kept (Guest.proceeds_unreported w.guest))]
    dsimp only
    rw [Guest.reporting_unreported]
    rfl

/-- An evaluator that has not been started is started by what makes its namespace. -/
theorem ensureStarted_unstarted (hw : w.Knows path) (hnone : (w.evaluator i).runtime = none) : ensureStarted i w =
      match GuestM.atTop (GuestM.makeNamespace (w.evaluator i).config.sessionImports)
        (w.guest.noted startRecord).unreported with
      | .ok namespaceDict g =>
        let runtime : Runtime :=
          { namespaceDict, searchPath := SearchPath.forConfig (w.evaluator i).config w.environment path }
        (.ok runtime, (keepRuntime i runtime
          { w with guest := (w.guest.noted startRecord).reporting g, interpreterPath := some path }).2)
      | .error f g =>
        (.error f, { w with guest := (w.guest.noted startRecord).reporting g, interpreterPath := some path }) := by
  have hnoted : World.Knows { w with guest := w.guest.noted startRecord } path :=
    hw.noted (Guest.proceeds_noted w.guest startRecord)
  rw [ensureStarted_attempt hnone, interpreterPath_run hnoted]
  dsimp only
  cases GuestM.atTop (GuestM.makeNamespace (w.evaluator i).config.sessionImports)
    (w.guest.noted startRecord).unreported <;> rfl

/-- To start the interpreter for an evaluator makes its search path from the one that the interpreter had before any
evaluator ran, unless it was made before. -/
theorem ensureStarted_starts (hw : w.Knows path) :
    w.Starts i path (ensureStarted i w).2 ∧ (ensureStarted i w).2.interpreterPath = some path ∧
      ∀ runtime, (ensureStarted i w).1 = .ok runtime → (w.evaluator i).runtime = some runtime ∨
        (w.evaluator i).runtime = none ∧
          runtime.searchPath = SearchPath.forConfig (w.evaluator i).config w.environment path := by
  cases hruntime : (w.evaluator i).runtime with
  | some runtime =>
    rw [ensureStarted_run hruntime]
    exact ⟨(World.Stays.refl w).starts, hw.read hruntime, fun _ h => by cases h; exact .inl rfl⟩
  | none =>
    rw [ensureStarted_unstarted hw hruntime]
    cases GuestM.atTop (GuestM.makeNamespace (w.evaluator i).config.sessionImports)
        (w.guest.noted startRecord).unreported with
    | error f g => exact ⟨⟨fun _ => rfl, fun _ _ => rfl, .inl rfl, rfl, rfl⟩, rfl, nofun⟩
    | ok namespaceDict g =>
      dsimp only
      generalize hmade : (⟨namespaceDict, ∅, _⟩ : Runtime) = made
      have hpath : made.searchPath = SearchPath.forConfig (w.evaluator i).config w.environment path := by
        rw [← hmade]
      have hmodified : (keepRuntime i made { w with
          guest := (w.guest.noted startRecord).reporting g, interpreterPath := some path }).2.evaluators =
        w.evaluators.modify i fun e => { e with runtime := some made } := rfl
      have hkept := World.evaluator_modify hmodified
      refine ⟨⟨fun j => ?_, fun j hne => ?_, ?_, rfl, rfl⟩, rfl, fun runtime h => by cases h; exact .inr ⟨rfl, hpath⟩⟩
      · rw [hkept]
        split <;> rfl
      · rw [hkept, if_neg fun h => hne h.1]
      · by_cases hi : i < w.evaluators.size
        · exact .inr ⟨hruntime, made, by rw [hkept, if_pos ⟨rfl, hi⟩], hpath⟩
        · exact .inl (by rw [hkept, if_neg fun h => hi h.2])

end WorldM

/-! ### Calls of a host, one after the other -/

/-- What a host does with the world, outside of any other call. -/
inductive HostCall where
  | evaluate (i : Nat) (code : Script) (names : List String) (values : List Value)
  | reset (i : Nat) (engine : String)
  /-- Starts an evaluator, if need be, and runs a computation on its crossing. -/
  | session (i : Nat) (run : TransferM Unit)
  /-- Runs a computation on the crossing of an evaluator that is started already. -/
  | whenStarted (i : Nat) (run : TransferM Unit)
  | create (config : Config) (converters : ConverterTable) (hooks : List Hook)
  | equip (i : Nat) (converters : ConverterTable) (hooks : List Hook)
  /-- Changes the environment of the process. -/
  | setVariables (process : List (String × String))

/-- The world after a call. -/
def HostCall.run : HostCall → World → World
  | evaluate i code names values, w => (WorldM.evaluate i code names values w).2
  | reset i engine, w => (WorldM.reset i engine w).2
  | session i run, w => (WorldM.session i run w).2
  | whenStarted i run, w => (WorldM.whenStarted i run w).2
  | create config converters hooks, w => { w with evaluators := w.evaluators.push { config, converters, hooks } }
  | equip i converters hooks, w =>
    { w with evaluators := w.evaluators.modify i fun e => { e with converters, hooks } }
  | setVariables process, w => { w with processVariables := process }

namespace World
variable {w w' w₀ : World} {path : List String} {starts : Nat → Option Environment} {i : Nat}

/-- The worlds that calls of a host lead to, with the environments in which the evaluators were started. -/
inductive Reaches (w₀ : World) : (Nat → Option Environment) → World → Prop
  | start : Reaches w₀ (fun _ => none) w₀
  | call {starts : Nat → Option Environment} {w : World} (c : HostCall) (h : Reaches w₀ starts w) :
    Reaches w₀ (fun i => (starts i).or (if ((c.run w).evaluator i).isStarted then some w.environment else none))
      (c.run w)

/-- A world in which no evaluator has run yet. -/
structure IsFresh (w : World) (path : List String) : Prop where
  unlocked : w.held = false
  unread : w.interpreterPath = none
  path : w.guest.HasPath path
  unstarted : ∀ i, (w.evaluator i).runtime = none

/-- Every evaluator that is started has the search path that its settings make of the interpreter's own and of the
environment in which it was started. -/
structure Follows (w : World) (path : List String) (starts : Nat → Option Environment) : Prop where
  unlocked : w.held = false
  knows : w.Knows path
  started : ∀ i runtime, (w.evaluator i).runtime = some runtime → ∃ environment, starts i = some environment ∧
    runtime.searchPath = SearchPath.forConfig (w.evaluator i).config environment path
  unstarted : ∀ i, (w.evaluator i).runtime = none → starts i = none

theorem IsFresh.follows (h : w.IsFresh path) : w.Follows path fun _ => none where
  unlocked := h.unlocked
  knows := .inr ⟨h.unread, h.path, h.unstarted⟩
  started i runtime hruntime := by
    rw [h.unstarted i] at hruntime
    cases hruntime
  unstarted _ _ := rfl

namespace Follows

/-- What was made of the interpreter's path when an evaluator was started is still what it goes by after a call. -/
theorem of_starts (h : w.Follows path starts) (hcall : w.Starts i path w') (hknows : w'.Knows path) :
    w'.Follows path fun j => (starts j).or (if (w'.evaluator j).isStarted then some w.environment else none) where
  unlocked := hcall.held.trans h.unlocked
  knows := hknows
  started j runtime hruntime := by
    have hstarted : (w'.evaluator j).isStarted = true := by rw [Evaluator.isStarted, hruntime]; rfl
    have hbefore (hsame : (w'.evaluator j).standing = (w.evaluator j).standing) : ∃ environment,
        (starts j).or (if (w'.evaluator j).isStarted then some w.environment else none) = some environment ∧
          runtime.searchPath = SearchPath.forConfig (w'.evaluator j).config environment path := by
      obtain ⟨before, hbefore, hpath⟩ := Evaluator.started_of_standing hsame.symm hruntime
      obtain ⟨environment, hstart, hmade⟩ := h.started j before hbefore
      refine ⟨environment, by rw [hstart]; rfl, ?_⟩
      rw [hcall.config, ← hpath, hmade]
    by_cases hj : j = i
    · subst hj
      rcases hcall.runtime with hsame | ⟨hnone, made, hmade, hpath⟩
      · exact hbefore hsame
      · rw [hruntime] at hmade
        cases hmade
        refine ⟨w.environment, ?_, ?_⟩
        · rw [h.unstarted j hnone, hstarted]
          rfl
        · rw [hcall.config, hpath]
    · exact hbefore (hcall.others j hj)
  unstarted j hnone := by
    have hbefore : (w.evaluator j).runtime = none := by
      by_cases hj : j = i
      · subst hj
        rcases hcall.runtime with hsame | ⟨hnone, _⟩
        · exact Evaluator.unstarted_of_standing hsame.symm hnone
        · exact hnone
      · exact Evaluator.unstarted_of_standing (hcall.others j hj).symm hnone
    rw [h.unstarted j hbefore, Evaluator.isStarted, hnone]
    rfl

/-- A world where every evaluator is as before, or is not started as before. -/
theorem of_same (h : w.Follows path starts) (hheld : w'.held = w.held) (hread : w'.interpreterPath = w.interpreterPath)
    (hguest : w'.guest = w.guest) (hsame : ∀ j, (w'.evaluator j).standing = (w.evaluator j).standing ∨
      (w.evaluator j).runtime = none ∧ (w'.evaluator j).runtime = none) :
    w'.Follows path fun j => (starts j).or (if (w'.evaluator j).isStarted then some w.environment else none) where
  unlocked := hheld.trans h.unlocked
  knows := by
    rcases h.knows with hknown | ⟨hnone, hpath, hall⟩
    · exact .inl (hread.trans hknown)
    · refine .inr ⟨hread.trans hnone, hguest ▸ hpath, fun j => ?_⟩
      rcases hsame j with hstanding | ⟨_, hnone⟩
      · exact Evaluator.unstarted_of_standing hstanding (hall j)
      · exact hnone
  started j runtime hruntime := by
    rcases hsame j with hstanding | ⟨_, hnone⟩
    · obtain ⟨before, hbefore, hpath⟩ := Evaluator.started_of_standing hstanding.symm hruntime
      obtain ⟨environment, hstart, hmade⟩ := h.started j before hbefore
      refine ⟨environment, by rw [hstart]; rfl, ?_⟩
      rw [← hpath, hmade, Evaluator.config_of_standing hstanding]
    · rw [hnone] at hruntime
      cases hruntime
  unstarted j hnone := by
    have hbefore : (w.evaluator j).runtime = none := by
      rcases hsame j with hstanding | ⟨hbefore, _⟩
      · exact Evaluator.unstarted_of_standing hstanding.symm hnone
      · exact hbefore
    rw [h.unstarted j hbefore, Evaluator.isStarted, hnone]
    rfl

end Follows

theorem Stays.knows (h : w.Stays w') (hread : w.interpreterPath = some path) : w'.Knows path :=
  .inl (h.interpreterPath.trans hread)

theorem proceeds_foldl_noted (g : Guest) (records : List Record) :
    g.Proceeds (fun _ => False) (records.foldl Guest.noted g) := by
  induction records generalizing g with
  | nil => exact .refl g
  | cons r records ih => exact (Guest.proceeds_noted g r).trans (ih (g.noted r))

end World

namespace WorldM
variable {w : World} {path : List String} {i : Nat} {α : Type}

/-- A call inside the lock that starts nothing starts nothing. -/
theorem stays_unlocked {run : WorldM α} (h : run.StartsNothing) (hopen : w.held = false) :
    w.Stays { (run { w with held := true }).2 with held := false } :=
  have hstays := h { w with held := true } rfl
  ⟨hstays.standing, hstays.interpreterPath, hstays.process, hopen.symm⟩

theorem stays_within {run : WorldM α} (h : run.StartsNothing) (hopen : w.held = false) :
    w.Stays (Lock.within run w).2 := by
  rw [within_run run hopen]
  exact stays_unlocked h hopen

/-- A call inside the lock that starts an evaluator first and nothing more. -/
theorem starts_unlocked {run : WorldM α} (hopen : w.held = false)
    (h : ∀ w' : World, w'.Knows path → w'.held = true →
      w'.Starts i path (run w').2 ∧ (run w').2.interpreterPath = some path) (hw : w.Knows path) :
    w.Starts i path { (run { w with held := true }).2 with held := false } ∧
      World.Knows { (run { w with held := true }).2 with held := false } path := by
  obtain ⟨hstarts, hread⟩ := h { w with held := true } hw rfl
  exact ⟨⟨hstarts.config, hstarts.others, hstarts.runtime, hstarts.process, hopen.symm⟩, .inl hread⟩

theorem starts_within {run : WorldM α} (hopen : w.held = false)
    (h : ∀ w' : World, w'.Knows path → w'.held = true →
      w'.Starts i path (run w').2 ∧ (run w').2.interpreterPath = some path) (hw : w.Knows path) :
    w.Starts i path (Lock.within run w).2 ∧ (Lock.within run w).2.Knows path := by
  rw [within_run run hopen]
  exact starts_unlocked hopen h hw

/-- What an evaluator does once it is started starts no other. -/
theorem starts_after {next : Except Fault Runtime → WorldM α} (hnext : ∀ answer, (next answer).StartsNothing)
    (hw : w.Knows path) (hheld : w.held = true) :
    w.Starts i path ((ensureStarted i >>= next) w).2 ∧
      ((ensureStarted i >>= next) w).2.interpreterPath = some path := by
  obtain ⟨hstarts, hread, _⟩ := ensureStarted_starts (i := i) hw
  have hstays := hnext (ensureStarted i w).1 (ensureStarted i w).2 (hstarts.held.trans hheld)
  exact ⟨hstarts.then_stays hstays, hstays.interpreterPath.trans hread⟩

/-- What only looks at an answer leaves the world as the answer did. -/
private theorem after_answer {β : Type} {m : WorldM α} {f : α → WorldM β} (hf : ∀ a w, (f a w).2 = w) :
    ((m >>= f) w).2 = (m w).2 := hf _ _

theorem evaluate_starts (hopen : w.held = false) (hw : w.Knows path) (code : Script) (names : List String)
    (values : List Value) : w.Starts i path (evaluate i code names values w).2 ∧
      (evaluate i code names values w).2.Knows path := by
  rcases hbindings : Bindings.ofArguments (w.evaluator i).config names values with ⟨bindings, records⟩
  rw [evaluate_inside hopen hbindings]
  extract_lets run
  obtain ⟨next, hnext, hrun⟩ : ∃ next, (∀ answer, (next answer).StartsNothing) ∧ run = ensureStarted i >>= next := by
    refine ⟨_, fun answer => ?_, rfl⟩
    cases answer with
    | error f => exact .bind (.record _ _ _) fun _ => .pure _
    | ok runtime => exact startsNothing_evaluateIn i runtime (w.evaluator i) code bindings
  rw [hrun]
  obtain ⟨hstarts, hknows⟩ := starts_unlocked (i := i) (w := { w with guest := records.foldl Guest.noted w.guest }) hopen
    (fun w' hknows hheld => starts_after hnext hknows hheld) (hw.noted (World.proceeds_foldl_noted w.guest records))
  exact ⟨⟨hstarts.config, hstarts.others, hstarts.runtime, hstarts.process, hstarts.held⟩, hknows⟩

theorem session_starts (hopen : w.held = false) (hw : w.Knows path) (run : TransferM α) :
    w.Starts i path (session i run w).2 ∧ (session i run w).2.Knows path := by
  unfold session
  rw [after_answer fun _ _ => rfl]
  refine starts_within hopen (fun w' hknows hheld => starts_after (fun answer => ?_) hknows hheld) hw
  cases answer with
  | error f => exact .pure _
  | ok runtime => exact .bind (.cross i runtime run) fun _ => .pure _

/-- What needs a started evaluator starts none. -/
theorem whenStarted_stays (hopen : w.held = false) (run : TransferM α) : w.Stays (whenStarted i run w).2 := by
  unfold whenStarted
  rw [bind_run, get_run]
  cases (w.evaluator i).runtime with
  | none => exact .refl w
  | some runtime =>
    have hstays := stays_within (.cross i runtime run) hopen
    dsimp only
    rw [after_answer fun answer _ => by rcases answer with err | f | x <;> rfl]
    exact hstays

theorem whenStarted_knows (hopen : w.held = false) (hw : w.Knows path) (run : TransferM α) :
    (whenStarted i run w).2.Knows path := by
  cases hruntime : (w.evaluator i).runtime with
  | none =>
    unfold whenStarted
    rw [bind_run, get_run]
    simp only [hruntime]
    exact hw
  | some runtime => exact (whenStarted_stays hopen run).knows (hw.read hruntime)

/-- A reset starts nothing: of an evaluator that is not started, it does nothing but to say so. -/
theorem reset_of_unstarted (hnone : (w.evaluator i).runtime = none) (engine : String) :
    ∃ r, reset i engine w = (.ok none, { w with guest := w.guest.noted r }) := by
  have hunstarted : (w.evaluator i).isStarted = false := by
    rw [Evaluator.isStarted, hnone]
    rfl
  unfold reset
  rw [bind_run, get_run]
  dsimp only
  rw [hunstarted]
  split
  · exact ⟨_, rfl⟩
  · exact ⟨_, rfl⟩

theorem reset_stays (hopen : w.held = false) (engine : String) : w.Stays (reset i engine w).2 := by
  cases hruntime : (w.evaluator i).runtime with
  | none =>
    obtain ⟨r, hrun⟩ := reset_of_unstarted hruntime engine
    rw [hrun]
    exact .of_guest w _
  | some runtime =>
    have hstarted : (w.evaluator i).isStarted = true := by
      rw [Evaluator.isStarted, hruntime]
      rfl
    unfold reset
    rw [bind_run, get_run]
    dsimp only
    rw [hstarted]
    split
    · rw [bind_run, record_run]
      exact .of_guest w _
    · rw [if_neg (by simp), after_answer fun answer _ => by rcases answer with err | f | report <;> rfl,
        within_run _ hopen, bind_run, ensureStarted_run (w := { w with held := true }) hruntime]
      refine stays_unlocked (.bind (startsNothing_resetPath _ runtime) fun answer => ?_) hopen
      cases answer with
      | error f => exact .pure _
      | ok => exact .guest _

theorem reset_knows (hopen : w.held = false) (hw : w.Knows path) (engine : String) :
    (reset i engine w).2.Knows path := by
  cases hruntime : (w.evaluator i).runtime with
  | none =>
    obtain ⟨r, hrun⟩ := reset_of_unstarted hruntime engine
    rw [hrun]
    exact hw.noted (Guest.proceeds_noted w.guest r)
  | some runtime => exact (reset_stays hopen engine).knows (hw.read hruntime)

end WorldM

namespace World.Follows
variable {w w₀ : World} {path : List String} {starts : Nat → Option Environment}

/-- What the evaluators go by stays what it is through every call of a host. -/
theorem call (h : w.Follows path starts) (c : HostCall) : (c.run w).Follows path fun i =>
    (starts i).or (if ((c.run w).evaluator i).isStarted then some w.environment else none) := by
  cases c with
  | evaluate i code names values =>
    obtain ⟨hstarts, hknows⟩ := WorldM.evaluate_starts (i := i) h.unlocked h.knows code names values
    exact h.of_starts hstarts hknows
  | session i run =>
    obtain ⟨hstarts, hknows⟩ := WorldM.session_starts (i := i) h.unlocked h.knows run
    exact h.of_starts hstarts hknows
  | reset i engine =>
    exact h.of_starts (i := i) (WorldM.reset_stays h.unlocked engine).starts (WorldM.reset_knows h.unlocked h.knows engine)
  | whenStarted i run =>
    exact h.of_starts (i := i) (WorldM.whenStarted_stays h.unlocked run).starts
      (WorldM.whenStarted_knows h.unlocked h.knows run)
  | create config converters hooks =>
    refine h.of_same rfl rfl rfl fun j => ?_
    rw [HostCall.run, World.evaluator, World.evaluator, Array.getD_eq_getD_getElem?, Array.getD_eq_getD_getElem?,
      Array.getElem?_push]
    split
    · next hj =>
      rw [hj, Array.getElem?_size]
      exact .inr ⟨rfl, rfl⟩
    · exact .inl rfl
  | equip i converters hooks =>
    refine h.of_same rfl rfl rfl fun j => .inl ?_
    rw [World.evaluator_modify (f := fun e => { e with converters, hooks }) rfl]
    split <;> rfl
  | setVariables process => exact h.of_same rfl rfl rfl fun _ => .inl rfl

theorem of_reaches (hfresh : w₀.IsFresh path) (h : w₀.Reaches starts w) : w.Follows path starts := by
  induction h with
  | start => exact hfresh.follows
  | call c _ ih => exact ih.call c

end World.Follows
end ScriptHost
