import ScriptHost.Proofs.Evaluator.Ending

/-! Re-entry: inside a call of the lock every further one is refused before anything of it runs, so the calls that hooks
make while a script runs change nothing but the journal, and the evaluation answers as if they had not been made. -/
namespace ScriptHost
open Stepping

/-! ### Nested calls of the lock -/

/-- What a closure does on its thread, until it returns or panics: work that leaves the lock to itself, and calls of the
lock, each with a closure of its own. -/
inductive Closure where
  | returns
  | panics
  | works (step : World → World) (rest : Closure)
  | enters (inner : Closure) (rest : Except EvalError Unit → Closure)

namespace Closure

def run : Closure → EStateM Panic World Unit
  | returns => pure ()
  | panics => throw {}
  | works step rest => do
    modify fun w => { step w with held := w.held }
    rest.run
  | enters inner rest => do
    let answer ← Lock.withinUnwinding inner.run
    (rest answer).run

/-- The points that a run comes to: how many calls of the lock deep, what is left to do there, and the world. -/
inductive Reaches : Closure → World → Nat → Closure → World → Prop
  | here (c : Closure) (w : World) : Reaches c w 0 c w
  | worked {step : World → World} {rest c : Closure} {w w' : World} {depth : Nat}
    (h : Reaches rest { step w with held := w.held } depth c w') : Reaches (works step rest) w depth c w'
  | inside {inner c : Closure} {rest : Except EvalError Unit → Closure} {w w' : World} {depth : Nat}
    (hopen : w.held = false) (h : Reaches inner { w with held := true } depth c w') :
    Reaches (enters inner rest) w (depth + 1) c w'
  | after {inner c : Closure} {rest : Except EvalError Unit → Closure} {w w₁ w' : World} {depth : Nat}
    {answer : Except EvalError Unit} (hcall : Lock.withinUnwinding inner.run w = .ok answer w₁)
    (h : Reaches (rest answer) w₁ depth c w') : Reaches (enters inner rest) w depth c w'

end Closure

namespace Lock
variable {α : Type} {w : World}

/-- A call inside another one is refused without a look at what it is to run. -/
theorem withinUnwinding_of_held (run : EStateM Panic World α) (hheld : w.held = true) : ∃ records,
    withinUnwinding run w = .ok (.error .reentrantLock) { w with guest := { w.guest with records } } := by
  unfold withinUnwinding
  rw [if_pos hheld]
  exact ⟨_, rfl⟩

/-- However an outermost call ends, the lock is open then. -/
theorem withinUnwinding_of_open (run : EStateM Panic World α) (hopen : w.held = false) :
    withinUnwinding run w = match run { w with held := true } with
      | .ok answer w' => .ok (.ok answer) { w' with held := false }
      | .error panic w' => .error panic { w' with held := false } := by
  unfold withinUnwinding
  exact (if_neg (by rw [hopen]; exact Bool.false_ne_true)).trans rfl

/-- The lock around a call that never panics is the same one. -/
theorem withinUnwinding_eq_within (run : WorldM α) (w : World) :
    withinUnwinding (fun w => .ok (run w).1 (run w).2) w = .ok (within run w).1 (within run w).2 := by
  unfold withinUnwinding within
  rw [WorldM.bind_run, WorldM.get_run]
  split <;> rfl

end Lock

namespace Closure
variable {c c' : Closure} {w w' : World} {depth : Nat}

/-- Inside the lock a run goes no deeper, and the lock stays held. -/
theorem Reaches.of_held (h : c.Reaches w depth c' w') (hheld : w.held = true) : depth = 0 ∧ w'.held = true := by
  induction h with
  | here => exact ⟨rfl, hheld⟩
  | worked _ ih => exact ih hheld
  | inside hopen => exact absurd hheld (by rw [hopen]; exact Bool.false_ne_true)
  | @after inner _ rest w _ _ _ _ hcall _ ih =>
    obtain ⟨records, hrefused⟩ := Lock.withinUnwinding_of_held inner.run hheld
    rw [hrefused] at hcall
    cases hcall
    exact ih hheld

end Closure

/-! ### Calls of hooks -/

namespace Request

/-- The evaluator that a request goes to. -/
def target : Request → Nat
  | evaluate i _ _ _ | reset i _ | session i | release i _ | releaseValue i _ => i

/-- Whether a request has work to do in an evaluator: only a reset under another engine's name has none. -/
def IsAimed : Request → Prop
  | reset _ engine => engine = engineName
  | _ => True

end Request

namespace WorldM
variable {α β : Type} {w w' : World} {i depth : Nat} {request : Request} {requests : List Request}

private theorem whenStarted_of_held (run : TransferM α) (hheld : w.held = true) (hstarted : (w.evaluator i).isStarted) :
    (whenStarted i run w).1 = .error .reentrantLock := by
  obtain ⟨runtime, hruntime⟩ := Option.isSome_iff_exists.mp hstarted
  unfold whenStarted
  rw [bind_run, get_run]
  simp only [hruntime]
  rw [bind_run, within_of_held _ hheld]
  rfl

private theorem reset_of_held (hheld : w.held = true) (hstarted : (w.evaluator i).isStarted) :
    (reset i engineName w).1 = .error .reentrantLock := by
  unfold reset
  rw [bind_run, get_run]
  simp only [hstarted, ne_eq, not_true_eq_false, if_false, Bool.not_true, Bool.false_eq_true]
  rw [bind_run, within_of_held _ hheld]
  rfl

/-- Inside the lock a request to a started evaluator is refused and adds to the journal. -/
theorem issue_of_held (depth : Nat) (hheld : w.held = true) (hstarted : (w.evaluator request.target).isStarted)
    (haimed : request.IsAimed) : ∃ records,
      issue (depth + 1) request w = (some .reentrantLock, { w with guest := { w.guest with records } }) := by
  obtain ⟨records, hworld⟩ := onlyRecords_issue (depth + 1) request w hheld
  refine ⟨records, Prod.ext ?_ hworld⟩
  cases request with
  | evaluate i code names values =>
    exact congrArg error? (evaluateUsing_of_held (issue depth) i code names values hheld)
  | reset i engine =>
    obtain rfl : engine = engineName := haimed
    exact congrArg error? (reset_of_held hheld hstarted)
  | session i =>
    show error? (session i (return ()) w).1 = _
    unfold session
    rw [bind_run, within_of_held _ hheld]
    rfl
  | release i id => exact congrArg error? (whenStarted_of_held _ hheld hstarted)
  | releaseValue i v => exact congrArg error? (whenStarted_of_held _ hheld hstarted)

/-- So are all that a hook makes. -/
theorem issueAll_of_held (depth : Nat) (hheld : w.held = true)
    (hrequests : ∀ request ∈ requests, (w.evaluator request.target).isStarted ∧ request.IsAimed) : ∃ records,
      requests.mapM (issue (depth + 1)) w =
        (requests.map fun _ => some .reentrantLock, { w with guest := { w.guest with records } }) := by
  induction requests generalizing w with
  | nil => exact ⟨w.guest.records, rfl⟩
  | cons request requests ih =>
    obtain ⟨⟨hstarted, haimed⟩, hrequests⟩ := List.forall_mem_cons.mp hrequests
    obtain ⟨records, hfirst⟩ := issue_of_held depth hheld hstarted haimed
    obtain ⟨records', hrest⟩ := ih (w := { w with guest := { w.guest with records } }) hheld hrequests
    refine ⟨records', ?_⟩
    rw [List.mapM_cons, bind_run, hfirst]
    dsimp only
    rw [bind_run, hrest]
    rfl

end WorldM

/-! ### An evaluation whose hooks make no calls -/

def Hook.withoutCalls (h : Hook) : Hook := { h with requests := [], lateRequests := [] }

def Evaluator.withoutCalls (e : Evaluator) : Evaluator := { e with hooks := e.hooks.map Hook.withoutCalls }

/-- A world with an empty journal where no hook makes calls. -/
def World.withoutCalls (w : World) : World :=
  { w with guest := w.guest.unreported, evaluators := w.evaluators.map Evaluator.withoutCalls }

namespace World
variable {w w' : World} {i : Nat}

theorem withoutCalls_withoutCalls (w : World) : w.withoutCalls.withoutCalls = w.withoutCalls := by
  have hevaluator (e : Evaluator) : e.withoutCalls.withoutCalls = e.withoutCalls := by
    simp [Evaluator.withoutCalls, Hook.withoutCalls]
  simp only [withoutCalls, Array.map_map, Function.comp_def, hevaluator]
  rfl

theorem evaluator_withoutCalls (w : World) (i : Nat) : w.withoutCalls.evaluator i = (w.evaluator i).withoutCalls := by
  simp only [evaluator, withoutCalls, Array.getD_eq_getD_getElem?, Array.getElem?_map]
  cases w.evaluators[i]? <;> rfl

theorem withoutCalls_reporting (w : World) (g : Guest) :
    withoutCalls { w with guest := w.guest.reporting g } = { w.withoutCalls with guest := g.unreported } := rfl

/-- A change of an evaluator has nothing to do with the calls of its hooks. -/
private theorem map_withoutCalls_modify {f : Evaluator → Evaluator} (hf : ∀ e, (f e).withoutCalls = f e.withoutCalls)
    (evaluators : Array Evaluator) (i : Nat) :
    (evaluators.modify i f).map Evaluator.withoutCalls = (evaluators.map Evaluator.withoutCalls).modify i f := by
  refine Array.ext_getElem? fun j => ?_
  simp only [Array.getElem?_map, Array.getElem?_modify]
  split
  · cases evaluators[j]? with
    | none => rfl
    | some e => exact congrArg some (hf e)
  · rfl

theorem withoutCalls_crossed (w : World) (i : Nat) (t : Transfer) : (w.crossed i t).withoutCalls =
    { w.withoutCalls with
      guest := t.guest.unreported, evaluators := WorldM.keepCounts w.withoutCalls.evaluators i t.counts } :=
  congrArg (fun evaluators => { w with guest := t.guest.unreported, evaluators }) (map_withoutCalls_modify
    (f := fun e => { e with runtime := e.runtime.map fun r => { r with counts := t.counts } }) (fun _ => rfl)
    w.evaluators i)

theorem withoutCalls_keepRuntime (w : World) (i : Nat) (runtime : Runtime) :
    (WorldM.keepRuntime i runtime w).2.withoutCalls = (WorldM.keepRuntime i runtime w.withoutCalls).2 :=
  congrArg (fun evaluators => { w with guest := w.guest.unreported, evaluators }) (map_withoutCalls_modify
    (f := fun e => { e with runtime := some runtime }) (fun _ => rfl) w.evaluators i)

/-- What an evaluator has is the same in two worlds, but for the calls of its hooks. -/
theorem evaluator_alike (h : w.withoutCalls = w'.withoutCalls) (i : Nat) :
    (w.evaluator i).withoutCalls = (w'.evaluator i).withoutCalls := by
  rw [← evaluator_withoutCalls, h, evaluator_withoutCalls]

theorem interpreterPath_alike (h : w.withoutCalls = w'.withoutCalls) : w.interpreterPath = w'.interpreterPath :=
  show w.withoutCalls.interpreterPath = _ from h ▸ rfl

theorem environment_alike (h : w.withoutCalls = w'.withoutCalls) : w.environment = w'.environment :=
  show w.withoutCalls.environment = _ from h ▸ rfl

theorem crossing_alike (h : w.withoutCalls = w'.withoutCalls) (i : Nat) (runtime : Runtime) :
    w.crossing i runtime = w'.crossing i runtime := by
  have hguest : w.guest.unreported = w'.guest.unreported := congrArg World.guest h
  have hruntime := congrArg Evaluator.runtime (evaluator_alike h i)
  unfold crossing
  rw [hguest, show (w.evaluator i).runtime = (w'.evaluator i).runtime from hruntime]

end World

namespace WorldM
variable {α β : Type} {w w' : World} {i : Nat} {e e' : Evaluator} {runtime : Runtime}
variable {nested nested' : Request → WorldM (Option EvalError)}

/-- Two computations answer alike inside the lock, in worlds that differ in the journal and in calls of hooks alone, and
the worlds that they leave differ in those alone. -/
def Alike (run run' : WorldM α) : Prop := ∀ w w', w.held = true → w.withoutCalls = w'.withoutCalls →
  (run w).1 = (run' w').1 ∧ (run w).2.withoutCalls = (run' w').2.withoutCalls ∧ (run w).2.held = true

namespace Alike

protected theorem pure (a : α) : Alike (Pure.pure a) (Pure.pure a) := fun _ _ hheld h => ⟨rfl, h, hheld⟩

protected theorem bind {m m' : WorldM α} {f f' : α → WorldM β} (h : Alike m m') (hf : ∀ a, Alike (f a) (f' a)) :
    Alike (m >>= f) (m' >>= f') := fun w w' hheld hw => by
  obtain ⟨hanswer, hworld, hstill⟩ := h w w' hheld hw
  rw [bind_run, bind_run, ← hanswer]
  exact hf _ _ _ hstill hworld

protected theorem get {f f' : World → WorldM α}
    (h : ∀ w w', w.withoutCalls = w'.withoutCalls → Alike (f w) (f' w')) :
    Alike (get >>= f) (get >>= f') := fun w w' hheld hw => h w w' hw w w' hheld hw

protected theorem record (level : Level) (source : Source) (message : String) :
    Alike (record level source message) (record level source message) := fun _ _ hheld h => ⟨rfl, h, hheld⟩

protected theorem notify (event : Event) : Alike (notify event) (notify event) := fun _ _ hheld h => ⟨rfl, h, hheld⟩

private theorem held_alike {w w' : World} (hheld : w.held = true) (h : w.withoutCalls = w'.withoutCalls) :
    w'.held = true := by
  rw [← hheld]
  exact show w'.withoutCalls.held = _ from h ▸ rfl

protected theorem symm {run run' : WorldM α} (h : Alike run run') : Alike run' run := fun w w' hheld hw => by
  obtain ⟨hanswer, hworld, hstill⟩ := h w' w (held_alike hheld hw) hw.symm
  exact ⟨hanswer.symm, hworld.symm, held_alike hstill hworld⟩

protected theorem trans {run run' run'' : WorldM α} (h : Alike run run') (h' : Alike run' run'') : Alike run run'' :=
  fun w w' hheld hw => by
    obtain ⟨hanswer, hworld, hstill⟩ := h w w' hheld hw
    obtain ⟨hanswer', hworld', -⟩ := h' w' w' (held_alike hheld hw) rfl
    exact ⟨hanswer.trans hanswer', hworld.trans hworld', hstill⟩

/-- Calls of a hook that only reach the journal might as well not be made. -/
protected theorem carryOut (hnested : ∀ request, (nested request).OnlyRecords) (place : Nat) (requests : List Request) :
    Alike (carryOut nested place requests) (carryOut nested' place []) := fun w w' hheld hw => by
  obtain ⟨records, events, hrun⟩ := carryOut_records hnested place requests hheld
  rw [hrun]
  exact ⟨rfl, hw, hheld⟩

protected theorem guest (run : GuestM α) : Alike (guest run) (guest run) := fun w w' hheld h => by
  have hguest : w.guest.unreported = w'.guest.unreported := congrArg World.guest h
  rw [guest_run, guest_run, ← hguest]
  cases GuestM.atTop run w.guest.unreported with
  | ok a g => exact ⟨rfl, by rw [World.withoutCalls_reporting, World.withoutCalls_reporting, h], hheld⟩
  | error f g => exact ⟨rfl, by rw [World.withoutCalls_reporting, World.withoutCalls_reporting, h], hheld⟩

protected theorem cross (i : Nat) (runtime : Runtime) (run : TransferM α) :
    Alike (cross i runtime run) (cross i runtime run) := fun w w' hheld h => by
  rw [cross_run, cross_run, World.crossing_alike h]
  cases run (w'.crossing i runtime) with
  | ok a t => exact ⟨rfl, by rw [World.withoutCalls_crossed, World.withoutCalls_crossed, h], hheld⟩
  | error f t => exact ⟨rfl, by rw [World.withoutCalls_crossed, World.withoutCalls_crossed, h], hheld⟩

end Alike

/-! ### The phases of an evaluation -/

theorem alike_interpreterPath : Alike interpreterPath interpreterPath := by
  refine .get fun w w' h => ?_
  rw [World.interpreterPath_alike h]
  cases w'.interpreterPath with
  | some path => exact .pure _
  | none =>
    refine .bind (.guest _) fun answer => ?_
    cases answer with
    | error f => exact .pure _
    | ok path =>
      refine .bind (fun w w' hheld h => ⟨rfl, ?_, hheld⟩) fun _ => .pure _
      exact congrArg (fun world => World.mk world.guest world.evaluators world.held (some path) world.processVariables) h

theorem alike_keepRuntime (i : Nat) (runtime : Runtime) : Alike (keepRuntime i runtime) (keepRuntime i runtime) := by
  refine fun w w' hheld h => ⟨rfl, ?_, hheld⟩
  rw [World.withoutCalls_keepRuntime, World.withoutCalls_keepRuntime, h]

theorem alike_ensureStarted (i : Nat) : Alike (ensureStarted i) (ensureStarted i) := by
  refine .get fun w w' h => ?_
  have halike := World.evaluator_alike h i
  have hconfig : (w.evaluator i).config = (w'.evaluator i).config :=
    show (w.evaluator i).withoutCalls.config = _ from halike ▸ rfl
  have hruntime : (w.evaluator i).runtime = (w'.evaluator i).runtime :=
    show (w.evaluator i).withoutCalls.runtime = _ from halike ▸ rfl
  dsimp only
  rw [hconfig, hruntime]
  cases (w'.evaluator i).runtime with
  | some runtime => exact .pure _
  | none =>
    refine .bind (.record _ _ _) fun _ => .bind alike_interpreterPath fun path => ?_
    cases path with
    | error f => exact .pure _
    | ok path =>
      refine .get fun w w' h => .bind (.guest _) fun made => ?_
      cases made with
      | error f => exact .pure _
      | ok namespaceDict =>
        rw [World.environment_alike h]
        exact .bind (alike_keepRuntime i _) fun _ => .pure _

theorem alike_resetPath (runtime : Runtime) (e : Evaluator) : Alike (resetPath e runtime) (resetPath e runtime) := by
  unfold resetPath
  split
  · exact .guest _
  · exact .pure _

theorem alike_prepare (i : Nat) (runtime : Runtime) (e : Evaluator) (bindings : Bindings) :
    Alike (prepare i runtime e bindings) (prepare i runtime e.withoutCalls bindings) := by
  refine .bind (alike_resetPath runtime e) fun reset => ?_
  cases reset with
  | error f => exact .pure _
  | ok =>
    refine .bind (.cross i runtime _) fun made => ?_
    cases made with
    | error f => exact .pure _
    | ok scope =>
      refine .bind (.cross i runtime _) fun seeded => ?_
      cases seeded with
      | error f => exact .pure _
      | ok scope =>
        have hlength : e.withoutCalls.hooks.length = e.hooks.length := List.length_map _
        dsimp only
        rw [hlength, show e.withoutCalls.config = e.config from rfl]
        split
        · refine .bind (.guest _) fun output => ?_
          cases output <;> exact .pure _
        · exact .pure _

private def silenced (hook : Nat × Hook) : Nat × Hook := (hook.1, hook.2.withoutCalls)

private theorem numbered_withoutCalls (hooks : List Hook) :
    numbered (hooks.map Hook.withoutCalls) = (numbered hooks).map silenced := by
  unfold numbered
  rw [List.length_map, List.zip_map_right]
  rfl

theorem alike_notifyStarted (hnested : ∀ request, (nested request).OnlyRecords) (i : Nat) (runtime : Runtime)
    (table : ConverterTable) (scope : Scope) (values : List Value) (hooks : List (Nat × Hook)) :
    Alike (notifyStarted nested i runtime table scope values hooks)
      (notifyStarted nested' i runtime table scope values (hooks.map silenced)) := by
  induction hooks with
  | nil => exact .pure _
  | cons hook rest ih =>
    refine .bind (.notify _) fun _ => .bind (.bind (.cross i runtime _) fun _ => .pure _) fun _ => ?_
    exact .bind (.carryOut hnested hook.1 hook.2.requests) fun _ => ih

theorem alike_notifyFinished (hnested : ∀ request, (nested request).OnlyRecords) (i : Nat) (runtime : Runtime)
    (table : ConverterTable) (scope : Scope) (outcome : Outcome) (values : List Value) (hooks : List (Nat × Hook)) :
    Alike (notifyFinished nested i runtime table scope outcome values hooks)
      (notifyFinished nested' i runtime table scope outcome values (hooks.map silenced)) := by
  induction hooks with
  | nil => exact .pure _
  | cons hook rest ih =>
    refine .bind (.cross i runtime _) fun _ => .bind (.notify _) fun _ => ?_
    exact .bind (.carryOut hnested hook.1 hook.2.lateRequests) fun _ => ih

theorem alike_conclude (hnested : ∀ request, (nested request).OnlyRecords) (i : Nat) (runtime : Runtime) (e : Evaluator)
    (scope : Scope) (code : Script) (bindings : Bindings) :
    Alike (conclude nested i runtime e scope code bindings)
      (conclude nested' i runtime e.withoutCalls scope code bindings) := by
  refine .bind (.bind (.cross i runtime _) fun answer => ?_) fun answer => ?_
  · cases answer <;> exact .pure _
  · dsimp only
    rw [show numbered e.withoutCalls.hooks = _ from numbered_withoutCalls e.hooks]
    refine .bind (alike_notifyFinished hnested _ _ _ _ _ _ _) fun _ => ?_
    split
    · exact .pure _
    · exact .bind (.record _ _ _) fun _ => .pure _

theorem alike_evaluateIn (hnested : ∀ request, (nested request).OnlyRecords) (i : Nat) (runtime : Runtime) (e : Evaluator)
    (code : Script) (bindings : Bindings) :
    Alike (evaluateIn nested i runtime e code bindings) (evaluateIn nested' i runtime e.withoutCalls code bindings) := by
  refine .bind (.bind (.record _ _ _) fun _ => .bind (alike_prepare i runtime e bindings) fun prepared => ?_)
    fun begun => ?_
  · cases prepared with
    | error failure => exact .pure _
    | ok stage =>
      dsimp only
      rw [show numbered e.withoutCalls.hooks = _ from numbered_withoutCalls e.hooks]
      exact .bind (alike_notifyStarted hnested _ _ _ _ _ _) fun _ => .pure _
  · cases begun with
    | error failure => exact .bind (.record _ _ _) fun _ => .pure _
    | ok stage =>
      refine .bind (alike_conclude hnested i runtime e stage.scope code bindings) fun answer => .bind ?_ fun _ => .pure _
      cases stage.output with
      | none => exact .pure _
      | some pair => exact .bind (.guest _) fun _ => .pure _

/-- What a call does inside the lock. -/
private theorem alike_inside (hnested : ∀ request, (nested request).OnlyRecords)
    (hnested' : ∀ request, (nested' request).OnlyRecords) (i : Nat) (code : Script) (bindings : Bindings)
    (h : e.withoutCalls = e'.withoutCalls) :
    let run (nested : Request → WorldM (Option EvalError)) (e : Evaluator) : WorldM (Except EvalError Value) := do
      match ← ensureStarted i with
      | .error f =>
        record .error .evaluator ("[Evaluator] Failed to start the interpreter runtime: " ++ f.message)
        return .ok .null
      | .ok runtime => evaluateIn nested i runtime e code bindings
    Alike (run nested e) (run nested' e') := by
  refine .bind (alike_ensureStarted i) fun started => ?_
  cases started with
  | error f => exact .bind (.record _ _ _) fun _ => .pure _
  | ok runtime =>
    have hself := @alike_evaluateIn nested nested hnested i runtime e code bindings
    rw [h] at hself
    exact hself.trans (alike_evaluateIn hnested' i runtime e' code bindings).symm

theorem withoutCalls_foldl_noted (records : List Record) (w : World) :
    World.withoutCalls { w with guest := records.foldl Guest.noted w.guest } = w.withoutCalls := by
  induction records generalizing w with
  | nil => rfl
  | cons r records ih => exact ih { w with guest := w.guest.noted r }

/-- An evaluation answers as if its hooks made other calls or none, and leaves the world as it would then, provided that
the calls only reach the journal inside the lock. -/
theorem evaluateUsing_alike (hnested : ∀ request, (nested request).OnlyRecords)
    (hnested' : ∀ request, (nested' request).OnlyRecords) (i : Nat) (code : Script) (names : List String)
    (values : List Value) (h : w.withoutCalls = w'.withoutCalls) :
    (evaluateUsing nested i code names values w).1 = (evaluateUsing nested' i code names values w').1 ∧
      (evaluateUsing nested i code names values w).2.withoutCalls =
        (evaluateUsing nested' i code names values w').2.withoutCalls := by
  have hsame : w'.held = w.held := show w'.withoutCalls.held = _ from h ▸ rfl
  have halike := World.evaluator_alike h i
  have hconfig : (w'.evaluator i).config = (w.evaluator i).config :=
    show (w'.evaluator i).withoutCalls.config = _ from halike ▸ rfl
  cases hheld : w.held with
  | true =>
    obtain ⟨records, hworld⟩ := onlyRecords_evaluateUsing nested i code names values w hheld
    obtain ⟨records', hworld'⟩ := onlyRecords_evaluateUsing nested' i code names values w' (hsame.trans hheld)
    refine ⟨?_, ?_⟩
    · exact (evaluateUsing_of_held _ i code names values hheld).trans
        (evaluateUsing_of_held _ i code names values (hsame.trans hheld)).symm
    · exact (congrArg World.withoutCalls hworld).trans (h.trans (congrArg World.withoutCalls hworld').symm)
  | false =>
    rcases hbindings : Bindings.ofArguments (w.evaluator i).config names values with ⟨bindings, records⟩
    rw [evaluateUsing_inside nested hheld hbindings,
      evaluateUsing_inside nested' (hsame.trans hheld) (hconfig ▸ hbindings)]
    obtain ⟨hanswer, hworld, -⟩ := alike_inside hnested hnested' i code bindings halike
      { w with guest := records.foldl Guest.noted w.guest, held := true }
      { w' with guest := records.foldl Guest.noted w'.guest, held := true } rfl (by
        have hinside (w : World) : World.withoutCalls
            { w with guest := records.foldl Guest.noted w.guest, held := true } =
              { w.withoutCalls with held := true } :=
          congrArg (fun world : World => { world with held := true }) (withoutCalls_foldl_noted records w)
        rw [hinside, hinside, h])
    exact ⟨hanswer, congrArg (fun world : World => { world with held := false }) hworld⟩

theorem evaluate_alike (i : Nat) (code : Script) (names : List String) (values : List Value)
    (h : w.withoutCalls = w'.withoutCalls) :
    (evaluate i code names values w).1 = (evaluate i code names values w').1 ∧
      (evaluate i code names values w).2.withoutCalls = (evaluate i code names values w').2.withoutCalls :=
  evaluateUsing_alike (onlyRecords_issue requestDepth) (onlyRecords_issue requestDepth) i code names values h

end WorldM

namespace World

/-- Of nested calls of the lock, whose closures return or panic, the closure of the outermost one is all that runs, and
the lock is held at every point of it; each further call there is refused and adds to the journal. Whether the closure
returns or panics, the lock is open afterwards and takes the next call. So requests that come to started evaluators
inside the lock are refused and change nothing but the journal, and an evaluation answers the same, and leaves the same
but for the journal, whatever calls the hooks make. -/
theorem refuses_reentry (w : World) :
    (∀ c : Closure, w.held = false →
      (∀ depth c' w', c.Reaches { w with held := true } depth c' w' →
        depth = 0 ∧ w'.held = true ∧ ∀ inner : Closure, ∃ records, Lock.withinUnwinding inner.run w' =
          .ok (.error .reentrantLock) { w' with guest := { w'.guest with records } }) ∧
      ∃ w', (c.run { w with held := true } = .ok ⟨⟩ w' ∧
          Lock.withinUnwinding c.run w = .ok (.ok ⟨⟩) { w' with held := false } ∨
        c.run { w with held := true } = .error {} w' ∧
          Lock.withinUnwinding c.run w = .error {} { w' with held := false }) ∧
        ∀ next : Closure, ∃ w'', Lock.withinUnwinding next.run { w' with held := false } = .ok (.ok ⟨⟩) w'' ∨
          Lock.withinUnwinding next.run { w' with held := false } = .error {} w'') ∧
    (∀ (depth : Nat) (requests : List Request), w.held = true →
      (∀ request ∈ requests, (w.evaluator request.target).isStarted ∧ request.IsAimed) → ∃ records,
        requests.mapM (WorldM.issue (depth + 1)) w =
          (requests.map fun _ => some .reentrantLock, { w with guest := { w.guest with records } })) ∧
    ∀ (w' : World) (i : Nat) (code : Script) (names : List String) (values : List Value),
      w.withoutCalls = w'.withoutCalls →
        (WorldM.evaluate i code names values w).1 = (WorldM.evaluate i code names values w').1 ∧
        (WorldM.evaluate i code names values w).2.withoutCalls =
          (WorldM.evaluate i code names values w').2.withoutCalls := by
  refine ⟨fun c hopen => ⟨fun depth c' w' h => ?_, ?_⟩, fun depth requests hheld hrequests => ?_,
    fun w' i code names values h => WorldM.evaluate_alike i code names values h⟩
  · obtain ⟨hdepth, hheld⟩ := h.of_held rfl
    exact ⟨hdepth, hheld, fun inner => Lock.withinUnwinding_of_held inner.run hheld⟩
  · have hends (c : Closure) {w : World} (hopen : w.held = false) : ∃ w',
        c.run { w with held := true } = .ok ⟨⟩ w' ∧
          Lock.withinUnwinding c.run w = .ok (.ok ⟨⟩) { w' with held := false } ∨
        c.run { w with held := true } = .error {} w' ∧
          Lock.withinUnwinding c.run w = .error {} { w' with held := false } := by
      rw [Lock.withinUnwinding_of_open c.run hopen]
      cases c.run { w with held := true } with
      | ok a w' => exact ⟨w', .inl ⟨rfl, rfl⟩⟩
      | error panic w' => exact ⟨w', .inr ⟨rfl, rfl⟩⟩
    obtain ⟨w', hw'⟩ := hends c hopen
    refine ⟨w', hw', fun next => ?_⟩
    obtain ⟨w'', ⟨-, hnext⟩ | ⟨-, hnext⟩⟩ := hends next (w := { w' with held := false }) rfl
    · exact ⟨_, .inl hnext⟩
    · exact ⟨_, .inr hnext⟩
  · exact WorldM.issueAll_of_held depth hheld hrequests

/-- A closure that panics after a refused call, the requests of a hook inside the lock, and the evaluation that goes on
without them. -/
theorem refuses_reentry_of_hook :
    let requests : List Request := [.evaluate 0 (.source "OUT = 1") [] [], .reset 0 engineName, .session 0,
      .release 0 ⟨7⟩, .releaseValue 0 .null]
    let e : Evaluator :=
      { hooks := [{ requests := requests }, { lateRequests := requests }]
        runtime := some { namespaceDict := ⟨0⟩, searchPath := [] } }
    let w : World := { guest := default, evaluators := #[e] }
    (∃ w', Lock.withinUnwinding (Closure.enters .panics fun _ => .panics).run w = .error {} w' ∧ w'.held = false) ∧
      (∃ records, requests.mapM (WorldM.issue WorldM.requestDepth) { w with held := true } =
        (List.replicate 5 (some .reentrantLock),
          { w with held := true, guest := { w.guest with records } })) ∧
      (WorldM.evaluate 0 (.source "OUT = 2") [] [] w).1 =
        (WorldM.evaluate 0 (.source "OUT = 2") [] [] w.withoutCalls).1 := by
  intro requests e w
  obtain ⟨⟨-, w', hend, -⟩, -⟩ := And.imp_left (fun h => h (Closure.enters .panics fun _ => .panics) rfl)
    (refuses_reentry w)
  refine ⟨?_, ?_, ((refuses_reentry w).2.2 w.withoutCalls 0 _ [] [] w.withoutCalls_withoutCalls.symm).1⟩
  · rcases hend with ⟨hran, -⟩ | ⟨-, hpanicked⟩
    · cases hran
    · exact ⟨_, hpanicked, rfl⟩
  · refine (refuses_reentry { w with held := true }).2.1 1 requests rfl fun request hrequest => ?_
    simp only [requests, List.mem_cons, List.not_mem_nil, or_false] at hrequest
    rcases hrequest with rfl | rfl | rfl | rfl | rfl <;> exact ⟨rfl, by first | rfl | trivial⟩

end World
end ScriptHost
