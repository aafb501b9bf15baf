import ScriptHost.Proofs.Evaluator.SessionNames
import ScriptHost.Proofs.Evaluator.SessionStart

/-! Starts through any history of calls: an evaluator is started once, by a call whose session statements have all run,
in a namespace that is new; a start that fails leaves no trace in it, and what needs a start is refused until there is
one. -/
namespace ScriptHost
open Stepping

/-! ### The namespace of a session -/

namespace GuestM
variable {α β : Type} {a : α}

/-- A computation that has no other answer than a certain one. -/
private def AnswersOnly (a : α) (run : GuestM α) : Prop :=
  ∀ context g b g', run context g = .ok b g' → b = a

private theorem AnswersOnly.pure (a : α) : AnswersOnly a (Pure.pure a) := fun _ _ _ _ h => by
  cases h
  rfl

private theorem AnswersOnly.bind {m : GuestM β} {f : β → GuestM α} (hf : ∀ b, AnswersOnly a (f b)) :
    AnswersOnly a (m >>= f) := fun context g b g' h => by
  rw [reader_bind_run] at h
  cases hm : m context g with
  | ok c g₁ =>
    rw [hm] at h
    exact hf c context g₁ b g' h
  | error f g₁ =>
    rw [hm] at h
    cases h

/-- The namespace of a session is the first object that is made for it. -/
theorem makeNamespace_new {imports : List Script} {context : Context} {g g' : Guest} {namespaceDict : Identity}
    (h : makeNamespace imports context g = .ok namespaceDict g') : namespaceDict = g.next := by
  obtain ⟨rest, hsplit, hrest⟩ : ∃ rest : Identity → GuestM Identity,
      makeNamespace imports = allocate (.dict []) >>= rest ∧ ∀ attributes, AnswersOnly attributes (rest attributes) := by
    refine ⟨_, rfl, fun attributes => ?_⟩
    iterate 10 refine .bind fun _ => ?_
    exact .pure attributes
  rw [hsplit, reader_bind_run, allocate_run] at h
  exact hrest g.next _ _ _ _ h

@[grind ←] theorem spares_readSearchPath {P : Identity → Prop} : Spares P readSearchPath := by
  unfold readSearchPath
  repeat' first | with_reducible refine .bind ?_ fun _ _ => ?_ | split
  all_goals grind

@[grind ←] theorem spares_makeNamespace {P : Identity → Prop} (imports : List Script) : Spares P (makeNamespace imports) := by
  unfold makeNamespace
  repeat' first | with_reducible refine .bind ?_ fun _ _ => ?_ | split
  all_goals grind

end GuestM

/-! ### A start -/

namespace World

/-- The interpreter in which a start makes the namespace of its session. -/
def readied (w : World) : Guest :=
  (WorldM.interpreterPath { w with guest := w.guest.noted WorldM.startRecord }).2.guest.unreported

/-- A runtime comes of a start: its namespace is one as it is made for a session without statements, which was not there
before, and all statements of the session have run in it without an exception. -/
structure Makes (w : World) (i : Nat) (runtime : Runtime) : Prop where
  fresh : ¬ w.guest.Holds runtime.namespaceDict
  counts : runtime.counts = ∅
  ran : ∃ g g', GuestM.makeNamespace [] w.readied.topContext w.readied = .ok runtime.namespaceDict g ∧
    GuestM.sessionStatements runtime.namespaceDict (w.evaluator i).config.sessionImports w.readied.topContext g =
      .ok ⟨⟩ g'

end World

namespace WorldM
variable {w w' : World} {i : Nat} {runtime : Runtime}

private theorem interpreterPath_grows (hheld : w.held = true) :
    w.guest.heap.size ≤ (interpreterPath w).2.guest.heap.size := by
  unfold interpreterPath
  rw [bind_run, get_run]
  cases w.interpreterPath with
  | some path => exact Nat.le_refl _
  | none =>
    have hread := (Spares.guest (n := ⟨0⟩) (GuestM.spares_readSearchPath (P := everything)) w hheld
      (Guest.isClosed_everything _) (within_everything _)).1.guest.prints.grows
    dsimp only
    rw [bind_run]
    rcases hran : guest GuestM.readSearchPath w with ⟨f | path, w'⟩
    all_goals
      rw [hran] at hread
      exact hread

/-- A start that has begun makes a namespace in which all its statements have run, or it fails and the evaluators are as
before. -/
theorem ensureStarted_cases (hheld : w.held = true) (hnone : (w.evaluator i).runtime = none) :
    (∃ f w', ensureStarted i w = (.error f, w') ∧ w'.evaluators = w.evaluators ∧ w'.held = true) ∨
      ∃ runtime w', ensureStarted i w = (.ok runtime, w') ∧ w.Makes i runtime ∧ w'.held = true ∧
        w'.evaluators = w.evaluators.modify i fun e => { e with runtime := some runtime } := by
  have hgrows := interpreterPath_grows (w := { w with guest := w.guest.noted startRecord }) hheld
  rcases ensureStarted_outcome hheld hnone with hfailed | ⟨made, w', g, hrun, hmade, hcounts, hstill, hkept⟩
  · exact .inl hfailed
  · rw [GuestM.atTop_eq] at hmade
    refine .inr ⟨made, w', hrun, ⟨?_, hcounts, ?_⟩, hstill, hkept⟩
    · rw [GuestM.makeNamespace_new hmade]
      exact Nat.not_lt.mpr hgrows
    · rw [GuestM.makeNamespace_run] at hmade
      cases hempty : GuestM.makeNamespace [] w.readied.topContext w.readied with
      | error f g₁ =>
        rw [← World.readied, hempty] at hmade
        cases hmade
      | ok n g₁ =>
        rw [← World.readied, hempty] at hmade
        dsimp only at hmade
        cases hran : GuestM.sessionStatements n (w.evaluator i).config.sessionImports w.readied.topContext g₁ with
        | error f g₂ =>
          rw [hran] at hmade
          cases hmade
        | ok _ g₂ =>
          rw [hran] at hmade
          cases hmade
          exact ⟨g₁, g, rfl, hran⟩

end WorldM

/-! ### Calls -/

/-- The worlds in which a call of a host finds out whether an evaluator is started, and starts it otherwise. -/
inductive HostCall.Enters (i : Nat) (w : World) : HostCall → World → Prop
  | evaluation (code : Script) (names : List String) (values : List Value) :
    Enters i w (.evaluate i code names values) (w.opened i names values).2
  | session (run : TransferM Unit) : Enters i w (.session i run) { w with held := true }

theorem HostCall.Enters.evaluator {c : HostCall} {i : Nat} {w inside : World} (h : c.Enters i w inside) :
    inside.held = true ∧ inside.evaluator i = w.evaluator i := by
  cases h <;> exact ⟨rfl, rfl⟩

namespace WorldM
variable {w w' : World} {i j : Nat} {runtime : Runtime} {α : Type}

/-- A computation inside the lock that starts one evaluator first, and then no other. -/
private theorem after_start {next : Except Fault Runtime → WorldM α} (hnext : ∀ answer, (next answer).StartsNothing)
    (hheld : w.held = true) (j : Nat) :
    (((ensureStarted i >>= next) w).2.evaluator j).standing.2 = (w.evaluator j).standing.2 ∨ j = i ∧
      (w.evaluator i).runtime = none ∧ ∃ runtime started, ensureStarted i w = (.ok runtime, started) ∧
        (((ensureStarted i >>= next) w).2.evaluator j).standing.2 = some (runtime.namespaceDict, runtime.searchPath) := by
  have hstays := hnext (ensureStarted i w).1 (ensureStarted i w).2
  rw [bind_run]
  cases hruntime : (w.evaluator i).runtime with
  | some runtime =>
    rw [ensureStarted_run hruntime] at hstays ⊢
    exact .inl (congrArg Prod.snd ((hstays hheld).standing j))
  | none =>
    rcases ensureStarted_cases hheld hruntime with
      ⟨f, started, hstart, hevaluators, hstill⟩ | ⟨runtime, started, hstart, -, hstill, hevaluators⟩
    all_goals
      rw [hstart] at hstays ⊢
      have hafter := congrArg Prod.snd ((hstays hstill).standing j)
    · refine .inl (hafter.trans ?_)
      rw [World.evaluator, hevaluators, ← World.evaluator]
    · rw [World.evaluator_modify hevaluators] at hafter
      split at hafter
      · next hj => exact .inr ⟨hj.1, rfl, runtime, started, rfl, hafter⟩
      · exact .inl hafter

/-- What an evaluation does once its evaluator is started starts no other. -/
private theorem evaluate_after_start (hopen : w.held = false) (code : Script) (names : List String)
    (values : List Value) : ∃ next : Except Fault Runtime → WorldM (Except EvalError Value),
      (∀ answer, (next answer).StartsNothing) ∧
      (∀ f, ∃ r, ∀ w, next (.error f) w = (.ok .null, { w with guest := w.guest.noted r })) ∧
      evaluate i code names values w = (((ensureStarted i >>= next) (w.opened i names values).2).1,
        { ((ensureStarted i >>= next) (w.opened i names values).2).2 with held := false }) := by
  rcases hbindings : Bindings.ofArguments (w.evaluator i).config names values with ⟨bindings, records⟩
  rw [evaluate_inside hopen hbindings, World.opened, hbindings]
  extract_lets run
  obtain ⟨next, hnext, hfailed, hrun⟩ : ∃ next, (∀ answer, (next answer).StartsNothing) ∧
      (∀ f, ∃ r, ∀ w, next (.error f) w = (.ok .null, { w with guest := w.guest.noted r })) ∧
      run = ensureStarted i >>= next := by
    refine ⟨_, fun answer => ?_, fun f => ?_, rfl⟩
    · cases answer with
      | error f => exact .bind (.record _ _ _) fun _ => .pure _
      | ok runtime => exact startsNothing_evaluateIn i runtime (w.evaluator i) code bindings
    · exact ⟨_, fun w => rfl⟩
  rw [hrun]
  exact ⟨next, hnext, hfailed, rfl⟩

/-- A session starts its evaluator first; if that fails, nothing is run. -/
private theorem session_after_start (hopen : w.held = false) (run : TransferM α) :
    ∃ next : Except Fault Runtime → WorldM (Except EvalError (Except Fault α)),
      (∀ answer, (next answer).StartsNothing) ∧ (∀ f w, next (.error f) w = (.error (.ofFault f), w)) ∧
      session i run w = (((ensureStarted i >>= next) { w with held := true }).1,
        { ((ensureStarted i >>= next) { w with held := true }).2 with held := false }) := by
  unfold session
  rw [bind_run, within_run _ hopen]
  refine ⟨_, fun answer => ?_, fun f w => ?_, rfl⟩
  · cases answer with
    | error f => exact .pure _
    | ok runtime => exact .bind (.cross i runtime run) fun _ => .pure _
  · rfl

end WorldM

namespace HostCall
variable {w : World}

/-- A call that starts its evaluator first, if that is not started, and then no other. -/
private theorem standing_of_entered {c : HostCall} {inside : World} {j : Nat} {α : Type}
    {next : Except Fault Runtime → WorldM α} (henters : c.Enters j w inside)
    (hnext : ∀ answer, (next answer).StartsNothing)
    (hrun : c.run w = { ((WorldM.ensureStarted j >>= next) inside).2 with held := false }) (i : Nat) :
    (c.run w).held = false ∧
    (((c.run w).evaluator i).standing.2 = (w.evaluator i).standing.2 ∨ (w.evaluator i).runtime = none ∧
      ∃ inside runtime started, c.Enters i w inside ∧ WorldM.ensureStarted i inside = (.ok runtime, started) ∧
        ((c.run w).evaluator i).standing.2 = some (runtime.namespaceDict, runtime.searchPath)) := by
  rw [hrun]
  refine ⟨rfl, ?_⟩
  have hsame : inside.evaluator i = w.evaluator i := by cases henters <;> rfl
  rcases WorldM.after_start (i := j) hnext henters.evaluator.1 i with
    hkept | ⟨rfl, hnone, runtime, started, hstart, hstanding⟩
  · exact .inl (hsame ▸ hkept)
  · exact .inr ⟨hsame ▸ hnone, inside, runtime, started, henters, hstart, hstanding⟩

/-- An evaluator is as it was before a call, but for what it can be equipped with and for its counts, or else the call
has started it. -/
theorem run_standing (c : HostCall) (i : Nat) (hopen : w.held = false) : (c.run w).held = false ∧
    (((c.run w).evaluator i).standing.2 = (w.evaluator i).standing.2 ∨ (w.evaluator i).runtime = none ∧
      ∃ inside runtime started, c.Enters i w inside ∧ WorldM.ensureStarted i inside = (.ok runtime, started) ∧
        ((c.run w).evaluator i).standing.2 = some (runtime.namespaceDict, runtime.searchPath)) := by
  cases c with
  | evaluate j code names values =>
    obtain ⟨next, hnext, -, hrun⟩ := WorldM.evaluate_after_start (i := j) hopen code names values
    exact standing_of_entered (.evaluation code names values) hnext (by rw [run, hrun]) i
  | reset j engine =>
    have hstays := WorldM.reset_stays (i := j) hopen engine
    exact ⟨hstays.held.trans hopen, .inl (congrArg Prod.snd (hstays.standing i))⟩
  | session j closure =>
    obtain ⟨next, hnext, -, hrun⟩ := WorldM.session_after_start (i := j) hopen closure
    exact standing_of_entered (.session closure) hnext (by rw [run, hrun]) i
  | whenStarted j run =>
    have hstays := WorldM.whenStarted_stays (i := j) hopen run
    exact ⟨hstays.held.trans hopen, .inl (congrArg Prod.snd (hstays.standing i))⟩
  | create config converters hooks =>
    refine ⟨hopen, .inl ?_⟩
    rw [run, World.evaluator, World.evaluator, Array.getD_eq_getD_getElem?, Array.getD_eq_getD_getElem?,
      Array.getElem?_push]
    split
    · next hi =>
      rw [hi, Array.getElem?_size]
      rfl
    · rfl
  | equip j converters hooks =>
    refine ⟨hopen, .inl ?_⟩
    rw [run, World.evaluator_modify (f := fun e => { e with converters, hooks }) rfl]
    split <;> rfl
  | setVariables process => exact ⟨hopen, .inl rfl⟩

end HostCall

/-! ### Histories of calls -/

/-- A runtime is told by its namespace and its search path, but for its counts. -/
theorem Evaluator.runtime_of_standing {e : Evaluator} {runtime : Runtime}
    (h : e.standing.2 = some (runtime.namespaceDict, runtime.searchPath)) :
    ∃ counts, e.runtime = some { runtime with counts } := by
  obtain ⟨found, hfound, hsame⟩ := Option.map_eq_some_iff.mp h
  obtain ⟨n, counts, path⟩ := found
  cases hsame
  exact ⟨counts, hfound⟩

namespace World
variable {w w₀ : World} {i : Nat} {runtime : Runtime}

/-- The world after calls of a host, one after the other. -/
def afterCalls (w : World) (calls : List HostCall) : World := calls.foldl (fun w c => c.run w) w

theorem afterCalls_open (hopen : w.held = false) (calls : List HostCall) : (w.afterCalls calls).held = false := by
  induction calls generalizing w with
  | nil => exact hopen
  | cons c calls ih => exact ih (c.run_standing 0 hopen).1

/-- An evaluator that is started stays started, with the namespace and the search path that it has. -/
theorem afterCalls_started (hopen : w.held = false) (hstarted : (w.evaluator i).runtime = some runtime)
    (calls : List HostCall) :
    ∃ counts, ((w.afterCalls calls).evaluator i).runtime = some { runtime with counts } := by
  induction calls generalizing w runtime with
  | nil => exact ⟨runtime.counts, hstarted⟩
  | cons c calls ih =>
    obtain ⟨hclosed, hsame | ⟨hnone, _⟩⟩ := c.run_standing i hopen
    · obtain ⟨counts, hnext⟩ := Evaluator.runtime_of_standing (hsame.trans (congrArg (Option.map _) hstarted))
      obtain ⟨later, hlater⟩ := ih hclosed hnext
      exact ⟨later, hlater⟩
    · rw [hstarted] at hnone
      cases hnone

/-- What a host meets where an evaluator is not started: it has no handles, what needs a start is refused, a reset does
nothing, a start that fails leaves the evaluators as they are and is all that its call does, and no call starts the
evaluator but one whose start has made a namespace for it. -/
structure AwaitsStart (w : World) (i : Nat) : Prop where
  handles : (w.evaluator i).handleCount = 0
  release : ∀ id, WorldM.release i id w = (.error .notStarted, w)
  releaseValue : ∀ v, WorldM.releaseValue i v w = (.error .notStarted, w)
  handleText : ∀ id, WorldM.handleText i id w = (.error .notStarted, w)
  reset : ∀ engine, ∃ r, WorldM.reset i engine w = (.ok none, { w with guest := w.guest.noted r })
  evaluate : ∀ code names values f failed, WorldM.ensureStarted i (w.opened i names values).2 = (.error f, failed) →
    failed.evaluators = w.evaluators ∧ ∃ r, WorldM.evaluate i code names values w =
      (.ok .null, { failed with guest := failed.guest.noted r, held := false })
  session : ∀ (α : Type) (run : TransferM α) f failed,
    WorldM.ensureStarted i { w with held := true } = (.error f, failed) →
    failed.evaluators = w.evaluators ∧ WorldM.session i run w = (.error (.ofFault f), { failed with held := false })
  start : ∀ c : HostCall, ((c.run w).evaluator i).isStarted = true → ∃ inside runtime started, c.Enters i w inside ∧
    WorldM.ensureStarted i inside = (.ok runtime, started) ∧ inside.Makes i runtime ∧
    ∃ counts, ((c.run w).evaluator i).runtime = some { runtime with counts }

private theorem whenStarted_of_unstarted {α : Type} (hnone : (w.evaluator i).runtime = none) (run : TransferM α) :
    WorldM.whenStarted i run w = (.error .notStarted, w) := by
  unfold WorldM.whenStarted
  rw [WorldM.bind_run, WorldM.get_run]
  simp only [hnone]
  rfl

private theorem evaluators_of_failed {inside failed : World} {f : Fault}
    (hstart : WorldM.ensureStarted i inside = (.error f, failed)) (hheld : inside.held = true) :
    failed.evaluators = inside.evaluators := by
  cases hruntime : (inside.evaluator i).runtime with
  | some runtime =>
    rw [WorldM.ensureStarted_run hruntime] at hstart
    cases hstart
  | none =>
    rcases WorldM.ensureStarted_cases hheld hruntime with ⟨_, _, hfailed, hkept, -⟩ | ⟨_, _, hmade, -⟩
    · rw [hstart] at hfailed
      cases hfailed
      exact hkept
    · rw [hstart] at hmade
      cases hmade

theorem awaitsStart (hopen : w.held = false) (hnone : (w.evaluator i).runtime = none) : w.AwaitsStart i where
  handles := by
    rw [Evaluator.handleCount, hnone]
    rfl
  release id := whenStarted_of_unstarted hnone _
  releaseValue v := whenStarted_of_unstarted hnone _
  handleText id := whenStarted_of_unstarted hnone _
  reset := WorldM.reset_of_unstarted hnone
  evaluate code names values f failed hstart := by
    obtain ⟨next, -, hfailed, hrun⟩ := WorldM.evaluate_after_start (i := i) hopen code names values
    obtain ⟨r, hnull⟩ := hfailed f
    have hkept := evaluators_of_failed hstart rfl
    refine ⟨hkept, r, ?_⟩
    rw [hrun, WorldM.bind_run, hstart, hnull]
  session α run f failed hstart := by
    obtain ⟨next, -, hfailed, hrun⟩ := WorldM.session_after_start (i := i) hopen run
    have hkept := evaluators_of_failed hstart rfl
    refine ⟨hkept, ?_⟩
    rw [hrun, WorldM.bind_run, hstart, hfailed]
  start c hstarted := by
    obtain ⟨-, hsame | ⟨-, inside, runtime, started, henters, hstart, hstanding⟩⟩ := c.run_standing i hopen
    · rw [Evaluator.standing, Evaluator.standing, hnone] at hsame
      rw [Evaluator.isStarted, Option.map_eq_none_iff.mp hsame] at hstarted
      cases hstarted
    · obtain ⟨hheld, hevaluator⟩ := henters.evaluator
      rcases WorldM.ensureStarted_cases hheld (hevaluator ▸ hnone) with
        ⟨f, _, hfailed, -⟩ | ⟨made, _, hmade, hmakes, -⟩
      · rw [hstart] at hfailed
        cases hfailed
      · obtain rfl : runtime = made := by
          rw [hstart] at hmade
          cases hmade
          rfl
        exact ⟨inside, runtime, started, henters, hstart, hmakes, Evaluator.runtime_of_standing hstanding⟩

/-- The scripts of an evaluator that is started begin in scopes that are made over its namespace. -/
private theorem scope_of_started (hstarted : (w.evaluator i).runtime = some runtime) {names : List String}
    {values : List Value} {found : Runtime} {stage : Stage} {w' : World}
    (hready : w.ready i names values = (.ok (found, stage), w')) : found = runtime ∧ ∃ w₁ w₂ scope,
      WorldM.cross i runtime Scope.make w₁ = (.ok scope, w₂) ∧ stage.scope.globals = scope.globals := by
  obtain ⟨w₁, w₂, hannounced, hprepare, -⟩ := ready_ok hready
  have hfound : WorldM.ensureStarted i (w.opened i names values).2 = (.ok runtime, (w.opened i names values).2) :=
    WorldM.ensureStarted_run hstarted
  obtain rfl : runtime = found := by
    unfold announced at hannounced
    simp only [hfound] at hannounced
    cases hannounced
    rfl
  obtain ⟨w₃, w₄, scope, -, -, hmake, -, hscope, -⟩ := WorldM.prepare_ok hprepare
  exact ⟨rfl, w₃, w₄, scope, hmake, by rw [hscope]⟩

/-- Whatever calls a host makes, an evaluator that they have started stays started, with its namespace and its search
path: every later call finds it so, without another start, and every later script begins in a scope made over that
namespace. An evaluator that they have not started awaits its start. -/
theorem starts_once (hopen : w₀.held = false) (calls : List HostCall) (i : Nat) :
    (∀ runtime, ((w₀.afterCalls calls).evaluator i).runtime = some runtime → ∀ later : List HostCall, ∃ counts,
      let w := (w₀.afterCalls calls).afterCalls later
      (w.evaluator i).runtime = some { runtime with counts } ∧
        (∀ (c : HostCall) inside, c.Enters i w inside →
          WorldM.ensureStarted i inside = (.ok { runtime with counts }, inside)) ∧
        ∀ names values found stage w', w.ready i names values = (.ok (found, stage), w') →
          found = { runtime with counts } ∧ ∃ w₁ w₂ scope,
            WorldM.cross i { runtime with counts } Scope.make w₁ = (.ok scope, w₂) ∧
              stage.scope.globals = scope.globals) ∧
      (((w₀.afterCalls calls).evaluator i).runtime = none → (w₀.afterCalls calls).AwaitsStart i) := by
  have hclosed := afterCalls_open hopen calls
  refine ⟨fun runtime hstarted later => ?_, fun hnone => awaitsStart hclosed hnone⟩
  obtain ⟨counts, hstill⟩ := afterCalls_started hclosed hstarted later
  refine ⟨counts, hstill, fun c inside henters => WorldM.ensureStarted_run ?_, fun _ _ _ _ _ => scope_of_started hstill⟩
  rw [henters.evaluator.2, hstill]

/-- Of two evaluators one is started. A reset of the other one starts nothing, and that one awaits its start. -/
theorem starts_once_beside_another :
    let w₀ : World := { guest := .minimal, evaluators := #[{ runtime := some ⟨Guest.minimalNamespace, ∅, []⟩ }, {}] }
    let w := w₀.afterCalls [.reset 1 engineName]
    w.AwaitsStart 1 ∧ ∀ later : List HostCall, ∃ counts,
      ((w.afterCalls later).evaluator 0).runtime = some ⟨Guest.minimalNamespace, counts, []⟩ := by
  intro w₀ w
  obtain ⟨hstarted, -⟩ := starts_once (show w₀.held = false from rfl) [.reset 1 engineName] 0
  obtain ⟨-, hawaits⟩ := starts_once (show w₀.held = false from rfl) [.reset 1 engineName] 1
  refine ⟨hawaits rfl, fun later => ?_⟩
  obtain ⟨counts, hstill, -⟩ := hstarted ⟨Guest.minimalNamespace, ∅, []⟩ rfl later
  exact ⟨counts, hstill⟩

end World
end ScriptHost
