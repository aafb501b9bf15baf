import ScriptHost.Proofs.Convert.Delivery
import ScriptHost.Proofs.Evaluator.Inside

/-! The course of an evaluation: what a script leaves behind when it has run to its end, and that the answer is
what the output binding converts to there. -/
namespace ScriptHost

/-- The scope that a script has run to its end in, and the crossing that it leaves behind. -/
def World.left? (w : World) (i : Nat) (code : Script) (names : List String) (values : List Value) :
    Option (Scope × Transfer) :=
  let e := w.evaluator i
  let (bindings, records) := Bindings.ofArguments e.config names values
  match e.runtime with
  | none => none
  | some runtime =>
    let inside := { w with guest := records.foldl Guest.noted w.guest, held := true }
    match WorldM.begin (WorldM.issue WorldM.requestDepth) i runtime e bindings inside with
    | (.error _, _) => none
    | (.ok stage, begun) =>
      match Scope.execute stage.scope code (begun.crossing i runtime) with
      | .ok (.ok (), scope) t => some (scope, t)
      | _ => none

/-- The world once the lock is opened after a crossing of an evaluator, whose interpreter has gone on. -/
structure World.ClosedAfter (w : World) (i : Nat) (runtime : Runtime) (counts : Counts) (w' : World) : Prop where
  evaluator : w'.evaluator i = { w.evaluator i with runtime := some { runtime with counts } }
  others : ∀ j, j ≠ i → w'.evaluator j = w.evaluator j
  held : w'.held = false

/-- The world once a crossing of an evaluator has ended and nothing but the journal was written since. -/
structure World.Concluded (w : World) (i : Nat) (t : Transfer) (w' : World) : Prop where
  evaluators : w'.evaluators = WorldM.keepCounts w.evaluators i t.counts
  held : w'.held = w.held
  guest : t.guest.Proceeds (fun _ => False) w'.guest

/-- Reading a name of a scope writes nothing but the journal, however the interpreter has proceeded. -/
def Scope.ReadsFreely (scope : Scope) (table : ConverterTable) (g : Guest) (name : String) : Prop :=
  ∀ t : Transfer, g.Proceeds (fun _ => False) t.guest → ∃ found t',
    Scope.get table scope name t = .ok found t' ∧ t'.counts = t.counts ∧ t.guest.Proceeds (fun _ => False) t'.guest

theorem Scope.ReadsFreely.proceeds {scope : Scope} {table : ConverterTable} {g g' : Guest} {name : String}
    (h : scope.ReadsFreely table g name) (hg : g.Proceeds (fun _ => False) g') : scope.ReadsFreely table g' name :=
  fun t ht => h t (hg.trans ht)

namespace Scope
variable {t t' : Transfer} {scope : Scope} {table : ConverterTable} {name : String}

private theorem state_run (t : Transfer) : EStateM.get t = (.ok t t : EStateM.Result Fault Transfer Transfer) := rfl

theorem get_of_unbound (h : t.guest.lookup scope.globals (.ofString name) = none) :
    get table scope name t = .ok none t := by
  unfold get
  simp only [Stepping.bind_run, state_run, h]
  rfl

theorem get_of_bound {obj : Identity} {v : Value} (hbound : t.guest.lookup scope.globals (.ofString name) = some obj)
    (hrun : Outbound.marshalOrHandle table.outbound obj { t with active := [], acquired := #[] } = .ok v t') :
    get table scope name t = .ok (some v) t' := by
  unfold get TransferM.anew
  simp only [Stepping.bind_run, state_run, hbound, Stepping.map_run, Stepping.modify_run, hrun]

end Scope

namespace WorldM
variable {i : Nat} {runtime : Runtime} {w : World} {code : Script} {names : List String} {values : List Value}

theorem staysInside_begin (i : Nat) (runtime : Runtime) (e : Evaluator) (bindings : Bindings) :
    (begin (issue requestDepth) i runtime e bindings).StaysInside :=
  composes_staysInside.begin (staysInside_prepare i runtime e bindings)
    (staysInside_notifyStarted requestDepth i runtime e.converters)

/-- An evaluator that has been started is one of the world's. -/
theorem lt_size_of_runtime (h : (w.evaluator i).runtime = some runtime) : i < w.evaluators.size := by
  by_contra hout
  rw [World.evaluator, Array.getD_eq_getD_getElem?, Array.getElem?_eq_none (Nat.le_of_not_lt hout)] at h
  cases h

theorem getD_keepCounts (w : World) (i : Nat) (counts : Counts) (j : Nat) :
    (keepCounts w.evaluators i counts).getD j default = if j = i ∧ i < w.evaluators.size then
      { w.evaluator j with runtime := (w.evaluator j).runtime.map fun r => { r with counts } } else w.evaluator j := by
  have hmodified : ({ w with evaluators := keepCounts w.evaluators i counts } : World).evaluators =
    w.evaluators.modify i fun e => { e with runtime := e.runtime.map fun r => { r with counts } } := rfl
  exact World.evaluator_modify hmodified j

theorem evaluator_keepCounts (h : (w.evaluator i).runtime = some runtime) (counts : Counts) :
    (keepCounts w.evaluators i counts).getD i default =
      { w.evaluator i with runtime := some { runtime with counts } } := by
  rw [getD_keepCounts, if_pos ⟨rfl, lt_size_of_runtime h⟩, h, Option.map_some]

theorem evaluator_keepCounts_of_ne {j : Nat} (hne : j ≠ i) (counts : Counts) :
    (keepCounts w.evaluators i counts).getD j default = w.evaluator j := by
  rw [getD_keepCounts, if_neg fun h => hne h.1]

/-- A script that has run to its end leaves its scope with the same names. -/
theorem execute_ok_iff {scope scope' : Scope} {t t' : Transfer} :
    Scope.execute scope code t = .ok (.ok (), scope') t' ↔
      TransferM.guest (GuestM.runScript scope.globals code) t = .ok ⟨⟩ t' ∧
        scope' = { scope with state := .executing } := by
  unfold Scope.execute
  rw [Stepping.bind_run, Stepping.attempt_run]
  cases hrun : TransferM.guest (GuestM.runScript scope.globals code) t with
  | ok a t₁ =>
    refine ⟨fun h => ?_, ?_⟩
    · cases h
      exact ⟨rfl, rfl⟩
    · rintro ⟨⟨⟩, rfl⟩
      rfl
  | error f t₁ => exact ⟨nofun, nofun⟩

theorem runIn_of_left {scope scope' : Scope} {t t' : Transfer} {table : ConverterTable} {output : String}
    {found : Option Value} (hexecute : Scope.execute scope code (w.crossing i runtime) = .ok (.ok (), scope') t)
    (hget : Scope.get table scope' output t = .ok found t') :
    runIn i runtime table scope code output w =
      ((.ok found, { scope' with state := .readBack }), w.crossed i t') := by
  have hstate : scope'.state ≠ .tornDown := by
    rw [(execute_ok_iff.mp hexecute).2]
    exact nofun
  have hread : Scope.read table scope' output t = .ok (found, { scope' with state := .readBack }) t' := by
    simp [Scope.read, hstate, hget]
  unfold runIn
  rw [bind_run, cross_run]
  simp only [Stepping.bind_run, hexecute, hread, Stepping.pure_run]
  rfl

private theorem readings_of_free {table : ConverterTable} {scope : Scope} {t : Transfer}
    (h : ∀ name ∈ names, scope.ReadsFreely table t.guest name) :
    ∃ found t', readings table scope names t = .ok found t' ∧ t'.counts = t.counts ∧
      t.guest.Proceeds (fun _ => False) t'.guest := by
  induction names generalizing t with
  | nil => exact ⟨[], t, rfl, rfl, .refl _⟩
  | cons name names ih =>
    obtain ⟨hname, hnames⟩ := List.forall_mem_cons.mp h
    obtain ⟨found, t₁, hrun₁, hcounts₁, hproceeds₁⟩ := hname t (.refl _)
    obtain ⟨more, t₂, hrun₂, hcounts₂, hproceeds₂⟩ :=
      ih fun other hother => (hnames other hother).proceeds hproceeds₁
    refine ⟨found :: more, t₂, ?_, hcounts₂.trans hcounts₁, hproceeds₁.trans hproceeds₂⟩
    unfold readings
    simp only [Stepping.bind_run, hrun₁, hrun₂, Stepping.pure_run]

/-- Hooks that read freely write nothing but the journal. -/
private theorem notifyFinished_of_free (depth i : Nat) (runtime : Runtime) (table : ConverterTable) (scope : Scope)
    (outcome : Outcome) (values : List Value) (hooks : List (Nat × Hook))
    (hheld : w.held = true) (h : ∀ hook ∈ hooks, ∀ name ∈ hook.2.read, scope.ReadsFreely table w.guest name) :
    let after := (notifyFinished (issue depth) i runtime table scope outcome values hooks w).2
    after.evaluators = w.evaluators ∧ after.held = w.held ∧ w.guest.Proceeds (fun _ => False) after.guest := by
  induction hooks generalizing w with
  | nil => exact ⟨rfl, rfl, .refl _⟩
  | cons hook hooks ih =>
    obtain ⟨hhook, hhooks⟩ := List.forall_mem_cons.mp h
    obtain ⟨found, t, hrun, hcounts, hproceeds⟩ := readings_of_free (t := w.crossing i runtime) fun name hname =>
      (hhook name hname).proceeds (Guest.proceeds_unreported w.guest)
    have hsame : (w.crossed i t).evaluators = w.evaluators := by
      rw [World.crossed, hcounts]
      exact keepCounts_self w.evaluators i
    unfold notifyFinished
    rw [bind_run, cross_run, hrun, bind_run, bind_run]
    obtain ⟨w₁, hw₁⟩ : ∃ w₁, (notify (.finished hook.1 outcome values found) (w.crossed i t)).2 = w₁ := ⟨_, rfl⟩
    have hheld₁ : w₁.held = true := hw₁ ▸ hheld
    have hnotified : w.guest.Proceeds (fun _ => False) w₁.guest :=
      hw₁ ▸ hproceeds.reported.trans (Guest.proceeds_of_same rfl rfl rfl rfl)
    obtain ⟨hkept₁, hstill⟩ := StaysInside.carryOut depth hook.1 hook.2.lateRequests w₁ hheld₁
    have hcalled := hnotified.trans (carryOut_proceeds depth hook.1 hook.2.lateRequests hheld₁)
    obtain ⟨hkept, hheld', hlater⟩ := ih hstill
      fun other hother name hname => (hhooks other hother name hname).proceeds hcalled
    dsimp only
    rw [hw₁]
    refine ⟨hkept.trans (hkept₁.trans ?_), hheld'.trans (hstill.trans hheld.symm), hcalled.trans hlater⟩
    rw [← hw₁]
    exact hsame

theorem conclude_of_left {e : Evaluator} {scope scope' : Scope} {t t' : Transfer} (bindings : Bindings)
    {found : Option Value} (hheld : w.held = true)
    (hexecute : Scope.execute scope code (w.crossing i runtime) = .ok (.ok (), scope') t)
    (hget : Scope.get e.converters scope' e.config.outputBinding t = .ok found t') :
    ∃ w', conclude (issue requestDepth) i runtime e scope code bindings w = (.ok (found.getD .null), w') ∧
      ((∀ hook ∈ e.hooks, ∀ name ∈ hook.read, scope'.ReadsFreely e.converters t'.guest name) →
        w.Concluded i t' w') := by
  refine ⟨(notifyFinished (issue requestDepth) i runtime e.converters { scope' with state := .readBack } .success
    (bindings.pairs.map (·.2)) (numbered e.hooks) (w.crossed i t')).2, ?_, fun hreads => ?_⟩
  · unfold conclude
    rw [bind_run, runIn_of_left hexecute hget]
    rfl
  · obtain ⟨hkept, hstill, hlater⟩ := notifyFinished_of_free (w := w.crossed i t') requestDepth i runtime e.converters
      { scope' with state := .readBack } .success (bindings.pairs.map (·.2)) (numbered e.hooks) hheld
      fun hook hhook name hname =>
        (hreads hook.2 (hook_of_mem_numbered hhook) name hname).proceeds (Guest.proceeds_reporting w.guest t'.guest)
    exact ⟨hkept, hstill, (Guest.proceeds_reporting w.guest t'.guest).trans hlater⟩

/-- A script that raises is not read: its scope is torn down. -/
theorem runIn_of_raised {scope : Scope} {t : Transfer} {f : Fault} (table : ConverterTable) (output : String)
    (hran : TransferM.guest (GuestM.runScript scope.globals code) (w.crossing i runtime) = .error f t) :
    ∃ r, runIn i runtime table scope code output w =
      ((.error (.ofScriptFault f), { scope with state := .tornDown }),
        w.crossed i { t with guest := t.guest.noted r }) := by
  refine ⟨⟨.debug, .scope, "[Scope] script raised: " ++ f.message⟩, ?_⟩
  unfold runIn Scope.execute
  rw [bind_run, cross_run]
  simp only [Stepping.bind_run, Stepping.attempt_run, hran, TransferM.record_run, Stepping.pure_run]
  rfl

/-- The exception of a script is the answer, and the hooks are notified all the same. -/
theorem conclude_of_raised {e : Evaluator} {scope : Scope} {t : Transfer} {f : Fault} (bindings : Bindings)
    (hheld : w.held = true)
    (hran : TransferM.guest (GuestM.runScript scope.globals code) (w.crossing i runtime) = .error f t) :
    ∃ w', conclude (issue requestDepth) i runtime e scope code bindings w = (.error (.ofScriptFault f), w') ∧
      ((∀ hook ∈ e.hooks, hook.read = []) → w.Concluded i t w') := by
  obtain ⟨r, hrun⟩ := runIn_of_raised e.converters e.config.outputBinding hran
  obtain ⟨w₁, hw₁⟩ : ∃ w₁, w.crossed i { t with guest := t.guest.noted r } = w₁ := ⟨_, rfl⟩
  obtain ⟨w₂, hfinished⟩ : ∃ w₂, notifyFinished (issue requestDepth) i runtime e.converters
    { scope with state := .tornDown } .failed (bindings.pairs.map (·.2)) (numbered e.hooks) w₁ = (⟨⟩, w₂) := ⟨_, rfl⟩
  refine ⟨{ w₂ with guest := w₂.guest.noted ⟨.debug, .evaluator,
    "[Evaluator] Evaluation for " ++ bindings.label ++ " failed: " ++ (EvalError.ofScriptFault f).message⟩ }, ?_,
    fun hreads => ?_⟩
  · unfold conclude
    rw [bind_run, hrun, hw₁]
    dsimp only
    have hfailed : (Except.error (EvalError.ofScriptFault f) : Except EvalError (Option Value)).isOk = false := rfl
    rw [bind_run, hfailed, if_neg Bool.false_ne_true, hfinished]
    rfl
  · have hheld₁ : w₁.held = true := hw₁ ▸ hheld
    obtain ⟨hkept, hstill, hlater⟩ := notifyFinished_of_free (w := w₁) requestDepth i runtime e.converters
      { scope with state := .tornDown } .failed (bindings.pairs.map (·.2)) (numbered e.hooks) hheld₁
      fun hook hhook name hname => by
        rw [hreads hook.2 (hook_of_mem_numbered hhook)] at hname
        cases hname
    rw [hfinished] at hkept hstill hlater
    subst hw₁
    exact ⟨hkept, hstill, (Guest.proceeds_noted _ r).trans
      ((Guest.proceeds_reporting w.guest _).trans (hlater.trans (Guest.proceeds_noted _ _)))⟩

theorem within_run {α : Type} (run : WorldM α) (hopen : w.held = false) :
    Lock.within run w =
      (.ok (run { w with held := true }).1, { (run { w with held := true }).2 with held := false }) := by
  unfold Lock.within
  rw [bind_run, get_run, hopen]
  rfl

theorem ensureStarted_run (hstarted : (w.evaluator i).runtime = some runtime) :
    ensureStarted i w = (.ok runtime, w) := by
  unfold ensureStarted
  rw [bind_run, get_run]
  simp only [hstarted]
  rfl

/-- The record of a start. -/
def startRecord : Record := ⟨.info, .evaluator, "[Evaluator] Starting interpreter runtime"⟩

/-- A start reads the path that the interpreter had, unless that is known, and makes a namespace. -/
theorem ensureStarted_attempt (hnone : (w.evaluator i).runtime = none) : ensureStarted i w =
    match interpreterPath { w with guest := w.guest.noted startRecord } with
    | (.error f, w₁) => (.error f, w₁)
    | (.ok path, w₁) =>
      match GuestM.atTop (GuestM.makeNamespace (w.evaluator i).config.sessionImports) w₁.guest.unreported with
      | .error f g => (.error f, { w₁ with guest := w₁.guest.reporting g })
      | .ok namespaceDict g =>
        let runtime : Runtime :=
          { namespaceDict, searchPath := SearchPath.forConfig (w.evaluator i).config w₁.environment path }
        (.ok runtime, (keepRuntime i runtime { w₁ with guest := w₁.guest.reporting g }).2) := by
  unfold ensureStarted
  rw [bind_run, get_run]
  simp only [hnone]
  rw [bind_run, record_run, ← startRecord, bind_run]
  rcases interpreterPath { w with guest := w.guest.noted startRecord } with ⟨f | path, w₁⟩
  · rfl
  · dsimp only
    rw [bind_run, get_run, bind_run, guest_run]
    cases GuestM.atTop (GuestM.makeNamespace (w.evaluator i).config.sessionImports) w₁.guest.unreported <;> rfl

theorem refCount_of_started {e : Evaluator} (h : e.runtime = some runtime) (id : Identity) :
    e.refCount id = runtime.counts.count id := by
  rw [Evaluator.refCount, h]
  rfl

theorem crossing_counts (h : (w.evaluator i).runtime = some runtime) : (w.crossing i runtime).counts = runtime.counts := by
  rw [World.crossing, h]
  rfl

/-- A call on the handles of a started evaluator, outside of any other call, is one crossing. -/
theorem whenStarted_run {α : Type} {run : TransferM α} {a : α} {t : Transfer} (hopen : w.held = false)
    (hstarted : (w.evaluator i).runtime = some runtime) (hrun : run (w.crossing i runtime) = .ok a t) :
    whenStarted i run w = (.ok a, { w.crossed i t with held := false }) := by
  have hcross : cross i runtime run { w with held := true } = (.ok a, World.crossed { w with held := true } i t) := by
    rw [cross_run, show run (World.crossing { w with held := true } i runtime) = _ from hrun]
  unfold whenStarted
  rw [bind_run, get_run]
  simp only [hstarted]
  rw [bind_run, within_run _ hopen, hcross]
  rfl

/-- An evaluation outside of any other call is a run inside the lock. -/
theorem evaluateUsing_inside (nested : Request → WorldM (Option EvalError)) (hopen : w.held = false) {bindings : Bindings}
    {records : List Record} (hbindings : Bindings.ofArguments (w.evaluator i).config names values = (bindings, records)) :
    evaluateUsing nested i code names values w =
      let run : WorldM (Except EvalError Value) := do
        match ← ensureStarted i with
        | .error f =>
          record .error .evaluator ("[Evaluator] Failed to start the interpreter runtime: " ++ f.message)
          return .ok .null
        | .ok runtime => evaluateIn nested i runtime (w.evaluator i) code bindings
      let (answer, w') := run { w with guest := records.foldl Guest.noted w.guest, held := true }
      (answer, { w' with held := false }) := by
  unfold evaluateUsing
  rw [bind_run, get_run]
  simp only [hbindings]
  rw [bind_run, recordAll_run]
  dsimp only
  rw [bind_run, within_run (w := { w with guest := records.foldl Guest.noted w.guest }) _ hopen]
  rfl

theorem evaluate_inside (hopen : w.held = false) {bindings : Bindings} {records : List Record}
    (hbindings : Bindings.ofArguments (w.evaluator i).config names values = (bindings, records)) :
    evaluate i code names values w =
      let run : WorldM (Except EvalError Value) := do
        match ← ensureStarted i with
        | .error f =>
          record .error .evaluator ("[Evaluator] Failed to start the interpreter runtime: " ++ f.message)
          return .ok .null
        | .ok runtime => evaluateIn (issue requestDepth) i runtime (w.evaluator i) code bindings
      let (answer, w') := run { w with guest := records.foldl Guest.noted w.guest, held := true }
      (answer, { w' with held := false }) :=
  evaluateUsing_inside (issue requestDepth) hopen hbindings

/-- The answer of an evaluation whose script has run to its end is what its output binding converts to in the
crossing that it leaves behind, where no handle has been taken yet. -/
theorem evaluate_of_left (hopen : w.held = false) (hstarted : (w.evaluator i).runtime = some runtime)
    {scope : Scope} {t : Transfer} (hleft : w.left? i code names values = some (scope, t)) :
    (t.counts = runtime.counts ∧ t.namespaceDict = runtime.namespaceDict) ∧ ∀ found t',
      Scope.get (w.evaluator i).converters scope (w.evaluator i).config.outputBinding t = .ok found t' →
      ∃ w', evaluate i code names values w = (.ok (found.getD .null), w') ∧
        ((∀ hook ∈ (w.evaluator i).hooks, ∀ name ∈ hook.read,
            scope.ReadsFreely (w.evaluator i).converters t'.guest name) → w.ClosedAfter i runtime t'.counts w') := by
  rcases hbindings : Bindings.ofArguments (w.evaluator i).config names values with ⟨bindings, records⟩
  unfold World.left? at hleft
  simp only [hbindings, hstarted] at hleft
  obtain ⟨hsame, hheld⟩ := staysInside_begin i runtime (w.evaluator i) bindings
    { w with guest := records.foldl Guest.noted w.guest, held := true } rfl
  split at hleft
  · cases hleft
  · next stage begun hbegin =>
    rw [hbegin] at hsame hheld
    split at hleft
    · next hexecute =>
      cases hleft
      have hevaluator : begun.evaluator i = w.evaluator i := by rw [World.evaluator, hsame, World.evaluator]
      obtain ⟨hcounts, hdict⟩ := (Scope.leavesCounts_execute stage.scope code _).at_ok hexecute
      have hcrossing : (begun.crossing i runtime).counts = runtime.counts := by
        rw [World.crossing, hevaluator, hstarted]
        rfl
      refine ⟨⟨hcounts.trans hcrossing, hdict⟩, fun found t' hget => ?_⟩
      obtain ⟨w₁, hconclude, hcourse⟩ := conclude_of_left bindings hheld hexecute hget
      refine ⟨{ (restore stage.output w₁).2 with held := false }, ?_, fun hreads => ?_⟩
      · have hinside : ensureStarted i { w with guest := records.foldl Guest.noted w.guest, held := true } =
            (.ok runtime, { w with guest := records.foldl Guest.noted w.guest, held := true }) :=
          ensureStarted_run hstarted
        rw [evaluate_inside hopen hbindings]
        dsimp only
        rw [bind_run, hinside]
        dsimp only
        unfold evaluateIn
        rw [bind_run, hbegin]
        dsimp only
        rw [bind_run, hconclude]
        rfl
      · have hconcluded := hcourse hreads
        obtain ⟨hkept₂, _⟩ := staysInside_restore stage.output w₁ (hconcluded.held.trans hheld)
        refine ⟨?_, fun j hne => ?_, rfl⟩
        all_goals
          rw [World.evaluator]
          dsimp only
          rw [hkept₂, hconcluded.evaluators, hsame]
        · exact evaluator_keepCounts hstarted _
        · exact evaluator_keepCounts_of_ne hne _
    · cases hleft

end WorldM
end ScriptHost
