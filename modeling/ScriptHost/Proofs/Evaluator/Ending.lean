import ScriptHost.Proofs.Evaluator.Course
import ScriptHost.Proofs.Guest.Strokes

/-! How a call ends, whatever converters and hooks its evaluator has: what goes wrong before the script gives null, an
exception of the script is the answer, and else what its output binding is read as. The handles that the reading
acquires are all that the call counts. -/
namespace ScriptHost
open Stepping

namespace WorldM

/-- All that an evaluation does inside the lock before its script runs: the interpreter is started, the stage is set
and the hooks are notified. -/
def getReady (i : Nat) (e : Evaluator) (bindings : Bindings) : WorldM (Except Fault (Runtime × Stage)) := do
  match ← ensureStarted i with
  | .error f => return .error f
  | .ok runtime =>
    match ← begin (issue requestDepth) i runtime e bindings with
    | .error (_, f) => return .error f
    | .ok stage => return .ok (runtime, stage)

end WorldM

/-- The counts that an evaluator keeps, which are none before it is started. -/
def Evaluator.counts (e : Evaluator) : Counts := (e.runtime.map (·.counts)).getD ∅

theorem Evaluator.refCount_eq (e : Evaluator) (id : Identity) : e.refCount id = e.counts.count id := by
  unfold refCount counts
  cases e.runtime <;> rfl

/-! ### Standard output -/

namespace GuestM
variable {n : Identity} {g : Guest}

/-- What the line writer still holds is emitted first, which leaves every object as it is. -/
private theorem restoreOutput_run (previous writer : Identity) (context : Context) (g : Guest) : ∃ g₁,
    g.Proceeds (fun _ => False) g₁ ∧
      restoreOutput previous writer context g = setSystem "stdout" previous context g₁ := by
  unfold restoreOutput
  rw [reader_bind_run, reader_get_run]
  cases hwriter : g.writers[writer]? with
  | none =>
    refine ⟨g, .refl g, ?_⟩
    simp only [hwriter]
  | some entry =>
    obtain ⟨g₁, hrun, -, -, hsame⟩ := strike_tells writer entry.1 entry.2 .flush context g
    refine ⟨g₁, Guest.proceeds_of_same (by rw [hsame]) (by rw [hsame]) (by rw [hsame]) (by rw [hsame]), ?_⟩
    simp only [hwriter, reader_bind_run, hrun]

/-- To put standard output back in its place changes no namespace but for that name. -/
theorem restoreOutput_lookup (previous writer : Identity) (hn : g.Holds n) : ∃ g',
    atTop (restoreOutput previous writer) g = .ok ⟨⟩ g' ∧ g'.Holds n ∧
      ∀ name, name ≠ .ofString "stdout" → g'.lookup n name = g.lookup n name := by
  obtain ⟨g₁, hproceeds, hflush⟩ := restoreOutput_run previous writer g.topContext g
  have hheld := hproceeds.holds hn
  have hlookup := hproceeds.lookup_eq hn not_false
  obtain ⟨key, g₂, hadds, hset⟩ := setName_run g₁.system (.ofString "stdout") previous g.topContext g₁
  have hrun : atTop (restoreOutput previous writer) g = .ok ⟨⟩ (g₂.withBody g₁.system
      (.dict ((g₂.entries g₁.system).insert [.text (.ofString "stdout")] key previous))) := by
    rw [atTop_eq, hflush]
    exact hset
  refine ⟨_, hrun, ?_, fun name hname => ?_⟩
  · rw [Guest.Holds, Guest.size_withBody]
    exact hadds.holds hheld
  by_cases hsystem : n = g₁.system
  · subst hsystem
    rw [Guest.lookup_insert hheld hadds, if_neg hname.symm, hlookup]
  · rw [Guest.lookup, Guest.entries, Guest.body, Guest.object_withBody_of_ne _ hsystem, hadds.object_eq hheld,
      ← hlookup]
    rfl

end GuestM

/-! ### Counts and entries of evaluators -/

/-- After a call of an evaluator that one keeps some counts, and the others are as they were. -/
structure World.Settled (w : World) (i : Nat) (counts : Counts) (w' : World) : Prop where
  counts : (w'.evaluator i).counts = counts
  others : ∀ j, j ≠ i → w'.evaluator j = w.evaluator j

namespace World.Settled
variable {w w' w'' : World} {i : Nat} {counts : Counts}

theorem refl (w : World) (i : Nat) : w.Settled i (w.evaluator i).counts w := ⟨rfl, fun _ _ => rfl⟩

theorem then_same (h : w.Settled i counts w') (hsame : w''.evaluators = w'.evaluators) :
    w.Settled i counts w'' where
  counts := by rw [evaluator, hsame, ← evaluator, h.counts]
  others j hne := by rw [evaluator, hsame, ← evaluator, h.others j hne]

end World.Settled

namespace World

/-- The stage of a call and the world in which its script is about to run, unless an exception came before. -/
def ready (w : World) (i : Nat) (names : List String) (values : List Value) :
    Except Fault (Runtime × Stage) × World :=
  let e := w.evaluator i
  let (bindings, records) := Bindings.ofArguments e.config names values
  WorldM.getReady i e bindings { w with guest := records.foldl Guest.noted w.guest, held := true }

/-- An evaluator has the namespace that a crossing went into, and what that holds for handles is what it held when the
crossing ended. -/
def EntriesOf (w : World) (i : Nat) (t : Transfer) : Prop :=
  ∀ runtime, (w.evaluator i).runtime = some runtime → t.guest.Holds t.namespaceDict →
    runtime.namespaceDict = t.namespaceDict ∧ w.guest.Holds t.namespaceDict ∧
      ∀ id : Identity, w.guest.lookup t.namespaceDict id.entryName = t.guest.lookup t.namespaceDict id.entryName

/-- How the code of a call ends in the scope that is prepared for it, unless an exception came before. -/
def scriptRun (w : World) (i : Nat) (code : Script) (names : List String) (values : List Value) :
    Except Fault (Scope × EStateM.Result Fault Transfer Unit) :=
  match w.ready i names values with
  | (.error f, _) => .error f
  | (.ok (runtime, stage), w') =>
    .ok (stage.scope, TransferM.guest (GuestM.runScript stage.scope.globals code) (w'.crossing i runtime))

end World

namespace WorldM
variable {w w₁ : World} {i : Nat} {runtime : Runtime} {stage : Stage} {code : Script} {names : List String}
variable {values : List Value} {f : Fault}

/-! ### Start-up -/

theorem staysInside_interpreterPath : interpreterPath.StaysInside := by
  refine .get fun w _ => ?_
  cases w.interpreterPath with
  | some path => exact .pure _
  | none =>
    refine .bind (.guest _) fun answer => ?_
    cases answer with
    | error f => exact .pure _
    | ok path => exact .bind (fun _ hheld => ⟨rfl, hheld⟩) fun _ => .pure _

/-- A start that has begun fails and the evaluators are as before, or it makes a namespace and the evaluator keeps that
with no counts yet. -/
theorem ensureStarted_outcome (hheld : w.held = true) (hnone : (w.evaluator i).runtime = none) :
    (∃ f w', ensureStarted i w = (.error f, w') ∧ w'.evaluators = w.evaluators ∧ w'.held = true) ∨
      ∃ made w' g, ensureStarted i w = (.ok made, w') ∧
        GuestM.atTop (GuestM.makeNamespace (w.evaluator i).config.sessionImports)
          (interpreterPath { w with guest := w.guest.noted startRecord }).2.guest.unreported =
            .ok made.namespaceDict g ∧
        made.counts = ∅ ∧ w'.held = true ∧
        w'.evaluators = w.evaluators.modify i fun e => { e with runtime := some made } := by
  have hattempt := ensureStarted_attempt hnone
  obtain ⟨hkept, hstill⟩ := staysInside_interpreterPath { w with guest := w.guest.noted startRecord } hheld
  rcases hpath : interpreterPath { w with guest := w.guest.noted startRecord } with ⟨f | path, w₁⟩
  all_goals
    rw [hpath] at hkept hstill hattempt
    dsimp only at hkept hstill hattempt ⊢
  · exact .inl ⟨f, w₁, hattempt, hkept, hstill⟩
  · cases hmade : GuestM.atTop (GuestM.makeNamespace (w.evaluator i).config.sessionImports) w₁.guest.unreported with
    | error f g =>
      rw [hmade] at hattempt
      exact .inl ⟨f, _, hattempt, hkept, hstill⟩
    | ok namespaceDict g =>
      rw [hmade] at hattempt
      refine .inr ⟨_, _, g, hattempt, rfl, rfl, hstill, ?_⟩
      rw [← hkept]
      rfl

/-- To start the interpreter for an evaluator leaves the counts as they are. -/
theorem ensureStarted_keeps (hheld : w.held = true) :
    w.Settled i (w.evaluator i).counts (ensureStarted i w).2 ∧ (ensureStarted i w).2.held = true ∧
      ∀ runtime, (ensureStarted i w).1 = .ok runtime → i < w.evaluators.size →
        ((ensureStarted i w).2.evaluator i).runtime = some runtime := by
  cases hruntime : (w.evaluator i).runtime with
  | some runtime =>
    rw [ensureStarted_run hruntime]
    refine ⟨.refl w i, hheld, fun _ h _ => ?_⟩
    cases h
    exact hruntime
  | none =>
    rcases ensureStarted_outcome hheld hruntime with
      ⟨f, w', hrun, hkept, hstill⟩ | ⟨made, w', g, hrun, -, hcounts, hstill, hkept⟩
    all_goals rw [hrun]
    · exact ⟨(World.Settled.refl w i).then_same hkept, hstill, nofun⟩
    · have hevaluator := World.evaluator_modify hkept
      refine ⟨⟨?_, fun j hne => ?_⟩, hstill, fun runtime h hi => ?_⟩
      · rw [hevaluator]
        split
        · rw [Evaluator.counts, Evaluator.counts, hruntime]
          exact hcounts
        · rfl
      · rw [hevaluator, if_neg fun h => hne h.1]
      · cases h
        rw [hevaluator, if_pos ⟨rfl, hi⟩]

/-! ### Before the script -/

/-- An evaluation inside another call is refused. -/
theorem evaluateUsing_of_held (nested : Request → WorldM (Option EvalError)) (i : Nat) (code : Script)
    (names : List String) (values : List Value) (hheld : w.held = true) :
    (evaluateUsing nested i code names values w).1 = .error .reentrantLock := by
  rcases hbindings : Bindings.ofArguments (w.evaluator i).config names values with ⟨bindings, records⟩
  unfold evaluateUsing
  rw [bind_run, get_run]
  simp only [hbindings]
  rw [bind_run, recordAll_run, bind_run,
    within_of_held (w := { w with guest := records.foldl Guest.noted w.guest }) _ hheld]
  rfl

theorem evaluate_of_locked (i : Nat) (code : Script) (names : List String) (values : List Value)
    (hheld : w.held = true) : ∃ w', evaluate i code names values w = (.error .reentrantLock, w') ∧
      w'.evaluators = w.evaluators ∧ w.guest.Proceeds (fun _ => False) w'.guest := by
  have hrecords := onlyRecords_evaluateUsing (issue requestDepth) i code names values
  exact ⟨_, Prod.ext (evaluateUsing_of_held _ i code names values hheld) rfl, (hrecords.staysInside w hheld).1,
    hrecords.proceeds hheld⟩

/-- Nothing that a call does before its script changes the counts. -/
private theorem getReady_keeps (hheld : w.held = true) (e : Evaluator) (bindings : Bindings) :
    w.Settled i (w.evaluator i).counts (getReady i e bindings w).2 ∧ (getReady i e bindings w).2.held = true ∧
      ∀ runtime stage, (getReady i e bindings w).1 = .ok (runtime, stage) → i < w.evaluators.size →
        ((getReady i e bindings w).2.evaluator i).runtime = some runtime := by
  unfold getReady
  rw [bind_run]
  obtain ⟨hsettled, hstill, hruns⟩ := ensureStarted_keeps (i := i) hheld
  rcases hstart : ensureStarted i w with ⟨f | runtime, w₁⟩
  all_goals rw [hstart] at hsettled hstill hruns
  · exact ⟨hsettled, hstill, nofun⟩
  · dsimp only
    rw [bind_run]
    obtain ⟨hkept, hstill₂⟩ := staysInside_begin i runtime e bindings w₁ hstill
    rcases hbegin : begin (issue requestDepth) i runtime e bindings w₁ with ⟨⟨step, f⟩ | stage, w₂⟩
    all_goals rw [hbegin] at hkept hstill₂
    · exact ⟨hsettled.then_same hkept, hstill₂, nofun⟩
    · refine ⟨hsettled.then_same hkept, hstill₂, fun runtime' stage' h hi => ?_⟩
      cases h
      exact (congrArg (fun evaluators => (evaluators.getD i default).runtime) hkept).trans (hruns runtime rfl hi)

theorem ready_keeps {r : Except Fault (Runtime × Stage)} (hready : w.ready i names values = (r, w₁)) :
    w.Settled i (w.evaluator i).counts w₁ ∧ w₁.held = true ∧
      ∀ runtime stage, r = .ok (runtime, stage) → i < w.evaluators.size →
        (w₁.evaluator i).runtime = some runtime := by
  rcases hbindings : Bindings.ofArguments (w.evaluator i).config names values with ⟨bindings, records⟩
  obtain ⟨⟨hcounts, hothers⟩, hstill, hruns⟩ := getReady_keeps (i := i)
    (w := { w with guest := records.foldl Guest.noted w.guest, held := true }) rfl (w.evaluator i) bindings
  unfold World.ready at hready
  simp only [hbindings] at hready
  rw [hready] at hcounts hothers hstill hruns
  exact ⟨⟨hcounts, hothers⟩, hstill, hruns⟩

theorem ready_of_error (hran : w.scriptRun i code names values = .error f) :
    ∃ w₁, w.ready i names values = (.error f, w₁) := by
  unfold World.scriptRun at hran
  rcases hready : w.ready i names values with ⟨f' | ⟨runtime, stage⟩, w₁⟩
  · rw [hready] at hran
    cases hran
    exact ⟨w₁, rfl⟩
  · rw [hready] at hran
    cases hran

theorem ready_of_ok {scope : Scope} {ending : EStateM.Result Fault Transfer Unit}
    (hran : w.scriptRun i code names values = .ok (scope, ending)) : ∃ runtime stage w₁,
      w.ready i names values = (.ok (runtime, stage), w₁) ∧ stage.scope = scope ∧
        TransferM.guest (GuestM.runScript scope.globals code) (w₁.crossing i runtime) = ending := by
  unfold World.scriptRun at hran
  rcases hready : w.ready i names values with ⟨f' | ⟨runtime, stage⟩, w₁⟩
  · rw [hready] at hran
    cases hran
  · rw [hready] at hran
    cases hran
    exact ⟨runtime, stage, w₁, rfl, rfl, rfl⟩

/-- A call gets ready for its script. What goes wrong before is reported and gives null; otherwise what the script
leaves is concluded, and standard output is put back then. -/
private theorem evaluate_by_ready (i : Nat) (code : Script) (names : List String) (values : List Value)
    (hopen : w.held = false) :
    match w.ready i names values with
    | (.error _, w₁) =>
      ∃ r, evaluate i code names values w = (.ok .null, { w₁ with guest := w₁.guest.noted r, held := false })
    | (.ok (runtime, stage), w₁) =>
      evaluate i code names values w =
        let (answer, w₂) := conclude (issue requestDepth) i runtime (w.evaluator i) stage.scope code
          (Bindings.ofArguments (w.evaluator i).config names values).1 w₁
        (answer, { (restore stage.output w₂).2 with held := false }) := by
  rcases hbindings : Bindings.ofArguments (w.evaluator i).config names values with ⟨bindings, records⟩
  rw [evaluate_inside hopen hbindings]
  unfold World.ready getReady
  simp only [hbindings, bind_run]
  rcases ensureStarted i { w with guest := records.foldl Guest.noted w.guest, held := true } with ⟨f | runtime, w₂⟩
  · exact ⟨_, rfl⟩
  · unfold evaluateIn
    simp only [bind_run]
    rcases begin (issue requestDepth) i runtime (w.evaluator i) bindings w₂ with ⟨⟨step, f⟩ | stage, w₃⟩
    · exact ⟨_, rfl⟩
    · rfl

theorem evaluate_of_unready (code : Script) (hopen : w.held = false)
    (hready : w.ready i names values = (.error f, w₁)) :
    ∃ r, evaluate i code names values w = (.ok .null, { w₁ with guest := w₁.guest.noted r, held := false }) := by
  have hcall := evaluate_by_ready i code names values hopen
  rwa [hready] at hcall

theorem evaluate_of_ready (code : Script) (hopen : w.held = false)
    (hready : w.ready i names values = (.ok (runtime, stage), w₁)) :
    evaluate i code names values w =
      let (answer, w₂) := conclude (issue requestDepth) i runtime (w.evaluator i) stage.scope code
        (Bindings.ofArguments (w.evaluator i).config names values).1 w₁
      (answer, { (restore stage.output w₂).2 with held := false }) := by
  have hcall := evaluate_by_ready i code names values hopen
  rwa [hready] at hcall

/-! ### After the script -/

/-- The call is over once standard output is back in its place: the counts are those of its last crossing. -/
private theorem settled_of_concluded (hi : i < w.evaluators.size)
    (hready : w.ready i names values = (.ok (runtime, stage), w₁)) {t : Transfer} {w₂ : World}
    (hconcluded : w₁.Concluded i t w₂) (hnamespace : t.namespaceDict = runtime.namespaceDict) :
    w.Settled i t.counts { (restore stage.output w₂).2 with held := false } ∧
      World.EntriesOf { (restore stage.output w₂).2 with held := false } i t := by
  obtain ⟨hsettled, hheld, hruns⟩ := ready_keeps hready
  have hstarted := hruns runtime stage rfl hi
  obtain ⟨hkept, _⟩ := staysInside_restore stage.output w₂ (hconcluded.held.trans hheld)
  have hevaluators := hkept.trans hconcluded.evaluators
  have hown : World.evaluator { (restore stage.output w₂).2 with held := false } i =
      { w₁.evaluator i with runtime := some { runtime with counts := t.counts } } := by
    rw [World.evaluator]
    dsimp only
    rw [hevaluators, evaluator_keepCounts hstarted]
  refine ⟨⟨by rw [hown]; rfl, fun j hne => ?_⟩, fun runtime' hruntime hholds => ?_⟩
  · rw [World.evaluator]
    dsimp only
    rw [hevaluators, evaluator_keepCounts_of_ne hne, hsettled.others j hne]
  · rw [hown] at hruntime
    cases hruntime
    refine ⟨hnamespace.symm, ?_⟩
    have hkept (id : Identity) := hconcluded.guest.lookup_eq hholds not_false id.entryName
    have hholds₂ := hconcluded.guest.holds hholds
    cases houtput : stage.output with
    | none => exact ⟨hholds₂, hkept⟩
    | some pair =>
      obtain ⟨g', hrun, hholds', hlookup⟩ := GuestM.restoreOutput_lookup (g := w₂.guest.unreported) pair.1 pair.2 hholds₂
      have hrestore : (restore (some pair) w₂).2.guest = w₂.guest.reporting g' := by
        have hdiscarded : (restore (some pair) w₂).2 = (guest (GuestM.restoreOutput pair.1 pair.2) w₂).2 := rfl
        rw [hdiscarded, guest_run, hrun]
      dsimp only
      rw [hrestore]
      refine ⟨hholds', fun id => (hlookup _ fun h => ?_).trans (hkept id)⟩
      have hmark := id.startsWith_entryName
      rw [h] at hmark
      exact absurd hmark (by decide)

variable {scope : Scope} {t t' : Transfer} {found : Option Value}

/-- Where a script is about to run, the counts are those from before the call, and it leaves them alone. -/
private theorem script_keeps (hready : w.ready i names values = (.ok (runtime, stage), w₁)) :
    Ends (TransferM.guest (GuestM.runScript stage.scope.globals code)) (w₁.crossing i runtime) fun _ t =>
      t.counts = (w.evaluator i).counts ∧ t.namespaceDict = runtime.namespaceDict :=
  (TransferM.LeavesCounts.guest _ _).mono fun _ _ h => ⟨h.1.trans (ready_keeps hready).1.counts, h.2⟩

/-! ### Whole calls -/

/-- What goes wrong before the script gives null, and the counts stay. -/
theorem evaluate_of_prevented (hopen : w.held = false) (hran : w.scriptRun i code names values = .error f) :
    ∃ w₁ w', w.ready i names values = (.error f, w₁) ∧ evaluate i code names values w = (.ok .null, w') ∧
      w.Settled i (w.evaluator i).counts w' ∧ w'.evaluators = w₁.evaluators ∧
      w₁.guest.Proceeds (fun _ => False) w'.guest := by
  obtain ⟨w₁, hready⟩ := ready_of_error hran
  obtain ⟨r, hevaluate⟩ := evaluate_of_unready code hopen hready
  exact ⟨w₁, _, hready, hevaluate, (ready_keeps hready).1.then_same rfl, rfl, Guest.proceeds_noted w₁.guest r⟩

/-- The exception of a script is the answer, and the counts stay. -/
theorem evaluate_of_raised (hopen : w.held = false)
    (hran : w.scriptRun i code names values = .ok (scope, .error f t)) :
    ∃ w', evaluate i code names values w = (.error (.ofScriptFault f), w') ∧
      (i < w.evaluators.size → (∀ hook ∈ (w.evaluator i).hooks, hook.read = []) →
        t.counts = (w.evaluator i).counts ∧ w.Settled i t.counts w' ∧ w'.EntriesOf i t) := by
  obtain ⟨runtime, stage, w₁, hready, rfl, hraised⟩ := ready_of_ok hran
  have hevaluate := evaluate_of_ready code hopen hready
  obtain ⟨w₂, hconclude, hconcluded⟩ := conclude_of_raised (e := w.evaluator i)
    (Bindings.ofArguments (w.evaluator i).config names values).1 (ready_keeps hready).2.1 hraised
  refine ⟨_, by rw [hevaluate, hconclude], fun hi hreads => ?_⟩
  obtain ⟨hcounts, hnamespace⟩ := (script_keeps hready).at_error hraised
  exact ⟨hcounts, settled_of_concluded hi hready (hconcluded hreads) hnamespace⟩

/-- A script that runs to its end is answered by what its output binding is read as, and the counts are those that the
reading leaves. -/
theorem evaluate_of_finished (hopen : w.held = false)
    (hran : w.scriptRun i code names values = .ok (scope, .ok ⟨⟩ t))
    (hget : Scope.get (w.evaluator i).converters scope (w.evaluator i).config.outputBinding t = .ok found t') :
    ∃ w', evaluate i code names values w = (.ok (found.getD .null), w') ∧
      (i < w.evaluators.size → (∀ hook ∈ (w.evaluator i).hooks, hook.read = []) →
        t.counts = (w.evaluator i).counts ∧
          (t'.namespaceDict = t.namespaceDict → w.Settled i t'.counts w' ∧ w'.EntriesOf i t')) := by
  obtain ⟨runtime, stage, w₁, hready, rfl, hfinished⟩ := ready_of_ok hran
  have hevaluate := evaluate_of_ready code hopen hready
  obtain ⟨w₂, hconclude, hconcluded⟩ := conclude_of_left (e := w.evaluator i)
    (Bindings.ofArguments (w.evaluator i).config names values).1 (ready_keeps hready).2.1
    (execute_ok_iff.mpr ⟨hfinished, rfl⟩) hget
  refine ⟨_, by rw [hevaluate, hconclude], fun hi hreads => ?_⟩
  obtain ⟨hcounts, hnamespace⟩ := (script_keeps hready).at_ok hfinished
  refine ⟨hcounts, fun hsame => settled_of_concluded hi hready (hconcluded fun hook hhook name hname => ?_)
    (hsame.trans hnamespace)⟩
  rw [hreads hook hhook] at hname
  cases hname

/-- What a script leaves behind in a started evaluator is how its code ended. -/
theorem scriptRun_of_left {scope : Scope} {t : Transfer} (hstarted : (w.evaluator i).runtime = some runtime)
    (hleft : w.left? i code names values = some (scope, t)) :
    ∃ scope', scope'.globals = scope.globals ∧ w.scriptRun i code names values = .ok (scope', .ok ⟨⟩ t) := by
  rcases hbindings : Bindings.ofArguments (w.evaluator i).config names values with ⟨bindings, records⟩
  unfold World.left? at hleft
  simp only [hbindings, hstarted] at hleft
  split at hleft
  · cases hleft
  · next stage begun hbegin =>
    split at hleft
    · next hexecute =>
      cases hleft
      obtain ⟨hran, rfl⟩ := execute_ok_iff.mp hexecute
      refine ⟨stage.scope, rfl, ?_⟩
      have hready : w.ready i names values = (.ok (runtime, stage), begun) := by
        unfold World.ready getReady
        simp only [hbindings, bind_run]
        rw [ensureStarted_run (w := { w with guest := records.foldl Guest.noted w.guest, held := true }) hstarted]
        simp only [bind_run, hbegin]
        rfl
      unfold World.scriptRun
      rw [hready]
      simp only [hran]
    · cases hleft

end WorldM
end ScriptHost
