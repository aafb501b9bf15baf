import ScriptHost.Proofs.Evaluator.Handing
import ScriptHost.Proofs.Evaluator.StandardOutput

/-! Lines and the end of a script: what the writer of a call still holds when the script has run and its result is read
back is told after the hooks are told of the end, and nothing else that a script writes is. -/
namespace ScriptHost
open Stepping

/-- Whether an event tells a hook that a script has run. -/
def Event.isFinished : Event → Bool
  | .finished _ _ _ _ => true
  | .started _ _ | .reentered _ _ _ | .output _ _ _ => false

theorem Event.isFinished_of_isOutput {event : Event} (h : event.isOutput = true) : event.isFinished = false := by
  cases event <;> first | rfl | cases h

/-- No line is told after the end of a script. -/
def Event.EndsLast (told : List Event) : Prop :=
  told.Pairwise fun event later => event.isFinished = true → later.isOutput = false

/-- Lines that are told after all else are told after the end of a script, if there is one. -/
theorem Event.endsLast_append_iff {before round tail : List Event} (hbefore : ∀ event ∈ before, event.isFinished = false)
    (hround : ∀ event ∈ round, event.isOutput = false) (htail : ∀ event ∈ tail, event.isOutput = true) :
    EndsLast (before ++ round ++ tail) ↔ (∀ event ∈ round, event.isFinished = false) ∨ tail = [] := by
  unfold EndsLast
  rw [List.pairwise_append]
  constructor
  · rintro ⟨-, -, hlast⟩
    refine or_iff_not_imp_right.mpr fun hne event hevent => ?_
    obtain ⟨later, hlater⟩ := List.exists_mem_of_ne_nil tail hne
    by_contra hfinished
    have hquiet := hlast event (List.mem_append_right _ hevent) later hlater (Bool.eq_true_of_not_eq_false hfinished)
    rw [htail later hlater] at hquiet
    cases hquiet
  · intro h
    refine ⟨List.pairwise_append.mpr ⟨?_, ?_, fun event hevent later hlater _ => hround later hlater⟩, ?_,
      fun event hevent later hlater hfinished => ?_⟩
    · exact List.pairwise_of_forall_mem_list fun event hevent _ _ hfinished => by simp [hbefore event hevent] at hfinished
    · exact List.pairwise_of_forall_mem_list fun _ _ later hlater _ => hround later hlater
    · exact List.pairwise_of_forall_mem_list fun event hevent _ _ hfinished => by
        simp [isFinished_of_isOutput (htail event hevent)] at hfinished
    · rcases h with hnone | rfl
      · rcases List.mem_append.mp hevent with hevent | hevent
        · simp [hbefore event hevent] at hfinished
        · simp [hnone event hevent] at hfinished
      · cases hlater

/-- A world goes on, and hooks are told of some events, but of no lines, and nothing is written to any line writer. -/
structure World.TellsQuietly (w : World) (told : List Event) (w' : World) : Prop where
  tells : w.Tells told w'
  quiet : ∀ event ∈ told, event.isOutput = false
  writers : w'.guest.writers = w.guest.writers

theorem World.TellsQuietly.trans {w w' w'' : World} {told more : List Event} (h : w.TellsQuietly told w')
    (h' : w'.TellsQuietly more w'') : w.TellsQuietly (told ++ more) w'' where
  tells := h.tells.trans h'.tells
  quiet event hevent := (List.mem_append.mp hevent).elim (h.quiet event) (h'.quiet event)
  writers := h'.writers.trans h.writers

namespace WorldM
variable {w : World} {i : Nat} {runtime : Runtime} {e : Evaluator} {scope : Scope}

private theorem carryOut_quietly (place : Nat) (requests : List Request) (hheld : w.held = true) :
    ∃ told, w.TellsQuietly told (carryOut (issue requestDepth) place requests w).2 := by
  unfold carryOut
  split
  · exact ⟨[], (List.append_nil _).symm, nofun, rfl⟩
  · obtain ⟨records, hrun⟩ := OnlyRecords.mapM requests (onlyRecords_issue requestDepth) w hheld
    rw [bind_run, get_run, bind_run, hrun]
    refine ⟨[.reentered place w.held (requests.mapM (issue requestDepth) w).1], Array.toList_push, fun event hevent => ?_, rfl⟩
    rw [List.mem_singleton.mp hevent]
    rfl

/-- A hook that reads nothing is told that a script has run, and that is all. -/
private theorem answer_quietly (i : Nat) (runtime : Runtime) (table : ConverterTable) (scope : Scope) {hook : Nat × Hook}
    (hread : hook.2.read = []) (outcome : Outcome) (code : Script) (values : List Value) (hheld : w.held = true) :
    ∃ told, w.TellsQuietly (.finished hook.1 outcome values [] :: told)
        ((HookCall.finished outcome code values).answer i runtime table scope hook w).2 ∧
      ((HookCall.finished outcome code values).answer i runtime table scope hook w).2.held = true := by
  obtain ⟨asked, hasked⟩ : ∃ asked, cross i runtime (readings table scope hook.2.read) w = (.ok [], asked) ∧
      asked.held = w.held ∧ asked.guest = w.guest := by
    rw [hread]
    exact ⟨_, rfl, rfl, Guest.reporting_unreported w.guest⟩
  obtain ⟨hrun, hsame, hguest⟩ := hasked
  have hanswer : (HookCall.finished outcome code values).answer i runtime table scope hook w =
      carryOut (issue requestDepth) hook.1 hook.2.lateRequests (notify (.finished hook.1 outcome values []) asked).2 := by
    unfold HookCall.answer
    dsimp only
    rw [bind_run, hrun]
    rfl
  have hnotified : w.TellsQuietly [.finished hook.1 outcome values []]
      (notify (.finished hook.1 outcome values []) asked).2 := by
    refine ⟨?_, fun event hevent => by rw [List.mem_singleton.mp hevent]; rfl, by rw [← hguest]; rfl⟩
    rw [World.Tells, ← hguest]
    exact Array.toList_push
  obtain ⟨told, hcarried⟩ := carryOut_quietly hook.1 hook.2.lateRequests
    (w := (notify (.finished hook.1 outcome values []) asked).2) (hsame.trans hheld)
  rw [hanswer]
  exact ⟨told, hnotified.trans hcarried,
    (StaysInside.carryOut requestDepth hook.1 hook.2.lateRequests
      (notify (.finished hook.1 outcome values []) asked).2 (hsame.trans hheld)).2⟩

/-- Hooks that read nothing are told that a script has run without a line between. -/
private theorem callEach_quietly (i : Nat) (runtime : Runtime) (table : ConverterTable) (scope : Scope) (outcome : Outcome)
    (code : Script) (values : List Value) (hooks : List (Nat × Hook)) (hreads : ∀ hook ∈ hooks, hook.2.read = [])
    (hheld : w.held = true) : ∃ told, w.TellsQuietly told
        (forM hooks (fun hook => (HookCall.finished outcome code values).answer i runtime table scope hook) w).2 ∧
      (hooks ≠ [] → ∃ event ∈ told, event.isFinished = true) := by
  induction hooks generalizing w with
  | nil => exact ⟨[], ⟨(List.append_nil _).symm, nofun, rfl⟩, fun h => absurd rfl h⟩
  | cons hook hooks ih =>
    obtain ⟨hread, hreads⟩ := List.forall_mem_cons.mp hreads
    obtain ⟨told, hanswer, hstill⟩ := answer_quietly i runtime table scope hread outcome code values hheld
    obtain ⟨more, hrest, -⟩ := ih hreads hstill
    rw [List.forM_cons]
    exact ⟨_, hanswer.trans hrest, fun _ => ⟨_, List.mem_append_left _ List.mem_cons_self, rfl⟩⟩

end WorldM

namespace World
variable {w w' : World} {i : Nat} {names : List String} {values : List Value}

/-- Before its script runs, a call has told no hook that it has. -/
theorem tells_ready {runtime : Runtime} {stage : Stage} {begun : World} (hfair : (w.evaluator i).converters.Fair everything)
    (hready : w.ready i names values = (.ok (runtime, stage), begun)) :
    ∃ told, w.Tells told begun ∧ ∀ event ∈ told, event.isFinished = false := by
  obtain ⟨prepared, -, hstarts, hbefore, hheld⟩ := prepared_of_ready hfair hready (.lines [])
  obtain ⟨found, hstarted⟩ := WorldM.callHooks_tells hfair i runtime stage.scope
    (.started (.lines []) ((w.opened i names values).1.pairs.map (·.2))) hheld
  rw [hstarts] at hstarted
  obtain ⟨told, hrounds, htells⟩ := hbefore.rounds.trans hstarted
  refine ⟨told, htells, fun event hevent => ?_⟩
  by_contra hfinished
  have hround : event.isRound = true := by cases event <;> first | rfl | exact absurd rfl hfinished
  have hmem : event ∈ told.filter Event.isRound := List.mem_filter.mpr ⟨hevent, hround⟩
  rw [hrounds, List.nil_append] at hmem
  obtain ⟨place, -, rfl⟩ := List.mem_map.mp hmem
  exact hfinished rfl

/-- A call that runs no script tells of no end. -/
private theorem tells_of_none_run (hfair : (w.evaluator i).converters.Fair everything) (code : Script)
    (hnot : w.held = true ∨ ∃ f w', w.ready i names values = (.error f, w')) :
    ∃ told, w.Tells told (WorldM.evaluate i code names values w).2 ∧ ∀ event ∈ told, event.isFinished = false := by
  by_cases hheld : w.held = true
  · obtain ⟨records, hrun⟩ :=
      WorldM.onlyRecords_evaluateUsing (WorldM.issue WorldM.requestDepth) i code names values w hheld
    have hcall : (WorldM.evaluate i code names values w).2 = { w with guest := { w.guest with records } } := hrun
    rw [hcall]
    exact ⟨[], (List.append_nil _).symm, nofun⟩
  · obtain ⟨f, w', hready⟩ := hnot.resolve_left hheld
    obtain ⟨r, hcall⟩ := WorldM.evaluate_of_unready code (Bool.eq_false_of_not_eq_true hheld) hready
    obtain ⟨lines, hlines, htells⟩ := tellsLines_of_unready hfair hready
    rw [hcall]
    exact ⟨lines, htells, fun event hevent => Event.isFinished_of_isOutput (hlines event hevent)⟩

section Concluding
variable {runtime : Runtime} {stage : Stage} {scope : Scope} {begun ended : World} {code : Script}
variable {result : Except EvalError (Option Value)}

/-- The writer of a call is in use until its result has been read back. -/
private theorem writer_of_run (hfair : (w.evaluator i).converters.Fair everything)
    (hredirects : (w.evaluator i).config.redirectOutput = true)
    (hready : w.ready i names values = (.ok (runtime, stage), begun))
    (hran : WorldM.runIn i runtime (w.evaluator i).converters stage.scope code (w.evaluator i).config.outputBinding begun =
      ((result, scope), ended)) :
    ∃ previous writer line, stage.output = some (previous, writer) ∧
      ended.guest.writers[writer]? = some (line, (w.evaluator i).hooks.length) ∧
      line.label = (w.opened i names values).1.label := by
  obtain ⟨w₁, seeded, installed, previous, writer, hstart, hseeded, houtput, -, -, -, hheld, hwriter, hin, -⟩ :=
    redirected_of_ready hredirects hfair hready
  have hspares : WorldM.Spares everything runtime.namespaceDict
      (WorldM.runIn i runtime (w.evaluator i).converters stage.scope code (w.evaluator i).config.outputBinding) :=
    WorldM.spares_runIn hfair trivial i runtime code (w.evaluator i).config.outputBinding
  have hrun := (hspares begun (WorldM.ready_keeps hready).2.1 (Guest.isClosed_everything _) (within_everything _)).1
  rw [hran] at hrun
  obtain ⟨line, hline, hlabel⟩ := (hin.trans hrun.guest.prints).writer hheld hwriter
  exact ⟨previous, writer, line, houtput, hline, hlabel⟩

/-- Once a script has run, hooks that read nothing are told of its end and of no line, and standard output is given
back. -/
private theorem tells_end (hreads : ∀ hook ∈ (w.evaluator i).hooks, hook.read = []) (hopen : w.held = false)
    (hready : w.ready i names values = (.ok (runtime, stage), begun))
    (hran : WorldM.runIn i runtime (w.evaluator i).converters stage.scope code (w.evaluator i).config.outputBinding begun =
      ((result, scope), ended)) (hheld : ended.held = true) :
    ∃ round concluded records, ended.TellsQuietly round concluded ∧
      ((w.evaluator i).hooks ≠ [] → ∃ event ∈ round, event.isFinished = true) ∧
      (WorldM.evaluate i code names values w).2 =
        { (WorldM.restore stage.output { concluded with guest := { concluded.guest with records } }).2 with
          held := false } := by
  have hhooks : WorldM.numbered (w.evaluator i).hooks = [] ↔ (w.evaluator i).hooks = [] := by simp [WorldM.numbered]
  obtain ⟨records, hcall⟩ := WorldM.evaluate_of_ran code hopen hready hran
  obtain ⟨round, hround, hfinished⟩ := WorldM.callEach_quietly i runtime (w.evaluator i).converters scope
    (if result.isOk then .success else .failed) code ((w.opened i names values).1.pairs.map (·.2))
    (WorldM.numbered (w.evaluator i).hooks) (fun hook hhook => hreads hook.2 (WorldM.hook_of_mem_numbered hhook)) hheld
  exact ⟨round, _, records, hround, fun hsome => hfinished (mt hhooks.mp hsome), by rw [hcall]; rfl⟩

end Concluding

/-- Where hooks read nothing back, no line is told after the end of a script if there is no hook or all that was written
to the writer of the call, by the script or while its result was read back, has ended its line; what has not is told
after the last hook has been told of the end. A call that runs no script tells of no end. -/
theorem output_precedes_end_iff (hfair : (w.evaluator i).converters.Fair everything)
    (hredirects : (w.evaluator i).config.redirectOutput = true) (hreads : ∀ hook ∈ (w.evaluator i).hooks, hook.read = [])
    (code : Script) (names : List String) (values : List Value) :
    let e := w.evaluator i
    let call := WorldM.evaluate i code names values w
    ((w.held = true ∨ ∃ f w', w.ready i names values = (.error f, w')) →
      ∃ told, w.Tells told call.2 ∧ ∀ event ∈ told, event.isFinished = false) ∧
    (w.held = false → ∀ runtime stage begun, w.ready i names values = (.ok (runtime, stage), begun) →
      ∃ previous writer result scope ended line before round,
        stage.output = some (previous, writer) ∧
        WorldM.runIn i runtime e.converters stage.scope code e.config.outputBinding begun = ((result, scope), ended) ∧
        ended.guest.writers[writer]? = some (line, e.hooks.length) ∧
        line.label = (w.opened i names values).1.label ∧
        w.Tells before ended ∧ (∀ event ∈ before, event.isFinished = false) ∧
        (∀ event ∈ round, event.isOutput = false) ∧
        let tail := LineWriter.outputs line.label e.hooks.length line.flush.1
        w.Tells (before ++ round ++ tail) call.2 ∧
        (Event.EndsLast (before ++ round ++ tail) ↔ e.hooks = [] ∨ line.pending = [])) := by
  intro e call
  refine ⟨fun hnot => tells_of_none_run hfair code hnot, fun hopen runtime stage begun hready => ?_⟩
  rcases hran : WorldM.runIn i runtime e.converters stage.scope code e.config.outputBinding begun with ⟨⟨result, scope⟩, ended⟩
  obtain ⟨previous, writer, line, houtput, hline, hlabel⟩ := writer_of_run hfair hredirects hready hran
  -- before the end: what was told when the script began, and the lines that were written since
  obtain ⟨told, hbegun, hnone⟩ := tells_ready hfair hready
  obtain ⟨hlines, hheld⟩ := WorldM.tellsLines_runIn hfair i runtime stage.scope code e.config.outputBinding begun
  rw [hran] at hlines hheld
  obtain ⟨lines, hlines, hended⟩ := hlines
  have hbefore : w.Tells (told ++ lines) ended := hbegun.trans hended
  have hunfinished : ∀ event ∈ told ++ lines, event.isFinished = false := fun event hevent =>
    (List.mem_append.mp hevent).elim (hnone event) fun h => Event.isFinished_of_isOutput (hlines event h)
  -- the end, and after it what the writer still holds
  obtain ⟨round, concluded, records, hround, hfinished, hcall⟩ :=
    tells_end hreads hopen hready hran (hheld.trans (WorldM.ready_keeps hready).2.1)
  have hleft : concluded.guest.writers[writer]? = some (line, e.hooks.length) := by
    rw [hround.writers]
    exact hline
  have hwithdraws :=
    WorldM.restore_withdraws (w := { concluded with guest := { concluded.guest with records } }) previous hleft
  rw [← houtput] at hwithdraws
  refine ⟨previous, writer, result, scope, ended, line, told ++ lines, round, houtput, rfl, hline, hlabel, hbefore,
    hunfinished, hround.quiet, ?_, ?_⟩
  · refine (hbefore.trans hround.tells).trans ?_
    rw [hcall]
    exact hwithdraws.events
  · rw [Event.endsLast_append_iff hunfinished hround.quiet fun _ => LineWriter.isOutput_of_mem_outputs,
      LineWriter.outputs_flush_eq_nil_iff, List.length_eq_zero_iff]
    refine ⟨fun h => h.elim (fun hquiet => .inl ?_) id, .inr⟩
    by_contra hsome
    obtain ⟨event, hevent, htrue⟩ := hfinished hsome
    rw [hquiet event hevent] at htrue
    cases htrue

end World

/-! ### A writer of the call that is left with text -/

namespace Outbound

/-- A converter that writes a letter to what stands in the place of standard output, and converts every object to
nothing. -/
def muttering : OutboundConverter where
  name := "muttering"
  priority := 0
  guard := fun _ _ => true
  conversion := .custom fun id => .look fun g => .compute (do
    GuestM.writeLines (g.stdout.getD id) ['a']
    return id) fun _ => .done .null

theorem fair_muttering : Outbound.Fair everything [muttering] := fun c hc => by
  obtain rfl := List.mem_singleton.mp hc
  exact fun _ _ _ _ => ⟨.bind (GuestM.spares_writeLines _ trivial) fun _ _ => .pure trivial, fun _ _ => trivial⟩

/-- An object that is converted so leaves text that ends no line. -/
theorem marshalOrHandle_muttering {t : Transfer} {writer : Identity} {made line : LineWriter} {listeners hooks : Nat}
    (hstdout : t.guest.stdout = some writer) (hbody : t.guest.body writer = .output made listeners)
    (hwriter : t.guest.writers[writer]? = some (line, hooks)) (hactive : t.active = []) (obj : Identity) : ∃ t',
    marshalOrHandle [muttering] obj t = .ok .null t' ∧
      t'.guest.writers[writer]? = some ((line.write ['a']).2, hooks) := by
  obtain ⟨r, hr⟩ : ∃ r : Record, ⟨.trace, .marshal, "[Marshal] outbound " ++ toString obj ++ " via '" ++
    "muttering" ++ "'"⟩ = r := ⟨_, rfl⟩
  obtain ⟨records, hwritten⟩ := GuestM.writeLines_run (g := t.guest.noted r) hbody hwriter ['a']
    (t.guest.noted r).topContext
  obtain ⟨g, hg, hleft⟩ : ∃ g, GuestM.writeLines writer ['a'] (t.guest.noted r).topContext (t.guest.noted r) = .ok ⟨⟩ g ∧
      g.writers[writer]? = some ((line.write ['a']).2, hooks) := ⟨_, hwritten, Std.HashMap.getElem?_insert_self⟩
  have hfound : (t.guest.noted r).stdout = some writer := hstdout
  have hplan : GuestM.atTop (do
      GuestM.writeLines ((t.guest.noted r).stdout.getD obj) ['a']
      return obj : GuestM Identity) (t.guest.noted r) = .ok obj g := by
    simp only [GuestM.atTop_eq, hfound, Option.getD_some, reader_bind_run, reader_pure_run, hg]
  have hdispatch (self : Identity → TransferM Value) : dispatch self [muttering] obj { t with active := obj :: t.active } =
      .ok .null { t with active := obj :: t.active, guest := g } := by
    have hresolved (t : Transfer) : dispatch self [muttering] obj t = convert self (some muttering) obj t := rfl
    rw [hresolved]
    unfold convert apply muttering
    simp only [bind_run, TransferM.record_run]
    unfold runPlan runPlan
    simp only [bind_run, get_run, attempt_run, TransferM.guest_run, hr, hplan]
    rfl
  have hstart : marshal [muttering] obj t = whileActive obj
      (dispatch (marshalTo [muttering] (2 * t.guest.heap.size + 1)) [muttering] obj) t := by
    simp [marshal, depth, marshalTo, hactive]
  refine ⟨{ t with guest := g, active := (obj :: t.active).erase obj }, ?_, hleft⟩
  simp only [marshalOrHandle, orHandle, bind_run, get_run, tryCatch_run, hstart, whileActive, modify_run, attempt_run,
    hdispatch, pure_run]

end Outbound

namespace WorldM
variable {i : Nat} {runtime : Runtime} {scope : Scope} {w : World}

/-- A script that does nothing, before an object is read back that way, leaves text that ends no line. -/
theorem runIn_muttering {table : ConverterTable} {output : String} {writer obj : Identity} {made : LineWriter}
    {listeners hooks : Nat} {line : LineWriter} (htable : table.outbound = [Outbound.muttering])
    (hscope : w.guest.Holds scope.globals) (houtput : output ≠ "__builtins__")
    (hbound : w.guest.lookup scope.globals (.ofString output) = some obj) (hsystem : w.guest.Holds w.guest.system)
    (happart : scope.globals ≠ w.guest.system)
    (hstdout : w.guest.stdout = some writer) (hheld : w.guest.Holds writer) (hne : writer ≠ scope.globals)
    (hbody : w.guest.body writer = .output made listeners) (hwriter : w.guest.writers[writer]? = some (line, hooks)) :
    ∃ answer ended line, runIn i runtime table scope (.lines [.pass]) output w = (answer, ended) ∧
      ended.guest.writers[writer]? = some (line, hooks) ∧ line.pending ≠ [] := by
  obtain ⟨builtins, g, hrun, hbinds, hproceeds, -⟩ := GuestM.runScript_single (g := (w.crossing i runtime).guest)
    (show Reading.handedOver (.lines [.pass]) = .ok [(1, .pass)] from rfl) rfl hscope (w.crossing i runtime).guest.topContext
  have hpass : GuestM.runScript scope.globals (.lines [.pass]) (w.crossing i runtime).guest.topContext
      (w.crossing i runtime).guest = .ok ⟨⟩ g := hrun.trans rfl
  have hexecute : Scope.execute scope (.lines [.pass]) (w.crossing i runtime) =
      .ok (.ok (), { scope with state := .executing }) { w.crossing i runtime with guest := g } :=
    execute_ok_iff.mpr ⟨by rw [TransferM.guest_run, GuestM.atTop_eq, hpass], rfl⟩
  have hprints := ((GuestM.spares_runScript (P := everything) (.lines [.pass]) trivial)
    _ (w.crossing i runtime).guest (GuestM.isWithin_topContext _) (Guest.isClosed_everything _)).at_ok hpass
  obtain ⟨current, hcurrent, -⟩ := hprints.1.prints.writer hheld hwriter
  have hfound : g.stdout = some writer := by
    rw [Guest.stdout, Guest.systemAttribute, hproceeds.system]
    exact (hproceeds.lookup_eq hsystem (Ne.symm happart) _).trans hstdout
  obtain ⟨t', hmarshal, hleft⟩ := Outbound.marshalOrHandle_muttering (t := { w.crossing i runtime with
    guest := g, active := [], acquired := #[] }) hfound ((hproceeds.body_eq hheld hne).trans hbody) hcurrent rfl obj
  rw [← htable] at hmarshal
  have hget : Scope.get table { scope with state := .executing } output { w.crossing i runtime with guest := g } =
      .ok (some .null) t' := Scope.get_of_bound ((hbinds.kept output (by simpa using houtput)).trans hbound) hmarshal
  exact ⟨_, _, _, runIn_of_left hexecute hget, hleft, current.pending_write_ne_nil (by decide) []⟩

end WorldM
namespace World
variable {w : World} {i : Nat} {names : List String} {values : List Value}

/-- When the script of a call with one binding begins that can be staged, the writer of the call is standard output. -/
theorem redirected_of_canStage {runtime : Runtime} {label name : String} {v : Value}
    (hstarted : (w.evaluator i).runtime = some runtime) (hredirects : (w.evaluator i).config.redirectOutput = true)
    (hbindings : Bindings.ofArguments (w.evaluator i).config names values = (⟨label, [(name, v)]⟩, []))
    (hfair : (w.evaluator i).converters.Fair everything) (hw : w.guest.CanStage runtime (w.evaluator i) name v []) :
    ∃ stage begun obj previous writer made line, w.ready i names values = (.ok (runtime, stage), begun) ∧
      stage.output = some (previous, writer) ∧ begun.guest.Stages stage.scope.globals name obj v [] ∧
      stage.scope.globals ≠ begun.guest.system ∧ begun.guest.stdout = some writer ∧ begun.guest.Holds writer ∧
      writer ≠ stage.scope.globals ∧ begun.guest.body writer = .output made (w.evaluator i).hooks.length ∧
      begun.guest.writers[writer]? = some (line, (w.evaluator i).hooks.length) := by
  obtain ⟨stage, begun, hready⟩ := ready_of_canStage hstarted hbindings hw
  obtain ⟨w₁, prepared, hstart, hprepare, hbegun⟩ := ready_ok hready
  obtain ⟨w₁', hstart', hheld₁, hguest⟩ := announced_of_started hstarted names values
  rw [hstart] at hstart'
  cases hstart'
  have hpairs : (w.opened i names values).1 = ⟨label, [(name, v)]⟩ := congrArg Prod.fst hbindings
  obtain ⟨seeded, previous, writer, hseeded, houtput, hredirect⟩ := redirected_of_prepared hredirects hstart hprepare
  rw [hpairs] at hprepare hbegun
  have hsince : w.guest.Proceeds (fun _ => False) w₁.guest := by
    rw [hguest]
    exact Guest.proceeds_of_same rfl rfl rfl rfl
  -- the scope of the call is on its stage, and stays there while hooks are told
  obtain ⟨stage', prepared', obj, hprepare', hstages, hnew, hproceeds⟩ :=
    WorldM.prepare_of_canStage i label (hw.proceeds hsince)
  rw [hprepare] at hprepare'
  cases hprepare'
  have hheld : prepared.held = true := by
    have hstill := (WorldM.tellsLines_prepare hfair i runtime ⟨label, [(name, v)]⟩ w₁).2
    rw [hprepare] at hstill
    exact hstill.trans hheld₁
  obtain ⟨hstages', hbound⟩ := WorldM.notifyStarted_of_takesUp WorldM.requestDepth i runtime (w.evaluator i).converters
    [v] hheld hstages fun hook hhook => hw.hooks _ (WorldM.hook_of_mem_numbered hhook)
  have hlater : begun = (WorldM.notifyStarted (WorldM.issue WorldM.requestDepth) i runtime (w.evaluator i).converters
    stage.scope [v] (WorldM.numbered (w.evaluator i).hooks) prepared).2 := hbegun
  rw [← hlater] at hstages' hbound
  have happart : stage.scope.globals ≠ prepared.guest.system := fun he =>
    hnew (he ▸ hproceeds.system ▸ hsince.system ▸ hsince.holds hw.intact.system.1)
  -- the writer has taken the place of what was found there
  obtain ⟨found, hfound⟩ := Option.isSome_iff_exists.mp (hw.output hredirects)
  obtain ⟨seeded', hseeded', hown, hstdout⟩ : ∃ seeded, w.Seeded i names values seeded ∧ seeded.guest.HasSystem ∧
      seeded.guest.stdout = some found := seeded_of_isIntact hstarted hw.intact hfound fun pair hpair => by
      rw [hpairs] at hpair
      obtain rfl := List.mem_singleton.mp hpair
      exact hw.value.takesUp
  obtain rfl := hseeded.unique hseeded'
  obtain ⟨hplace, hbody⟩ := WorldM.redirect_of_hasSystem hown hstdout hredirect
  obtain ⟨-, -, installed, hinstalled, -, -, hprints⟩ := WorldM.redirect_ok hredirect
  have hheld' := hprints.holds hinstalled
  have hunlike : writer ≠ stage.scope.globals := fun he => by
    have hdict := (hstages.tidy.dicts stage.scope.globals (.inl rfl)).2
    rw [← he, Guest.isDict, hbody] at hdict
    cases hdict
  obtain ⟨_, _, _, _, writer', -, -, houtput', -, -, -, hheld'', hwriter, hin, -⟩ := redirected_of_ready hredirects hfair hready
  rw [houtput] at houtput'
  cases houtput'
  obtain ⟨line, hline, -⟩ := hin.writer hheld'' hwriter
  refine ⟨stage, begun, obj, previous, writer, _, line, hready, houtput, hstages', ?_, ?_, hbound.holds hheld', hunlike,
    (hbound.body_eq hheld' hunlike).trans hbody, hline⟩
  · rw [hbound.system]
    exact happart
  · rw [Guest.stdout, Guest.systemAttribute, hbound.system]
    refine (hbound.lookup_eq (hstages.tidy.dicts _ (.inr rfl)).1 (Ne.symm happart) _).trans hplace

/-- A started evaluator in the smallest interpreter whose converter writes a letter to standard output when the result is
read back, with a hook. -/
def muttered : World where
  guest := .minimal
  evaluators := #[{ config := { resetSearchPath := false }
                    converters := { inbound := Inbound.standard, outbound := [Outbound.muttering] }
                    hooks := [{}], runtime := some attendedRuntime }]

theorem output_follows_end : ∃ told, ¬ Event.EndsLast told ∧
    muttered.Tells told (WorldM.evaluate 0 (.lines [.pass]) ["OUT"] [.bool true] muttered).2 := by
  have hfair : (muttered.evaluator 0).converters.Fair everything := ⟨Inbound.fair_standard, Outbound.fair_muttering⟩
  have hcan : Guest.minimal.CanStage attendedRuntime (muttered.evaluator 0) "OUT" (.bool true) [] := by
    refine ⟨Guest.isIntact_minimal, fun _ => by decide +kernel,
      Inbound.handsOver_of_delivered (.of_free rfl) (.inl (.of_leaf rfl rfl nofun)), fun hook hhook pair hpair => ?_,
      fun h => absurd rfl h, fun _ h => nomatch h⟩
    obtain rfl := List.mem_singleton.mp hhook
    cases hpair
  obtain ⟨stage, begun, obj, previous, writer, made, line, hready, houtput, hstages, happart, hstdout, hheld, hne, hbody,
    hwriter⟩ := redirected_of_canStage rfl rfl
      (show Bindings.ofArguments (muttered.evaluator 0).config ["OUT"] [.bool true] = (⟨"USER", [("OUT", .bool true)]⟩, [])
        from rfl) hfair hcan
  obtain ⟨answer, ended, line', hran, hleft, hpending⟩ : ∃ answer ended line, WorldM.runIn 0 attendedRuntime
      (muttered.evaluator 0).converters stage.scope (.lines [.pass]) "OUT" begun = (answer, ended) ∧
      ended.guest.writers[writer]? = some (line, _) ∧ line.pending ≠ [] :=
    WorldM.runIn_muttering rfl (hstages.tidy.dicts _ (.inl rfl)).1 (by decide) hstages.bound
      (hstages.tidy.dicts _ (.inr rfl)).1 happart hstdout hheld hne hbody hwriter
  obtain ⟨-, htold⟩ := output_precedes_end_iff (w := muttered) (i := 0) hfair rfl
    (fun hook hhook => by obtain rfl := List.mem_singleton.mp hhook; rfl) (.lines [.pass]) ["OUT"] [.bool true]
  obtain ⟨_, _, _, _, _, line'', before, round, houtput', hran', hleft', -, -, -, -, htells, hiff⟩ :=
    htold rfl attendedRuntime stage begun hready
  rw [houtput] at houtput'
  cases houtput'
  cases hran.symm.trans hran'
  rw [hleft] at hleft'
  cases hleft'
  refine ⟨_, fun hlast => ?_, htells⟩
  rcases hiff.mp hlast with hnone | hnone
  · cases hnone
  · exact hpending hnone

end World
end ScriptHost
