import ScriptHost.Evaluator.Evaluation
import ScriptHost.Proofs.Convert.Inbound
import ScriptHost.Proofs.Guest.Proceeding

/-! What goes on inside the lock: everything around a script leaves the evaluators and the lock as they are,
the calls of hooks included, since each of those is refused. -/
namespace ScriptHost

/-! ### Crossings of a world -/

/-- The crossing that an evaluator of a world begins. -/
def World.crossing (w : World) (i : Nat) (runtime : Runtime) : Transfer where
  guest := w.guest.unreported
  namespaceDict := runtime.namespaceDict
  counts := ((w.evaluator i).runtime.map (·.counts)).getD ∅

/-- The world once a crossing of an evaluator has ended. -/
def World.crossed (w : World) (i : Nat) (t : Transfer) : World :=
  { w with guest := w.guest.reporting t.guest, evaluators := WorldM.keepCounts w.evaluators i t.counts }

/-- One evaluator is changed, if there is such an evaluator. -/
theorem World.evaluator_modify {w w' : World} {i : Nat} {f : Evaluator → Evaluator}
    (h : w'.evaluators = w.evaluators.modify i f) (j : Nat) :
    w'.evaluator j = if j = i ∧ i < w.evaluators.size then f (w.evaluator j) else w.evaluator j := by
  rw [evaluator, h, Array.getD_eq_getD_getElem?, Array.getElem?_modify, evaluator, Array.getD_eq_getD_getElem?]
  by_cases hj : i = j
  · subst hj
    by_cases hi : i < w.evaluators.size
    · simp [hi]
    · simp [hi]
  · rw [if_neg hj, if_neg fun h => hj h.1.symm]

namespace WorldM
variable {α β γ : Type} {i : Nat} {runtime : Runtime} {w : World}

theorem bind_run (m : WorldM α) (f : α → WorldM β) (w : World) : (m >>= f) w = f (m w).1 (m w).2 := rfl

theorem get_run (w : World) : (get : WorldM World) w = (w, w) := rfl

theorem cross_run (i : Nat) (runtime : Runtime) (run : TransferM α) (w : World) :
    cross i runtime run w = match run (w.crossing i runtime) with
      | .ok x t => (.ok x, w.crossed i t)
      | .error f t => (.error f, w.crossed i t) := rfl

theorem guest_run (run : GuestM α) (w : World) : guest run w = match GuestM.atTop run w.guest.unreported with
    | .ok x g => (.ok x, { w with guest := w.guest.reporting g })
    | .error f g => (.error f, { w with guest := w.guest.reporting g }) := rfl

theorem record_run (level : Level) (source : Source) (message : String) (w : World) :
    record level source message w = (⟨⟩, { w with guest := w.guest.noted ⟨level, source, message⟩ }) := rfl

/-- Records change nothing but the journal. -/
theorem recordAll_run (records : List Record) (w : World) :
    recordAll records w = (⟨⟩, { w with guest := records.foldl Guest.noted w.guest }) := by
  induction records generalizing w with
  | nil => rfl
  | cons r records ih => exact ih { w with guest := w.guest.noted r }

/-- The counts that an evaluator has are those that it keeps. -/
theorem keepCounts_self (evaluators : Array Evaluator) (i : Nat) :
    keepCounts evaluators i (((evaluators.getD i default).runtime.map (·.counts)).getD ∅) = evaluators := by
  unfold keepCounts
  refine Array.ext_getElem? fun j => ?_
  rw [Array.getElem?_modify]
  split
  · next hij =>
    subst hij
    cases he : evaluators[i]? with
    | none => rfl
    | some e =>
      rw [Array.getD_eq_getD_getElem?, he, Option.getD_some, Option.map_some]
      cases hr : e.runtime with
      | none => rw [Option.map_none, ← hr]
      | some runtime => rw [Option.map_some, Option.map_some, Option.getD_some, ← hr]
  · rfl

/-! ### Computations inside the lock -/

/-- A computation that, inside the lock, leaves the evaluators and the lock as they are. -/
def StaysInside (run : WorldM α) : Prop :=
  ∀ w, w.held = true → (run w).2.evaluators = w.evaluators ∧ (run w).2.held = true

namespace StaysInside

protected theorem pure (a : α) : StaysInside (Pure.pure a) := fun _ hheld => ⟨rfl, hheld⟩

protected theorem bind {m : WorldM α} {f : α → WorldM β} (h : m.StaysInside) (hf : ∀ a, (f a).StaysInside) :
    StaysInside (m >>= f) := fun w hheld => by
  obtain ⟨hsame, hstill⟩ := h w hheld
  obtain ⟨hsame', hstill'⟩ := hf (m w).1 (m w).2 hstill
  exact ⟨hsame'.trans hsame, hstill'⟩

protected theorem get {f : World → WorldM β} (h : ∀ w, w.held = true → (f w).StaysInside) :
    StaysInside (get >>= f) := fun w hheld => h w hheld w hheld

protected theorem discard {m : WorldM α} (h : m.StaysInside) : StaysInside (discard m) := h

protected theorem record (level : Level) (source : Source) (message : String) :
    StaysInside (record level source message) := fun _ hheld => ⟨rfl, hheld⟩

protected theorem notify (event : Event) : StaysInside (notify event) := fun _ hheld => ⟨rfl, hheld⟩

protected theorem guest (run : GuestM α) : StaysInside (guest run) := fun w hheld => by
  rw [guest_run]
  split <;> exact ⟨rfl, hheld⟩

/-- A crossing that leaves the counts alone leaves the evaluators alone. -/
protected theorem cross {run : TransferM α} (h : run.LeavesCounts) (i : Nat) (runtime : Runtime) :
    StaysInside (cross i runtime run) := fun w hheld => by
  have hcounts : ∀ t, t.counts = (w.crossing i runtime).counts → (w.crossed i t).evaluators = w.evaluators :=
    fun t ht => (congrArg (keepCounts w.evaluators i) ht).trans (keepCounts_self w.evaluators i)
  rw [cross_run]
  cases hrun : run (w.crossing i runtime) with
  | ok a t => exact ⟨hcounts t ((h _).at_ok hrun).1, hheld⟩
  | error f t => exact ⟨hcounts t ((h _).at_error hrun).1, hheld⟩

end StaysInside

/-! ### Calls of hooks -/

/-- A call inside another one is refused. -/
theorem within_of_held (run : WorldM α) (hheld : w.held = true) : (Lock.within run w).1 = .error .reentrantLock := by
  unfold Lock.within
  rw [bind_run, get_run, if_pos hheld]
  rfl

/-- A computation that, inside the lock, adds records to the journal and writes nothing else. -/
def OnlyRecords (run : WorldM α) : Prop :=
  ∀ w, w.held = true → ∃ records, (run w).2 = { w with guest := { w.guest with records } }

namespace OnlyRecords

protected theorem proceeds {run : WorldM α} (h : run.OnlyRecords) (hheld : w.held = true) :
    w.guest.Proceeds (fun _ => False) (run w).2.guest := by
  obtain ⟨records, hrun⟩ := h w hheld
  rw [hrun]
  exact Guest.proceeds_of_same rfl rfl rfl rfl

protected theorem staysInside {run : WorldM α} (h : run.OnlyRecords) : run.StaysInside := fun w hheld => by
  obtain ⟨records, hrun⟩ := h w hheld
  rw [hrun]
  exact ⟨rfl, hheld⟩

protected theorem pure (a : α) : OnlyRecords (Pure.pure a) := fun w _ => ⟨w.guest.records, rfl⟩

protected theorem bind {m : WorldM α} {f : α → WorldM β} (h : m.OnlyRecords) (hf : ∀ a, (f a).OnlyRecords) :
    OnlyRecords (m >>= f) := fun w hheld => by
  obtain ⟨records, hm⟩ := h w hheld
  obtain ⟨records', hrest⟩ := hf (m w).1 (m w).2 (by rw [hm]; exact hheld)
  refine ⟨records', ?_⟩
  rw [bind_run, hrest, hm]

protected theorem get {f : World → WorldM β} (h : ∀ w, w.held = true → (f w).OnlyRecords) :
    OnlyRecords (get >>= f) := fun w hheld => h w hheld w hheld

protected theorem record (level : Level) (source : Source) (message : String) :
    OnlyRecords (record level source message) := fun _ _ => ⟨_, rfl⟩

protected theorem forM {f : γ → WorldM PUnit} (items : List γ) (h : ∀ item, (f item).OnlyRecords) :
    OnlyRecords (items.forM f) := by
  induction items with
  | nil => exact .pure _
  | cons item items ih => exact .bind (h item) fun _ => ih

protected theorem recordAll (records : List Record) : OnlyRecords (recordAll records) :=
  .forM records fun r => .record r.level r.source r.message

/-- A call inside the lock is refused, whatever it is. -/
protected theorem within (run : WorldM α) : OnlyRecords (Lock.within run) :=
  .get fun w hheld => by
    rw [if_pos hheld]
    exact .bind (.record _ _ _) fun _ => .pure _

protected theorem mapM {f : γ → WorldM β} (items : List γ) (h : ∀ item, (f item).OnlyRecords) :
    OnlyRecords (items.mapM f) := by
  induction items with
  | nil => exact .pure []
  | cons item items ih =>
    rw [List.mapM_cons]
    exact .bind (h item) fun _ => .bind ih fun _ => .pure _

end OnlyRecords

theorem onlyRecords_whenStarted (i : Nat) (run : TransferM α) : (whenStarted i run).OnlyRecords := by
  refine .get fun w _ => ?_
  cases (w.evaluator i).runtime with
  | none => exact .pure _
  | some runtime =>
    refine .bind (.within _) fun answer => ?_
    rcases answer with err | f | x <;> exact .pure _

private theorem onlyRecords_reset (i : Nat) (engine : String) : (reset i engine).OnlyRecords := by
  refine .get fun w _ => ?_
  dsimp only
  split
  · exact .bind (.record _ _ _) fun _ => .pure _
  · split
    · exact .bind (.record _ _ _) fun _ => .pure _
    · refine .bind (.within _) fun answer => ?_
      rcases answer with err | f | report <;> exact .pure _

/-- An evaluation is one such call. -/
theorem onlyRecords_evaluateUsing (nested : Request → WorldM (Option EvalError)) (i : Nat)
    (code : Script) (names : List String) (values : List Value) :
    (evaluateUsing nested i code names values).OnlyRecords :=
  .get fun _ _ => .bind (.recordAll _) fun _ => .bind (.within _) fun _ => .pure _

/-- The calls that hooks make while a script runs are refused. -/
theorem onlyRecords_issue (depth : Nat) (request : Request) : (issue depth request).OnlyRecords := by
  cases depth with
  | zero => exact .pure _
  | succ depth =>
    cases request with
    | evaluate i code names values => exact .bind (onlyRecords_evaluateUsing _ i code names values) fun _ => .pure _
    | reset i engine => exact .bind (onlyRecords_reset i engine) fun _ => .pure _
    | session i => exact .bind (.bind (.within _) fun _ => .pure _) fun _ => .pure _
    | release i id => exact .bind (onlyRecords_whenStarted i _) fun _ => .pure _
    | releaseValue i v => exact .bind (onlyRecords_whenStarted i _) fun _ => .pure _

/-- What hooks call, and are told of it, goes to the journal, if the calls go nowhere else. -/
theorem carryOut_records {nested : Request → WorldM (Option EvalError)} (hnested : ∀ request, (nested request).OnlyRecords)
    (place : Nat) (requests : List Request) (hheld : w.held = true) : ∃ records events,
    carryOut nested place requests w = (⟨⟩, { w with guest := { w.guest with records, events } }) := by
  unfold carryOut
  split
  · exact ⟨w.guest.records, w.guest.events, rfl⟩
  · obtain ⟨records, hrun⟩ := OnlyRecords.mapM requests hnested w hheld
    refine ⟨records, w.guest.events.push (.reentered place w.held (requests.mapM nested w).1), ?_⟩
    rw [bind_run, get_run, bind_run, hrun]
    rfl

theorem carryOut_run (depth place : Nat) (requests : List Request) (hheld : w.held = true) : ∃ records events,
    carryOut (issue depth) place requests w = (⟨⟩, { w with guest := { w.guest with records, events } }) :=
  carryOut_records (onlyRecords_issue depth) place requests hheld

protected theorem StaysInside.carryOut (depth place : Nat) (requests : List Request) :
    StaysInside (carryOut (issue depth) place requests) := fun w hheld => by
  obtain ⟨records, events, hrun⟩ := carryOut_run depth place requests hheld
  rw [hrun]
  exact ⟨rfl, hheld⟩

theorem carryOut_proceeds (depth place : Nat) (requests : List Request) (hheld : w.held = true) :
    w.guest.Proceeds (fun _ => False) (carryOut (issue depth) place requests w).2.guest := by
  obtain ⟨records, events, hrun⟩ := carryOut_run depth place requests hheld
  rw [hrun]
  exact Guest.proceeds_of_same rfl rfl rfl rfl

/-! ### Around a script -/

/-- A property of computations that every entry of the journal has, and what is composed of computations with it. -/
structure Composes (Q : ∀ {α : Type}, WorldM α → Prop) : Prop where
  pure {α : Type} (a : α) : Q (Pure.pure a)
  bind {α β : Type} {m : WorldM α} {f : α → WorldM β} (h : Q m) (hf : ∀ a, Q (f a)) : Q (m >>= f)
  record (level : Level) (source : Source) (message : String) : Q (record level source message)

namespace Composes
variable {Q : ∀ {α : Type}, WorldM α → Prop} (hQ : Composes Q) {nested : Request → WorldM (Option EvalError)}
  {e : Evaluator} {bindings : Bindings} {table : ConverterTable} {scope : Scope}
include hQ

theorem resetPath (hset : Q (guest (GuestM.resetSearchPath runtime.searchPath))) (e : Evaluator) :
    Q (resetPath e runtime) := by
  unfold WorldM.resetPath
  split
  · exact hset
  · exact hQ.pure _

/-- What readies the interpreter goes through its steps up to the first that raises. -/
theorem prepare (hreset : Q (WorldM.resetPath e runtime)) (hmake : Q (cross i runtime Scope.make))
    (hseed : ∀ scope, Q (cross i runtime (Scope.seed e.converters scope bindings.pairs)))
    (hredirect : Q (guest (GuestM.redirectOutput bindings.label e.hooks.length))) :
    Q (prepare i runtime e bindings) := by
  refine hQ.bind hreset fun reset => ?_
  cases reset with
  | error => exact hQ.pure _
  | ok =>
    refine hQ.bind hmake fun made => ?_
    cases made with
    | error => exact hQ.pure _
    | ok scope =>
      refine hQ.bind (hseed scope) fun seeded => ?_
      cases seeded with
      | error => exact hQ.pure _
      | ok scope =>
        dsimp only
        split
        · refine hQ.bind hredirect fun output => ?_
          cases output <;> exact hQ.pure _
        · exact hQ.pure _

theorem notifyStarted (hnotify : ∀ event, Q (notify event))
    (hbind : ∀ pairs, Q (cross i runtime (Scope.bindAll table scope pairs)))
    (hcarry : ∀ place requests, Q (carryOut nested place requests)) (values : List Value) (hooks : List (Nat × Hook)) :
    Q (notifyStarted nested i runtime table scope values hooks) := by
  induction hooks with
  | nil => exact hQ.pure _
  | cons hook rest ih =>
    exact hQ.bind (hnotify _) fun _ => hQ.bind (hQ.bind (hbind _) fun _ => hQ.pure _) fun _ =>
      hQ.bind (hcarry _ _) fun _ => ih

theorem begin (hprepare : Q (WorldM.prepare i runtime e bindings))
    (hnotify : ∀ scope values hooks, Q (WorldM.notifyStarted nested i runtime e.converters scope values hooks)) :
    Q (begin nested i runtime e bindings) := by
  refine hQ.bind (hQ.record _ _ _) fun _ => hQ.bind hprepare fun prepared => ?_
  cases prepared with
  | error failure => exact hQ.pure _
  | ok stage => exact hQ.bind (hnotify _ _ _) fun _ => hQ.pure _

end Composes

theorem composes_staysInside : Composes StaysInside where
  pure := .pure
  bind := .bind
  record := .record

theorem staysInside_resetPath (e : Evaluator) (runtime : Runtime) : (resetPath e runtime).StaysInside :=
  composes_staysInside.resetPath (.guest _) e

theorem staysInside_prepare (i : Nat) (runtime : Runtime) (e : Evaluator) (bindings : Bindings) :
    (prepare i runtime e bindings).StaysInside :=
  composes_staysInside.prepare (staysInside_resetPath e runtime) (.cross Scope.leavesCounts_make i runtime)
    (fun scope => .cross (Scope.leavesCounts_seed _ scope _) i runtime) (.guest _)

theorem staysInside_notifyStarted (depth i : Nat) (runtime : Runtime) (table : ConverterTable) (scope : Scope)
    (values : List Value) (hooks : List (Nat × Hook)) :
    (notifyStarted (issue depth) i runtime table scope values hooks).StaysInside :=
  composes_staysInside.notifyStarted .notify (fun _ => .cross (Scope.leavesCounts_bindAll table scope _) i runtime)
    (.carryOut depth) values hooks

theorem staysInside_restore (output : Option (Identity × Identity)) : (restore output).StaysInside := by
  cases output with
  | none => exact .pure _
  | some pair => exact .discard (.guest _)

theorem hook_of_mem_numbered {hooks : List Hook} {p : Nat × Hook} (h : p ∈ numbered hooks) : p.2 ∈ hooks :=
  (List.of_mem_zip h).2

end WorldM
end ScriptHost
