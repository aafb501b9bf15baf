import ScriptHost.Proofs.Evaluator.OneStart
import ScriptHost.Proofs.Evaluator.StartingGlobals

/-! What hooks are told in the course of a call: each is told once that a script is about to run and once that it has
run, in the order of registration, and of nothing but lines meanwhile. -/
namespace ScriptHost
open Stepping

/-- Whether an event tells a hook that a script is about to run or has run. -/
def Event.isRound : Event → Bool
  | .started _ _ | .finished _ _ _ _ => true
  | .reentered _ _ _ | .output _ _ _ => false

theorem Event.isRound_of_isOutput {event : Event} (h : event.isOutput = true) : event.isRound = false := by
  cases event <;> first | rfl | cases h

namespace World
variable {w w' w'' : World} {told more calls later : List Event}

/-- A world goes on, and hooks are told of some events meanwhile. -/
def Tells (w : World) (told : List Event) (w' : World) : Prop :=
  w'.guest.events.toList = w.guest.events.toList ++ told

theorem Tells.trans (h : w.Tells told w') (h' : w'.Tells more w'') : w.Tells (told ++ more) w'' := by
  unfold Tells at h h' ⊢
  rw [h', h, List.append_assoc]

/-- A world goes on, and hooks are told of nothing but lines meanwhile. -/
def TellsLines (w w' : World) : Prop := ∃ lines, (∀ line ∈ lines, line.isOutput = true) ∧ w.Tells lines w'

/-- A world goes on, and what hooks are told meanwhile, but for lines and for what they call themselves, are some
events. -/
def TellsRounds (w : World) (calls : List Event) (w' : World) : Prop :=
  ∃ told, told.filter Event.isRound = calls ∧ w.Tells told w'

theorem TellsLines.of_same (h : w'.guest.events = w.guest.events) : w.TellsLines w' :=
  ⟨[], nofun, by rw [Tells, h, List.append_nil]⟩

theorem TellsLines.trans (h : w.TellsLines w') (h' : w'.TellsLines w'') : w.TellsLines w'' := by
  obtain ⟨lines, hlines, htells⟩ := h
  obtain ⟨more, hmore, htells'⟩ := h'
  exact ⟨lines ++ more, fun line hline => (List.mem_append.mp hline).elim (hlines line) (hmore line),
    htells.trans htells'⟩

theorem TellsLines.rounds (h : w.TellsLines w') : w.TellsRounds [] w' := by
  obtain ⟨lines, hlines, htells⟩ := h
  refine ⟨lines, List.filter_eq_nil_iff.mpr fun line hline => ?_, htells⟩
  simp [Event.isRound_of_isOutput (hlines line hline)]

theorem TellsRounds.trans (h : w.TellsRounds calls w') (h' : w'.TellsRounds later w'') :
    w.TellsRounds (calls ++ later) w'' := by
  obtain ⟨told, hcalls, htells⟩ := h
  obtain ⟨more, hlater, htells'⟩ := h'
  exact ⟨told ++ more, by rw [List.filter_append, hcalls, hlater], htells.trans htells'⟩

end World

namespace WorldM
variable {α β : Type} {i : Nat} {runtime : Runtime} {e : Evaluator} {scope : Scope} {w w' : World}

/-! ### Between the calls of hooks -/

/-- A computation in the course of which hooks are told of nothing but lines, and the lock stays as it is. -/
def TellsLines (run : WorldM α) : Prop := ∀ w : World, w.TellsLines (run w).2 ∧ (run w).2.held = w.held

namespace TellsLines

protected theorem of_same {run : WorldM α} (h : ∀ w, (run w).2.guest.events = w.guest.events ∧ (run w).2.held = w.held) :
    TellsLines run := fun w => ⟨.of_same (h w).1, (h w).2⟩

protected theorem pure (a : α) : TellsLines (Pure.pure a) := .of_same fun _ => ⟨rfl, rfl⟩

protected theorem bind {m : WorldM α} {f : α → WorldM β} (h : m.TellsLines) (hf : ∀ a, (f a).TellsLines) :
    TellsLines (m >>= f) := fun w => by
  obtain ⟨htells, hheld⟩ := h w
  obtain ⟨htells', hheld'⟩ := hf (m w).1 (m w).2
  exact ⟨htells.trans htells', hheld'.trans hheld⟩

protected theorem get {f : World → WorldM β} (h : ∀ w, (f w).TellsLines) : TellsLines (get >>= f) := fun w => h w w

protected theorem discard {m : WorldM α} (h : m.TellsLines) : TellsLines (discard m) := h

/-- What goes to the journal for a reader of it is told to no hook. -/
protected theorem record (level : Level) (source : Source) (message : String) :
    TellsLines (record level source message) := .of_same fun _ => ⟨rfl, rfl⟩

/-- What comes into the journal while the interpreter runs is lines. -/
private theorem reporting {w w' : World} {g : Guest} (hnotices : g.notices = [])
    (hguest : w'.guest = w.guest.reporting g) : w.TellsLines w' := by
  refine ⟨g.events.toList, fun event hevent => ?_, ?_⟩
  · simpa using List.filter_eq_nil_iff.mp hnotices event hevent
  · rw [World.Tells, hguest, Guest.reporting, Array.toList_append]

protected theorem guest [Refers α] {run : GuestM α} (h : run.Spares everything) : TellsLines (guest run) := fun w => by
  have hended := GuestM.atTop_spares h (Guest.isClosed_everything w.guest.unreported)
  rw [guest_run]
  cases hrun : GuestM.atTop run w.guest.unreported with
  | ok a g => exact ⟨reporting (hended.at_ok hrun).1.notices rfl, rfl⟩
  | error f g => exact ⟨reporting (hended.at_error hrun).1.notices rfl, rfl⟩

protected theorem cross [Refers α] {run : TransferM α} (h : run.Spares everything) (i : Nat) (runtime : Runtime) :
    TellsLines (cross i runtime run) := fun w => by
  have hended := h (w.crossing i runtime) ⟨Guest.isClosed_everything _, within_everything _⟩
  rw [cross_run]
  cases hrun : run (w.crossing i runtime) with
  | ok a t => exact ⟨reporting (hended.at_ok hrun).1.notices rfl, rfl⟩
  | error f t => exact ⟨reporting (hended.at_error hrun).1.notices rfl, rfl⟩

end TellsLines

theorem tellsLines_interpreterPath : TellsLines interpreterPath := by
  refine .get fun w => ?_
  cases w.interpreterPath with
  | some path => exact .pure _
  | none =>
    refine .bind (.guest GuestM.spares_readSearchPath) fun answer => ?_
    cases answer with
    | error f => exact .pure _
    | ok path => exact .bind (.of_same fun _ => ⟨rfl, rfl⟩) fun _ => .pure _

private theorem tellsLines_makeNamespace (imports : List Script) : TellsLines (guest (GuestM.makeNamespace imports)) :=
  .guest (@GuestM.spares_makeNamespace everything imports)

theorem tellsLines_ensureStarted (i : Nat) : TellsLines (ensureStarted i) := by
  refine .get fun w => ?_
  dsimp only
  split
  · exact .pure _
  · refine .bind (.record _ _ _) fun _ => .bind tellsLines_interpreterPath fun answer => ?_
    cases answer with
    | error f => exact .pure _
    | ok path =>
      refine .get fun w => .bind (tellsLines_makeNamespace _) fun answer => ?_
      cases answer with
      | error f => exact .pure _
      | ok namespaceDict => exact .bind (.of_same fun _ => ⟨rfl, rfl⟩) fun _ => .pure _

theorem composes_tellsLines : Composes TellsLines where
  pure := .pure
  bind := .bind
  record := .record

theorem tellsLines_restore (output : Option (Identity × Identity)) : TellsLines (restore output) := by
  cases output with
  | none => exact .pure _
  | some pair => exact .discard (.guest (GuestM.spares_restoreOutput _ trivial))

section
variable (hfair : e.converters.Fair everything)
include hfair

theorem tellsLines_prepare (i : Nat) (runtime : Runtime) (bindings : Bindings) :
    TellsLines (prepare i runtime e bindings) :=
  composes_tellsLines.prepare (composes_tellsLines.resetPath (.guest (GuestM.spares_resetSearchPath _)) e)
    (.cross Scope.spares_make i runtime) (fun _ => .cross (Scope.spares_seed hfair trivial _) i runtime)
    (.guest (GuestM.spares_redirectOutput _ _))

theorem tellsLines_runIn (i : Nat) (runtime : Runtime) (scope : Scope) (code : Script) (output : String) :
    TellsLines (runIn i runtime e.converters scope code output) := by
  refine .bind (.cross (.bind (Scope.spares_execute trivial code) fun ⟨answer, scope⟩ _ => ?_) i runtime) fun answer => ?_
  · cases answer with
    | error err => exact .pure ⟨by simp, trivial⟩
    | ok => exact .bind (Scope.spares_read hfair trivial output) fun _ _ => .pure ⟨by simp, trivial⟩
  · cases answer <;> exact .pure _

end

end WorldM

/-! ### Calls of hooks -/

/-- A call of a hook around a script, with what it is given beside the access to the scope. -/
inductive HookCall where
  | started (code : Script) (values : List Value)
  | finished (outcome : Outcome) (code : Script) (values : List Value)

namespace HookCall

/-- What the hook at a place is told by a call, with what it has found in the scope. -/
def event (place : Nat) (found : List (Option Value)) : HookCall → Event
  | .started _ values => .started place values
  | .finished outcome _ values => .finished place outcome values found

/-- The events of a call of all hooks, in the order of registration. -/
def round (hooks : List Hook) (found : Nat → List (Option Value)) (call : HookCall) : List Event :=
  (List.range hooks.length).map fun place => call.event place (found place)

/-- What comes of a call of a hook. The hooks here do what they do for every code. -/
def answer (i : Nat) (runtime : Runtime) (table : ConverterTable) (scope : Scope) (hook : Nat × Hook) :
    HookCall → WorldM Unit
  | .started _ values => do
    WorldM.notify (.started hook.1 values)
    discard (WorldM.cross i runtime (Scope.bindAll table scope hook.2.inject))
    WorldM.carryOut (WorldM.issue WorldM.requestDepth) hook.1 hook.2.requests
  | .finished outcome _ values => do
    let found := match ← WorldM.cross i runtime (WorldM.readings table scope hook.2.read) with
      | .ok found => found
      | .error _ => []
    WorldM.notify (.finished hook.1 outcome values found)
    WorldM.carryOut (WorldM.issue WorldM.requestDepth) hook.1 hook.2.lateRequests

end HookCall

namespace WorldM
variable {i : Nat} {runtime : Runtime} {e : Evaluator} {scope : Scope} {w w' : World}

/-- Calls all hooks of an evaluator, one after the other. -/
def callHooks (i : Nat) (runtime : Runtime) (e : Evaluator) (scope : Scope) (call : HookCall) : WorldM Unit :=
  forM (numbered e.hooks) fun hook => call.answer i runtime e.converters scope hook

theorem notifyStarted_eq (i : Nat) (runtime : Runtime) (table : ConverterTable) (scope : Scope) (code : Script)
    (values : List Value) (hooks : List (Nat × Hook)) :
    notifyStarted (issue requestDepth) i runtime table scope values hooks =
      forM hooks fun hook => (HookCall.started code values).answer i runtime table scope hook := by
  induction hooks with
  | nil => rfl
  | cons hook hooks ih =>
    rw [List.forM_cons, ← ih]
    rfl

theorem notifyFinished_eq (i : Nat) (runtime : Runtime) (table : ConverterTable) (scope : Scope) (outcome : Outcome)
    (code : Script) (values : List Value) (hooks : List (Nat × Hook)) :
    notifyFinished (issue requestDepth) i runtime table scope outcome values hooks =
      forM hooks fun hook => (HookCall.finished outcome code values).answer i runtime table scope hook := by
  induction hooks with
  | nil => rfl
  | cons hook hooks ih =>
    rw [List.forM_cons, ← ih]
    rfl

/-- What hooks call is refused, and is no call of a hook. -/
private theorem carryOut_tells (place : Nat) (requests : List Request) (hheld : w.held = true) :
    w.TellsRounds [] (carryOut (issue requestDepth) place requests w).2 ∧
      (carryOut (issue requestDepth) place requests w).2.held = true := by
  refine ⟨?_, (StaysInside.carryOut requestDepth place requests w hheld).2⟩
  unfold carryOut
  split
  · exact (World.TellsLines.of_same rfl).rounds
  · obtain ⟨records, hrun⟩ := OnlyRecords.mapM requests (onlyRecords_issue requestDepth) w hheld
    rw [bind_run, get_run, bind_run, hrun]
    exact ⟨[.reentered place w.held (requests.mapM (issue requestDepth) w).1], rfl, Array.toList_push⟩

private theorem round_tells {event : Event} (h : event.isRound = true) (w : World) :
    w.TellsRounds [event] (notify event w).2 := ⟨[event], by simp [h], Array.toList_push⟩

/-- A hook that is called is told so once. -/
private theorem answer_tells (hfair : e.converters.Fair everything) (i : Nat) (runtime : Runtime) (scope : Scope)
    (hook : Nat × Hook) (call : HookCall) (hheld : w.held = true) : ∃ found,
    w.TellsRounds [call.event hook.1 found] (call.answer i runtime e.converters scope hook w).2 ∧
      (call.answer i runtime e.converters scope hook w).2.held = true := by
  cases call with
  | started code values =>
    have hbind : TellsLines (discard (cross i runtime (Scope.bindAll e.converters scope hook.2.inject))) :=
      .discard (.cross (Scope.spares_bindAll hfair trivial _) i runtime)
    obtain ⟨hbound, hstill⟩ := hbind (notify (.started hook.1 values) w).2
    obtain ⟨hcarried, hheld'⟩ := carryOut_tells hook.1 hook.2.requests (hstill.trans hheld)
    exact ⟨[], ((round_tells rfl w).trans hbound.rounds).trans hcarried, hheld'⟩
  | finished outcome code values =>
    have hread : TellsLines (cross i runtime (readings e.converters scope hook.2.read)) :=
      .cross (spares_readings hfair trivial _) i runtime
    obtain ⟨hfound, hstill⟩ := hread w
    obtain ⟨found, hanswer⟩ : ∃ found, (HookCall.finished outcome code values).answer i runtime e.converters scope hook w =
        carryOut (issue requestDepth) hook.1 hook.2.lateRequests (notify (.finished hook.1 outcome values found)
          (cross i runtime (readings e.converters scope hook.2.read) w).2).2 := ⟨_, rfl⟩
    rw [hanswer]
    obtain ⟨hcarried, hheld'⟩ := carryOut_tells hook.1 hook.2.lateRequests
      (w := (notify (.finished hook.1 outcome values found) (cross i runtime (readings e.converters scope hook.2.read) w).2).2)
      (hstill.trans hheld)
    exact ⟨found, (hfound.rounds.trans (round_tells rfl _)).trans hcarried, hheld'⟩

/-- Each hook is told of a call once, in the order of registration. -/
private theorem callEach_tells (hfair : e.converters.Fair everything) (i : Nat) (runtime : Runtime) (scope : Scope)
    (call : HookCall) (hooks : List (Nat × Hook)) (hheld : w.held = true) : ∃ found : List (List (Option Value)),
    found.length = hooks.length ∧ w.TellsRounds (List.zipWith (fun hook found => call.event hook.1 found) hooks found)
      (forM hooks (fun hook => call.answer i runtime e.converters scope hook) w).2 := by
  induction hooks generalizing w with
  | nil => exact ⟨[], rfl, (World.TellsLines.of_same rfl).rounds⟩
  | cons hook hooks ih =>
    obtain ⟨found, hanswer, hstill⟩ := answer_tells hfair i runtime scope hook call hheld
    obtain ⟨more, hlength, hrest⟩ := ih hstill
    refine ⟨found :: more, congrArg (· + 1) hlength, ?_⟩
    rw [List.forM_cons]
    exact hanswer.trans hrest

/-- All hooks are told of a call, each once. -/
theorem callHooks_tells (hfair : e.converters.Fair everything) (i : Nat) (runtime : Runtime) (scope : Scope)
    (call : HookCall) (hheld : w.held = true) : ∃ found,
    w.TellsRounds (call.round e.hooks found) (callHooks i runtime e scope call w).2 := by
  obtain ⟨found, hlength, htells⟩ := callEach_tells hfair i runtime scope call (numbered e.hooks) hheld
  have hnumbered : (numbered e.hooks).length = e.hooks.length := by simp [numbered]
  have hround : call.round e.hooks (fun place => found.getD place []) =
      List.zipWith (fun hook found => call.event hook.1 found) (numbered e.hooks) found := by
    refine List.ext_getElem (by simp [HookCall.round, hlength, hnumbered]) fun place hplace hplace' => ?_
    have hfound : place < found.length := by
      rw [List.length_zipWith] at hplace'
      omega
    simp [HookCall.round, numbered, hfound]
  refine ⟨fun place => found.getD place [], ?_⟩
  rw [hround]
  exact htells

end WorldM

/-! ### Output of a call that is over -/

/-- What hooks have been told of, they stay told of. -/
theorem Guest.Prints.outputs_subset {g g' : Guest} (h : g.Prints g') {event : Event} (hevent : event ∈ g.outputs) :
    event ∈ g'.outputs := by
  obtain ⟨strokes, told, -, houtputs, -⟩ := h.emits
  rw [houtputs]
  exact List.mem_append_left _ hevent

/-- A writer that is in use stays in use, under its label. -/
theorem Guest.Prints.writer {g g' : Guest} (h : g.Prints g') {output : Identity} {writer : LineWriter} {hooks : Nat}
    (hheld : g.Holds output) (hwriter : g.writers[output]? = some (writer, hooks)) :
    ∃ line : LineWriter, g'.writers[output]? = some (line, hooks) ∧ line.label = writer.label := by
  obtain ⟨strokes, told, -, -, hemits⟩ := h.emits
  exact ⟨_, (hemits.of_writer hheld hwriter).1, LineWriter.label_strikes _ _⟩

theorem GuestM.isWithin_topContext (g : Guest) : g.topContext.IsWithin everything where
  place := within_everything _
  call := callTo_spares callDepth

namespace Inbound

/-- A converter that writes a line to a line writer and puts it in the place of standard output, and that converts every
value to it. -/
def seizing (writer : Identity) : InboundConverter where
  name := "seizing"
  priority := 0
  guard := fun _ => true
  conversion := .custom fun _ => .finish do
    GuestM.writeLines writer ['h', 'i', '\n']
    GuestM.setSystem "stdout" writer
    return writer

/-- To write a line to a writer in use tells the first of its hooks so. -/
private theorem writeLines_tells {g : Guest} {writer : Identity} {made line : LineWriter} {listeners hooks : Nat}
    (hbody : g.body writer = .output made listeners) (hwriter : g.writers[writer]? = some (line, hooks + 1))
    {text : List Char} (htext : '\n' ∈ text) (context : Context) : ∃ g',
    GuestM.writeLines writer text context g = .ok ⟨⟩ g' ∧ g.Proceeds (fun _ => False) g' ∧
      ∃ told, .output 0 line.label told ∈ g'.outputs := by
  obtain ⟨records, hrun⟩ := GuestM.writeLines_run hbody hwriter text context
  obtain ⟨first, lines, hlines⟩ := List.exists_cons_of_ne_nil (line.write_ne_nil htext)
  rw [show (line.write text).1 = _ from hlines, LineWriter.outputs_cons] at hrun
  refine ⟨_, hrun, Guest.proceeds_of_same rfl rfl rfl rfl, first, List.mem_filter.mpr ⟨?_, rfl⟩⟩
  dsimp only
  rw [Array.toList_append]
  exact List.mem_append_right _ (List.mem_append_left _ (List.mem_map.mpr ⟨0, by simp, rfl⟩))

/-- A value that is converted so takes standard output over, and what is written thereby is told under the label of the
writer. -/
theorem marshal_seizing {t : Transfer} {writer : Identity} {made line : LineWriter} {listeners hooks : Nat}
    (hbody : t.guest.body writer = .output made listeners) (hwriter : t.guest.writers[writer]? = some (line, hooks + 1))
    (hsystem : t.guest.Holds t.guest.system) (v : Value) : ∃ g,
    marshalOrPassthrough [seizing writer] v t = .ok writer { t with guest := g } ∧
      t.guest.Proceeds (· = t.guest.system) g ∧ g.stdout = some writer ∧ ∃ told, .output 0 line.label told ∈ g.outputs := by
  obtain ⟨r, hr⟩ : ∃ r : Record, ⟨.trace, .marshal, "[Marshal] inbound " ++ v.kind.name ++ " via '" ++
    (seizing writer).name ++ "'"⟩ = r := ⟨_, rfl⟩
  obtain ⟨g₁, hwritten, hproceeds₁, told, htold⟩ := writeLines_tells (g := t.guest.noted r) hbody hwriter
    (show '\n' ∈ ['h', 'i', '\n'] by decide) (t.guest.noted r).topContext
  have hheld₁ : g₁.Holds g₁.system := by
    rw [hproceeds₁.system]
    exact hproceeds₁.holds hsystem
  obtain ⟨g, hset, hproceeds₂, hlookup⟩ := GuestM.setName_proceeds hheld₁ (.ofString "stdout") writer
    (t.guest.noted r).topContext
  have hprints := ((GuestM.spares_setName (P := everything) (.ofString "stdout") trivial trivial)
    _ g₁ (GuestM.isWithin_topContext _) (Guest.isClosed_everything g₁)).at_ok hset
  have hplan : GuestM.atTop (do
      GuestM.writeLines writer ['h', 'i', '\n']
      GuestM.setSystem "stdout" writer
      return writer : GuestM Identity) (t.guest.noted r) = .ok writer g := by
    unfold GuestM.setSystem
    simp only [GuestM.atTop_eq, reader_bind_run, reader_get_run, reader_pure_run, hwritten, hset]
  have hmarshal : marshal [seizing writer] v t = .ok writer { t with guest := g } := by
    change (TransferM.record .trace .marshal ("[Marshal] inbound " ++ v.kind.name ++ " via '" ++ (seizing writer).name ++
      "'") >>= fun _ => runPlan _ (.finish _)) t = _
    rw [Stepping.bind_run, TransferM.record_run, hr]
    dsimp only
    unfold InboundPlan.finish runPlan
    rw [Stepping.bind_run, Stepping.attempt_run, TransferM.guest_run]
    simp only [hplan]
    rfl
  rw [hproceeds₁.system] at hproceeds₂
  refine ⟨g, ?_, (Guest.proceeds_noted t.guest r).trans (hproceeds₁.relax.trans hproceeds₂), ?_, told,
    hprints.1.prints.outputs_subset htold⟩
  · unfold marshalOrPassthrough orPassthrough
    rw [Stepping.tryCatch_run, hmarshal]
  · rw [Guest.stdout, Guest.systemAttribute, hproceeds₂.system, hlookup, if_pos rfl]

end Inbound

/-- To bind a value by that converter is to write a line and to replace standard output. -/
theorem Scope.bindAll_seizing {table : ConverterTable} {t : Transfer} {writer : Identity} {made line : LineWriter}
    {listeners hooks : Nat} (scope : Scope) (htable : table.inbound = [Inbound.seizing writer])
    (hbody : t.guest.body writer = .output made listeners) (hwriter : t.guest.writers[writer]? = some (line, hooks + 1))
    (hsystem : t.guest.Holds t.guest.system) (hscope : t.guest.Holds scope.globals)
    (hne : scope.globals ≠ t.guest.system) (name : String) (v : Value) :
    ∃ t', bindAll table scope [(name, v)] t = .ok ⟨⟩ t' ∧
      t.guest.Proceeds (fun id => id = t.guest.system ∨ id = scope.globals) t'.guest ∧ t'.guest.stdout = some writer ∧
      ∃ told, .output 0 line.label told ∈ t'.guest.outputs := by
  obtain ⟨g, hmarshal, hproceeds, hstdout, told, htold⟩ :=
    Inbound.marshal_seizing (t := { t with active := [], acquired := #[] }) hbody hwriter hsystem v
  have hproceeds : t.guest.Proceeds (· = t.guest.system) g := hproceeds
  obtain ⟨g', hset, hproceeds', -⟩ :=
    GuestM.setName_proceeds (hproceeds.holds hscope) (.ofString name) writer g.topContext
  have hprints := ((GuestM.spares_setName (P := everything) (.ofString name) trivial trivial)
    _ g (GuestM.isWithin_topContext g) (Guest.isClosed_everything g)).at_ok hset
  have hlookup := hproceeds'.lookup_eq (hproceeds.holds hsystem) (Ne.symm hne) (.ofString "stdout")
  rw [← htable] at hmarshal
  refine ⟨{ t with guest := g', active := [], acquired := #[] }, ?_,
    (hproceeds.mono fun _ hid => .inl hid).trans (hproceeds'.mono fun _ hid => .inr hid), ?_, told,
    hprints.1.prints.outputs_subset htold⟩
  · unfold bindAll bindAll
    rw [Stepping.bind_run, Scope.bind_of_converted name hmarshal hset]
    rfl
  · rw [Guest.stdout, Guest.systemAttribute, hproceeds.system] at hstdout
    rw [Guest.stdout, Guest.systemAttribute, hproceeds'.system, hproceeds.system, hlookup, hstdout]

/-- Where such a converter takes up the binding of a call, the call has written a line of a call that is over, and
standard output is not what it was, before output is redirected. -/
theorem WorldM.seed_of_seizing {w : World} {table : ConverterTable} {writer : Identity} {made line : LineWriter}
    {listeners hooks : Nat} (i : Nat) (runtime : Runtime) (hbuiltins : w.guest.HasBuiltins)
    (hsystem : w.guest.Holds w.guest.system) (htable : table.inbound = [Inbound.seizing writer])
    (hheld : w.guest.Holds writer) (hbody : w.guest.body writer = .output made listeners)
    (hwriter : w.guest.writers[writer]? = some (line, hooks + 1)) (name : String) (v : Value) :
    ∃ scope w₁ w₂, cross i runtime Scope.make w = (.ok scope, w₁) ∧
      cross i runtime (Scope.bindAll table scope [(name, v)]) w₁ = (.ok ⟨⟩, w₂) ∧
      w.guest.Proceeds (· = w.guest.system) w₂.guest ∧ w₂.guest.stdout = some writer ∧
      ∃ told, .output 0 line.label told ∈ w₂.guest.outputs := by
  obtain ⟨globals, t, hmake, hproceeds, hnew, hglobals, -⟩ :=
    Scope.make_of_hasBuiltins (t := w.crossing i runtime) ⟨hbuiltins.importable, hbuiltins.module⟩
  have hprints := ((Scope.spares_make (P := everything) _ ⟨Guest.isClosed_everything _, within_everything _⟩).at_ok
    hmake).1.guest.prints
  obtain ⟨current, hcurrent, hlabel⟩ := hprints.writer hheld hwriter
  have hmade : cross i runtime Scope.make w = (.ok { globals }, w.crossed i t) := by rw [cross_run, hmake]
  have hsince : w.guest.Proceeds (fun _ => False) (w.crossed i t).guest := hproceeds.reported
  obtain ⟨w₁, hw₁⟩ : ∃ w₁, w.crossed i t = w₁ := ⟨_, rfl⟩
  have hcurrent₁ : w₁.guest.writers[writer]? = some (current, hooks + 1) := by
    rw [← hw₁]
    exact hcurrent
  have hglobals₁ : w₁.guest.Holds globals := by
    rw [← hw₁]
    exact hglobals
  rw [hw₁] at hmade hsince
  have hsystem₁ : w₁.guest.Holds w₁.guest.system := by
    rw [hsince.system]
    exact hsince.holds hsystem
  have hne : globals ≠ w₁.guest.system := fun he => hnew (he ▸ hsince.system ▸ hsystem)
  obtain ⟨t', hbind, hproceeds', hstdout, told, htold⟩ := Scope.bindAll_seizing (t := w₁.crossing i runtime) { globals }
    htable ((hsince.body_eq hheld id).trans hbody) hcurrent₁ hsystem₁ hglobals₁ hne name v
  refine ⟨{ globals }, w₁, w₁.crossed i t', hmade, by rw [cross_run, hbind], ?_, hstdout, told, ?_⟩
  · have hreported : w₁.guest.Proceeds (fun id => id = w₁.guest.system ∨ id = globals) (w₁.crossed i t').guest :=
      hproceeds'.reported
    rw [hsince.system] at hreported
    exact (hsince.relax.trans hreported).of_new fun id hid hheld =>
      hid.elim (fun h => h) fun h => absurd (h ▸ hheld) hnew
  · have houtputs : (w₁.crossed i t').guest.outputs = w₁.guest.outputs ++ t'.guest.outputs := by
      simp [Guest.outputs, World.crossed, Guest.reporting]
    rw [hlabel] at htold
    rw [houtputs]
    exact List.mem_append_right _ htold

/-! ### A call -/

namespace WorldM
variable {i : Nat} {runtime : Runtime} {e : Evaluator} {scope : Scope} {w w' : World}

/-- Once the script has ended and its output binding is read, the hooks are called for the last time. -/
theorem conclude_of_ran {scope' : Scope} {result : Except EvalError (Option Value)} {ended : World}
    (code : Script) (bindings : Bindings)
    (hran : runIn i runtime e.converters scope code e.config.outputBinding w = ((result, scope'), ended)) :
    let finished := (callHooks i runtime e scope' (.finished (if result.isOk then .success else .failed) code
      (bindings.pairs.map (·.2))) ended).2
    ∃ records, conclude (issue requestDepth) i runtime e scope code bindings w =
      (result.map (·.getD .null), { finished with guest := { finished.guest with records } }) := by
  intro finished
  unfold conclude
  simp only [bind_run, hran]
  rw [notifyFinished_eq _ _ _ _ _ code]
  cases result with
  | ok v => exact ⟨finished.guest.records, rfl⟩
  | error err => exact ⟨_, rfl⟩

/-- A call is over when standard output is back in its place after that. -/
theorem evaluate_of_ran {names : List String} {values : List Value} {stage : Stage} {begun ended : World} {scope' : Scope}
    {result : Except EvalError (Option Value)} (code : Script) (hopen : w.held = false)
    (hready : w.ready i names values = (.ok (runtime, stage), begun))
    (hran : runIn i runtime (w.evaluator i).converters stage.scope code (w.evaluator i).config.outputBinding begun =
      ((result, scope'), ended)) :
    let finished := (callHooks i runtime (w.evaluator i) scope' (.finished (if result.isOk then .success else .failed) code
      ((w.opened i names values).1.pairs.map (·.2))) ended).2
    ∃ records, evaluate i code names values w = (result.map (·.getD .null),
      { (restore stage.output { finished with guest := { finished.guest with records } }).2 with held := false }) := by
  have hbindings : (Bindings.ofArguments (w.evaluator i).config names values).1 = (w.opened i names values).1 := rfl
  obtain ⟨records, hconclude⟩ := conclude_of_ran code (w.opened i names values).1 hran
  refine ⟨records, ?_⟩
  rw [evaluate_of_ready code hopen hready, hbindings, hconclude]

end WorldM

namespace World
variable {w w' : World} {i : Nat} {names : List String} {values : List Value}

theorem tellsLines_opened (w : World) (i : Nat) (names : List String) (values : List Value) :
    w.TellsLines (w.opened i names values).2 := by
  obtain ⟨records, hrecords⟩ :=
    Guest.foldl_noted (Bindings.ofArguments (w.evaluator i).config names values).2 w.guest
  refine .of_same ?_
  change ((Bindings.ofArguments (w.evaluator i).config names values).2.foldl Guest.noted w.guest).events = _
  rw [hrecords]

theorem tellsLines_announced (w : World) (i : Nat) (names : List String) (values : List Value) :
    w.TellsLines (w.announced i names values).2 :=
  ((tellsLines_opened w i names values).trans (WorldM.tellsLines_ensureStarted i _).1).trans (.of_same rfl)

/-- A call that gets ready for its script tells of lines only before it calls its hooks. -/
theorem prepared_of_ready {runtime : Runtime} {stage : Stage} {begun : World}
    (hfair : (w.evaluator i).converters.Fair everything) (hready : w.ready i names values = (.ok (runtime, stage), begun))
    (code : Script) : ∃ prepared,
      WorldM.prepare i runtime (w.evaluator i) (w.opened i names values).1 (w.announced i names values).2 =
        (.ok stage, prepared) ∧
      WorldM.callHooks i runtime (w.evaluator i) stage.scope
        (.started code ((w.opened i names values).1.pairs.map (·.2))) prepared = (⟨⟩, begun) ∧
      w.TellsLines prepared ∧ prepared.held = true := by
  obtain ⟨w₁, prepared, hstart, hprepare, hbegun⟩ := ready_ok hready
  obtain ⟨hprepared, hstill⟩ := WorldM.tellsLines_prepare hfair i runtime (w.opened i names values).1 w₁
  have hannounced := tellsLines_announced w i names values
  have hheld : (w.announced i names values).2.held = true := (WorldM.tellsLines_ensureStarted i _).2
  rw [hprepare] at hprepared hstill
  rw [hstart] at hannounced hheld
  rw [WorldM.notifyStarted_eq _ _ _ _ code] at hbegun
  refine ⟨prepared, ?_, Prod.ext rfl hbegun.symm, hannounced.trans hprepared, hstill.trans hheld⟩
  rw [hstart]
  exact hprepare

/-- What goes wrong before the script keeps the hooks from being called. -/
theorem tellsLines_of_unready {f : Fault} (hfair : (w.evaluator i).converters.Fair everything)
    (hready : w.ready i names values = (.error f, w')) : w.TellsLines w' := by
  rcases ready_error hready with hstart | ⟨runtime, w₁, step, hstart, hprepare⟩
  · have hstarted := (WorldM.tellsLines_ensureStarted i (w.opened i names values).2).1
    rw [hstart] at hstarted
    exact (tellsLines_opened w i names values).trans hstarted
  · have hannounced := tellsLines_announced w i names values
    have hprepared := (WorldM.tellsLines_prepare hfair i runtime (w.opened i names values).1 w₁).1
    rw [hstart] at hannounced
    rw [hprepare] at hprepared
    exact hannounced.trans hprepared

/-- What an evaluator with hooks is started with in the smallest interpreter. -/
def attendedRuntime : Runtime := { namespaceDict := Guest.minimalNamespace, searchPath := [] }

/-- A started evaluator with two hooks, the second of which reads a binding back, in that interpreter. -/
def attended : World where
  guest := .minimal
  evaluators := #[{ config := { resetSearchPath := false }, converters := ConverterTable.standard.1
                    hooks := [{}, { read := ["x"] }], runtime := some attendedRuntime }]

theorem canStage_attended : Guest.minimal.CanStage attendedRuntime (attended.evaluator 0) "x" (.bool true) [] where
  intact := Guest.isIntact_minimal
  output := fun _ => by decide +kernel
  value := Inbound.handsOver_of_delivered (.of_free rfl) (.inl (.of_leaf rfl rfl nofun))
  hooks := fun hook hhook pair hpair => by
    have hnone : hook.inject = [] := by
      rcases List.mem_cons.mp hhook with rfl | hhook
      · rfl
      · rw [List.mem_singleton.mp hhook]
    rw [hnone] at hpair
    cases hpair
  session := fun h => absurd rfl h
  names := fun _ h => nomatch h

/-- A line writer of a call that is over, in the smallest interpreter. -/
def leftWriter : Identity := ⟨7⟩

/-- The smallest interpreter with a line writer that is still in use after its call, where some modules cannot be
imported, and a started evaluator with a hook; the binding of a value takes standard output over for that writer. -/
def overheard (halted : List String) : World where
  guest := { Guest.minimal with
    heap := Guest.minimal.heap.push { body := .output { label := "before" } 1 }
    writers := (∅ : Writers).insert leftWriter ({ label := "before" }, 1)
    halted }
  evaluators := #[{ config := { resetSearchPath := false }, converters := { inbound := [Inbound.seizing leftWriter] }
                    hooks := [{}], runtime := some attendedRuntime }]

/-- A call has told the hook of a line before it redirects output. -/
theorem seeded_overheard (halted : List String) (hbuiltins : "builtins" ∉ halted) : ∃ w₁ scope w₂ w₃,
    (overheard halted).announced 0 ["x"] [.bool true] = (.ok attendedRuntime, w₁) ∧
      WorldM.cross 0 attendedRuntime Scope.make w₁ = (.ok scope, w₂) ∧
      WorldM.cross 0 attendedRuntime (Scope.bindAll ((overheard halted).evaluator 0).converters scope [("x", .bool true)]) w₂ =
        (.ok ⟨⟩, w₃) ∧
      (overheard halted).guest.Proceeds (· = (overheard halted).guest.system) w₃.guest ∧ w₃.guest.stdout = some leftWriter ∧
      ∃ told, .output 0 "before" told ∈ w₃.guest.outputs := by
  obtain ⟨w₁, hstart, hsame⟩ : ∃ w₁, (overheard halted).announced 0 ["x"] [.bool true] = (.ok attendedRuntime, w₁) ∧
      ∃ records, w₁.guest = { (overheard halted).guest with records } := ⟨_, rfl, _, rfl⟩
  obtain ⟨records, hsame⟩ := hsame
  have hsince : (overheard halted).guest.Proceeds (fun _ => False) w₁.guest := by
    rw [hsame]
    exact Guest.proceeds_of_same rfl rfl rfl rfl
  have hwriter : w₁.guest.writers[leftWriter]? = some ({ label := "before" }, 0 + 1) := by
    rw [hsame]
    exact Std.HashMap.getElem?_insert_self
  have htable : ((overheard halted).evaluator 0).converters.inbound = [Inbound.seizing leftWriter] := rfl
  have hheld : (overheard halted).guest.Holds leftWriter := (by decide : 7 < 8)
  have hbody : w₁.guest.body leftWriter = .output { label := "before" } 1 := (hsince.body_eq hheld id).trans rfl
  have hsystem : (overheard halted).guest.Holds Guest.minimal.system := (by decide : 0 < 8)
  obtain ⟨scope, w₂, w₃, hmake, hbind, hproceeds, hstdout, htold⟩ := WorldM.seed_of_seizing 0 attendedRuntime
    ⟨hsince.halted ▸ hbuiltins, hsince.standardModules ▸ ⟨⟨3⟩, rfl⟩⟩ (hsince.system ▸ hsince.holds hsystem) htable
    (hsince.holds hheld) hbody hwriter "x" (.bool true)
  rw [hsince.system] at hproceeds
  exact ⟨w₁, scope, w₂, w₃, hstart, hmake, hbind, hsince.relax.trans hproceeds, hstdout, htold⟩

end World
end ScriptHost
