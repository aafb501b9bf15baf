import ScriptHost.Proofs.Evaluator.Notices

/-! Standard output during a call: it is a line writer of the call's own, which tells all that is written to it before
the call is over, and what stood there when output was redirected stands there again afterwards. -/
namespace ScriptHost
open Stepping

namespace Guest
variable {g g' g'' : Guest} {previous writer : Identity} {line : LineWriter} {label : String} {hooks : Nat}

theorem outputs_reporting (before g : Guest) : (before.reporting g).outputs = before.outputs ++ g.outputs := by
  simp [outputs, reporting]

theorem Prints.reporting (h : g.Prints g') (before : Guest) : (before.reporting g).Prints (before.reporting g') := by
  obtain ⟨hgrows, strokes, told, hstrokes, houtputs, hemits⟩ := h
  refine ⟨hgrows, strokes, told, hstrokes, ?_, hemits⟩
  rw [outputs_reporting, outputs_reporting, houtputs, List.append_assoc]

/-- All that is written to a line writer is told to its hooks under its label, each piece once and in order, and none of
it is left to tell. What is written meanwhile to another writer that is in use is told under the label of that one. -/
def Delivers (g : Guest) (writer : Identity) (label : String) (hooks : Nat) (g' : Guest) : Prop :=
  ∃ (strokes : List (Identity × LineWriter.Stroke)) (told : List (Identity × Event)) (pieces : List (List Char)),
    g'.strokes.toList = g.strokes.toList ++ strokes ∧ g'.outputs = g.outputs ++ told.map (·.2) ∧
    pieces.flatten = (ofWriter writer strokes).flatMap LineWriter.Stroke.text ∧
    (∀ piece ∈ pieces, LineWriter.IsPiece piece) ∧
    ofWriter writer told = LineWriter.outputs label hooks (pieces.map LineWriter.toldAs) ∧
    g'.writers[writer]? = some ({ label }, hooks) ∧
    ∀ (other : Identity) (line : LineWriter) (listeners : Nat), g.Holds other → g.writers[other]? = some (line, listeners) →
      ofWriter other told = LineWriter.outputs line.label listeners (line.strikes (ofWriter other strokes)).1

/-- A line writer tells what it still holds, and something else stands in the place of standard output. -/
structure Withdraws (g : Guest) (previous writer : Identity) (line : LineWriter) (hooks : Nat) (g' : Guest) : Prop where
  events : g'.events.toList = g.events.toList ++ LineWriter.outputs line.label hooks line.flush.1
  strokes : g'.strokes.toList = g.strokes.toList ++ [(writer, .flush)]
  writers : g'.writers = g.writers.insert writer (line.flush.2, hooks)
  grows : g.heap.size ≤ g'.heap.size
  stdout : g.Holds g.system → g'.stdout = some previous

theorem Withdraws.outputs (h : g.Withdraws previous writer line hooks g') :
    g'.outputs = g.outputs ++ LineWriter.outputs line.label hooks line.flush.1 := by
  rw [Guest.outputs, h.events, List.filter_append, Guest.outputs]
  exact congrArg _ (List.filter_eq_self.mpr fun _ hevent => LineWriter.isOutput_of_mem_outputs hevent)

theorem Withdraws.reported (h : g.unreported.Withdraws previous writer line hooks g') :
    g.Withdraws previous writer line hooks (g.reporting g') where
  events := by
    rw [Guest.reporting, Array.toList_append, h.events]
    rfl
  strokes := h.strokes
  writers := h.writers
  grows := h.grows
  stdout := h.stdout

/-- A writer that tells what it holds when it is withdrawn has told all that was written to it since it was put in use. -/
theorem Prints.delivers (h : g.Prints g') (hheld : g.Holds writer) (hwriter : g.writers[writer]? = some ({ label }, hooks))
    (hline : g'.writers[writer]? = some (line, hooks)) (hend : g'.Withdraws previous writer line hooks g'') :
    g.Delivers writer label hooks g'' := by
  obtain ⟨strokes, told, hstrokes, houtputs, hemits⟩ := h.emits
  have hlast : Emits g.Holds g'.writers [(writer, .flush)]
      ((LineWriter.outputs line.label hooks line.flush.1).map (writer, ·)) g''.writers := by
    rw [← List.append_nil ((LineWriter.outputs _ _ _).map _), hend.writers]
    have hget : g'.writers.getD writer (line, hooks) = (line, hooks) := by
      rw [Std.HashMap.getD_eq_getD_getElem?, hline, Option.getD_some]
    exact .strike hget (.nil _)
  have hall := hemits.append hlast
  obtain ⟨hleft, htold⟩ := hall.of_writer hheld hwriter
  obtain ⟨pieces, hflat, hpieces, hlines⟩ := LineWriter.strikes_pieces { label } List.not_mem_nil
    (ofWriter writer (strokes ++ [(writer, .flush)]))
  have hflushed : (LineWriter.strikes { label } (ofWriter writer (strokes ++ [(writer, .flush)]))).2 = { label } := by
    have hkept := LineWriter.label_strikes { label } (ofWriter writer strokes)
    have hown : ofWriter writer [(writer, LineWriter.Stroke.flush)] = [.flush] :=
      ofWriter_own writer [LineWriter.Stroke.flush]
    rw [ofWriter_append, LineWriter.strikes_append, hown]
    rcases hlast : (LineWriter.strikes { label } (ofWriter writer strokes)).2 with ⟨name, pending⟩
    rw [hlast] at hkept
    cases hkept
    rfl
  refine ⟨_, _, pieces, ?_, ?_, ?_, hpieces, ?_, ?_, fun other line listeners hother hin => (hall.of_writer hother hin).2⟩
  · rw [hend.strokes, hstrokes, List.append_assoc]
  · rw [hend.outputs, houtputs, List.append_assoc, List.map_append, List.map_map]
    simp [Function.comp_def]
  · rw [hflushed] at hflat
    simpa using hflat
  · rw [htold, hlines]
  · rw [hleft, hflushed]

end Guest

namespace GuestM
variable {g g' : Guest} {previous writer : Identity} {line : LineWriter} {label : String} {hooks listeners : Nat}

/-- A writer that is in use is withdrawn from standard output. -/
theorem restoreOutput_withdraws (previous : Identity) (hline : g.writers[writer]? = some (line, hooks)) : ∃ g',
    atTop (restoreOutput previous writer) g = .ok ⟨⟩ g' ∧ g.Withdraws previous writer line hooks g' := by
  have hget : g.writers.getD writer (line, hooks) = (line, hooks) := by
    rw [Std.HashMap.getD_eq_getD_getElem?, hline, Option.getD_some]
  obtain ⟨records, hflush⟩ := strike_run hget .flush g.topContext
  obtain ⟨g₁, hrun₁, hevents, hstrokes, hwriters, hheap, hsystem⟩ : ∃ g₁,
      strike writer line hooks .flush g.topContext g = .ok ⟨⟩ g₁ ∧
      g₁.events = g.events ++ (LineWriter.outputs line.label hooks line.flush.1).toArray ∧
      g₁.strokes = g.strokes.push (writer, .flush) ∧ g₁.writers = g.writers.insert writer (line.flush.2, hooks) ∧
      g₁.heap = g.heap ∧ g₁.system = g.system := ⟨_, hflush, rfl, rfl, rfl, rfl, rfl⟩
  obtain ⟨key, g₂, hadds, hset⟩ := setName_run g₁.system (.ofString "stdout") previous g.topContext g₁
  have hrun : atTop (restoreOutput previous writer) g = setName g₁.system (.ofString "stdout") previous g.topContext g₁ := by
    rw [atTop_eq]
    unfold restoreOutput setSystem
    simp only [reader_bind_run, reader_get_run, hline, hrun₁]
  have hsize := hadds.size_le
  rw [hheap] at hsize
  refine ⟨_, hrun.trans hset, ⟨?_, ?_, ?_, ?_, fun hheld => ?_⟩⟩
  · obtain ⟨bodies, constants, rfl⟩ := hadds
    exact (congrArg Array.toList hevents).trans (by simp)
  · obtain ⟨bodies, constants, rfl⟩ := hadds
    exact (congrArg Array.toList hstrokes).trans (by simp)
  · obtain ⟨bodies, constants, rfl⟩ := hadds
    exact hwriters
  · rw [Guest.size_withBody]
    exact hsize
  · have hheld₁ : g₁.Holds g₁.system := by
      rw [Guest.Holds, hheap, hsystem]
      exact hheld
    have hsame : g₂.system = g₁.system := by
      obtain ⟨bodies, constants, rfl⟩ := hadds
      rfl
    have hlookup := Guest.lookup_insert hheld₁ hadds (.ofString "stdout") (.ofString "stdout") key previous
    rw [if_pos rfl, ← hsame] at hlookup
    rw [← hsame]
    exact hlookup

/-- Where output is redirected, a new line writer is put in use for what is read as standard output. -/
theorem redirectOutput_ok (h : atTop (redirectOutput label listeners) g = .ok (previous, writer) g') :
    (∃ g₁, atTop standardOutput g = .ok previous g₁) ∧ ¬ g.Holds writer ∧
      ∃ installed : Guest, installed.Holds writer ∧ installed.writers[writer]? = some ({ label }, listeners) ∧
        g.Prints installed ∧ installed.Prints g' := by
  rw [atTop_eq] at h
  obtain ⟨system, g₁, himport, h⟩ := reader_bind_ok h
  obtain ⟨read, g₂, hread, h⟩ := reader_bind_ok h
  obtain ⟨made, g₃, hmade, h⟩ := reader_bind_ok h
  obtain ⟨_, g₄, hinstall, h⟩ := reader_bind_ok h
  obtain ⟨_, g₅, hset, h⟩ := reader_bind_ok h
  cases h
  cases hmade
  cases hinstall
  have hcontext := isWithin_topContext g
  have hprints₁ := ((spares_hostImport "sys" _ g hcontext (Guest.isClosed_everything g)).at_ok himport).1.prints
  have hprints₂ := ((spares_attributeOf "stdout" trivial _ g₁ hcontext (Guest.isClosed_everything g₁)).at_ok hread).1.prints
  have hprints := hprints₁.trans hprints₂
  have hnew : ¬ g.Holds g₂.next := fun hheld => Nat.lt_irrefl _ (hprints.holds hheld)
  refine ⟨⟨g₂, ?_⟩, hnew, { g₂.adding { body := .output { label } listeners } with
    writers := g₂.writers.insert g₂.next ({ label }, listeners) }, ?_, Std.HashMap.getElem?_insert_self, ?_, ?_⟩
  · rw [atTop_eq, standardOutput, reader_bind_run, himport]
    exact hread
  · simp [Guest.Holds, Guest.next, Guest.adding]
  · refine hprints.trans ⟨by simp [Guest.adding], [], [], (List.append_nil _).symm, (List.append_nil _).symm, ?_⟩
    exact .install (Nat.lt_irrefl _) (.nil _)
  · exact ((spares_setAttribute "stdout" trivial trivial _ _ hcontext (Guest.isClosed_everything _)).at_ok hset).1.prints

end GuestM

namespace WorldM
variable {w w' : World} {i : Nat} {runtime : Runtime} {e : Evaluator} {previous writer : Identity} {line : LineWriter}
  {hooks : Nat} {label : String}

theorem restore_withdraws (previous : Identity) (hline : w.guest.writers[writer]? = some (line, hooks)) :
    w.guest.Withdraws previous writer line hooks (restore (some (previous, writer)) w).2.guest := by
  obtain ⟨g, hrun, hwithdraws⟩ := GuestM.restoreOutput_withdraws (g := w.guest.unreported) previous hline
  have hrestore : (restore (some (previous, writer)) w).2 = (guest (GuestM.restoreOutput previous writer) w).2 := rfl
  rw [hrestore, guest_run, hrun]
  exact hwithdraws.reported

theorem redirect_ok (h : guest (GuestM.redirectOutput label hooks) w = (.ok (previous, writer), w')) :
    (∃ g, GuestM.atTop GuestM.standardOutput w.guest.unreported = .ok previous g) ∧ ¬ w.guest.Holds writer ∧
      ∃ installed : Guest, installed.Holds writer ∧ installed.writers[writer]? = some ({ label }, hooks) ∧
        w.guest.Prints installed ∧ installed.Prints w'.guest := by
  rw [guest_run] at h
  cases hrun : GuestM.atTop (GuestM.redirectOutput label hooks) w.guest.unreported with
  | error f g =>
    rw [hrun] at h
    cases h
  | ok output g =>
    rw [hrun] at h
    cases h
    obtain ⟨hread, hnew, installed, hheld, hwriter, hbefore, hafter⟩ := GuestM.redirectOutput_ok hrun
    exact ⟨hread, hnew, w.guest.reporting installed, hheld, hwriter, hbefore.reported, hafter.reporting w.guest⟩

/-- The new writer has taken the place of standard output. -/
theorem redirect_of_hasSystem {found : Identity} (hg : w.guest.HasSystem) (hfound : w.guest.stdout = some found)
    (h : guest (GuestM.redirectOutput label hooks) w = (.ok (previous, writer), w')) :
    w'.guest.stdout = some writer ∧ w'.guest.body writer = .output { label } hooks := by
  obtain ⟨g, hrun, -, hplace, hbody, -⟩ := GuestM.redirectOutput_of_hasSystem (g := w.guest.unreported)
    (hg.proceeds (W := fun _ => False) (Guest.proceeds_unreported _) nofun) hfound label hooks w.guest.unreported.topContext
  rw [guest_run, GuestM.atTop_eq, hrun] at h
  cases h
  exact ⟨hplace, hbody⟩

end WorldM

namespace World
variable {w w' : World} {i : Nat} {names : List String} {values : List Value}

/-- The world in which a call redirects output: its scope is made and holds the bindings of the call. -/
def Seeded (w : World) (i : Nat) (names : List String) (values : List Value) (seeded : World) : Prop :=
  ∃ runtime begun w₁ scope w₂, w.announced i names values = (.ok runtime, begun) ∧
    WorldM.resetPath (w.evaluator i) runtime begun = (.ok ⟨⟩, w₁) ∧
    WorldM.cross i runtime Scope.make w₁ = (.ok scope, w₂) ∧
    WorldM.cross i runtime (Scope.bindAll (w.evaluator i).converters scope (w.opened i names values).1.pairs) w₂ =
      (.ok ⟨⟩, seeded)

theorem Seeded.unique {seeded seeded' : World} (h : w.Seeded i names values seeded)
    (h' : w.Seeded i names values seeded') : seeded = seeded' := by
  obtain ⟨runtime, begun, w₁, scope, w₂, hstart, hreset, hmake, hbind⟩ := h
  obtain ⟨runtime', begun', w₁', scope', w₂', hstart', hreset', hmake', hbind'⟩ := h'
  rw [hstart] at hstart'
  cases hstart'
  rw [hreset] at hreset'
  cases hreset'
  rw [hmake] at hmake'
  cases hmake'
  rw [hbind] at hbind'
  cases hbind'
  rfl

/-- A call with redirection that is ready for its script has redirected output. -/
theorem redirected_of_prepared {runtime : Runtime} {stage : Stage} {begun prepared : World}
    (hredirects : (w.evaluator i).config.redirectOutput = true) (hstart : w.announced i names values = (.ok runtime, begun))
    (hprepare : WorldM.prepare i runtime (w.evaluator i) (w.opened i names values).1 begun = (.ok stage, prepared)) :
    ∃ seeded previous writer, w.Seeded i names values seeded ∧ stage.output = some (previous, writer) ∧
      WorldM.guest (GuestM.redirectOutput (w.opened i names values).1.label (w.evaluator i).hooks.length) seeded =
        (.ok (previous, writer), prepared) := by
  obtain ⟨w₁, w₂, scope, seeded, hreset, hmake, hbind, -, ⟨hno, -⟩ | ⟨-, ⟨previous, writer⟩, hredirect⟩⟩ :=
    WorldM.prepare_ok hprepare
  · rw [hredirects] at hno
    cases hno
  · have hprepared := WorldM.prepare_of_bound hreset hmake hbind
    rw [if_pos hredirects, hredirect, hprepare] at hprepared
    cases hprepared
    exact ⟨seeded, previous, writer, ⟨runtime, begun, w₁, scope, w₂, hstart, hreset, hmake, hbind⟩, rfl, hredirect⟩

/-- A call of a started evaluator begins with the interpreter that it finds. -/
theorem announced_of_started {runtime : Runtime} (hstarted : (w.evaluator i).runtime = some runtime) (names : List String)
    (values : List Value) : ∃ begun, w.announced i names values = (.ok runtime, begun) ∧ begun.held = true ∧
      begun.guest = { w.guest with records := begun.guest.records } := by
  obtain ⟨records, hrecords⟩ := Guest.foldl_noted (Bindings.ofArguments (w.evaluator i).config names values).2 w.guest
  have hstart : WorldM.ensureStarted i (w.opened i names values).2 = (.ok runtime, (w.opened i names values).2) :=
    WorldM.ensureStarted_run hstarted
  unfold announced
  dsimp only
  rw [hstart]
  refine ⟨_, rfl, rfl, ?_⟩
  have hopened : (w.opened i names values).2.guest = { w.guest with records } := hrecords
  rw [WorldM.record_run]
  dsimp only
  rw [hopened]
  rfl

/-- Where the system module is the interpreter's own and there is a standard output, it can be redirected. -/
theorem ready_of_seeded {runtime : Runtime} {seeded : World} {found : Identity}
    (hstarted : (w.evaluator i).runtime = some runtime) (hseeded : w.Seeded i names values seeded)
    (hsystem : seeded.guest.HasSystem) (hfound : seeded.guest.stdout = some found) :
    ∃ stage begun, w.ready i names values = (.ok (runtime, stage), begun) := by
  obtain ⟨runtime', w₁, w₂, scope, w₃, hstart, hreset, hmake, hbind⟩ := hseeded
  obtain ⟨w₁', hstart', -⟩ := announced_of_started hstarted names values
  rw [hstart] at hstart'
  cases hstart'
  have hprepared := WorldM.prepare_of_bound hreset hmake hbind
  split at hprepared
  · obtain ⟨g, hrun, -⟩ := GuestM.redirectOutput_of_hasSystem (g := seeded.guest.unreported)
      (hsystem.proceeds (W := fun _ => False) (Guest.proceeds_unreported _) nofun) hfound
      (w.opened i names values).1.label (w.evaluator i).hooks.length seeded.guest.unreported.topContext
    rw [WorldM.guest_run, GuestM.atTop_eq, hrun] at hprepared
    exact ⟨_, _, ready_of_prepared hstart hprepared⟩
  · exact ⟨_, _, ready_of_prepared hstart hprepared⟩

/-- Where the interpreter's own modules are in place and the bindings of a call are taken up without a change to what was
there, a call redirects the standard output that it finds. -/
theorem seeded_of_isIntact {runtime : Runtime} {found : Identity} (hstarted : (w.evaluator i).runtime = some runtime)
    (hintact : w.guest.IsIntact) (hfound : w.guest.stdout = some found)
    (hpairs : ∀ pair ∈ (w.opened i names values).1.pairs, Inbound.TakesUp (w.evaluator i).converters.inbound pair.2) :
    ∃ seeded, w.Seeded i names values seeded ∧ seeded.guest.HasSystem ∧ seeded.guest.stdout = some found := by
  obtain ⟨begun, hstart, -, hguest⟩ := announced_of_started hstarted names values
  have hsince : w.guest.Proceeds (fun _ => False) begun.guest := by
    rw [hguest]
    exact Guest.proceeds_of_same rfl rfl rfl rfl
  have hbegun := hintact.proceeds hsince nofun
  obtain ⟨w₁, hreset, hproceeds₁, hkept⟩ := WorldM.resetPath_of_isIntact (w.evaluator i) runtime hbegun
  have hg₁ := hbegun.proceeds hproceeds₁ fun id hid => hid ▸ hbegun.system.2
  obtain ⟨globals, t, hmake, hproceeds₂, hnew, hheld, hdict, -⟩ :=
    Scope.make_of_hasBuiltins (t := w₁.crossing i runtime) hg₁.unreported.hasSystem.hasBuiltins
  have hscoped : w₁.guest.Proceeds (fun _ => False) (w₁.crossed i t).guest := hproceeds₂.reported
  have hg₂ := hg₁.proceeds hscoped nofun
  have htidy : ((w₁.crossed i t).crossing i runtime).guest.IsTidy (· = globals) :=
    ⟨fun id hid => hid ▸ ⟨hheld, hdict⟩, hg₂.unreported.bare⟩
  obtain ⟨t', hbind, hproceeds₃, -⟩ := Scope.bindAll_of_takesUp hpairs htidy (rfl : Scope.globals { globals } = globals)
  have hbound : (w₁.crossed i t).guest.Proceeds (· = globals) ((w₁.crossed i t).crossed i t').guest := hproceeds₃.reported
  have hne : globals ≠ (w₁.crossed i t).guest.system := fun he => hnew (he ▸ hscoped.system ▸ hg₁.system.1)
  refine ⟨(w₁.crossed i t).crossed i t', ⟨runtime, begun, w₁, { globals }, w₁.crossed i t, hstart, hreset, ?_, ?_⟩, ?_, ?_⟩
  · rw [WorldM.cross_run, hmake]
  · rw [WorldM.cross_run, hbind]
  · exact hg₂.hasSystem.proceeds hbound fun id hid => hid ▸ hdict
  · rw [Guest.stdout, Guest.systemAttribute, hbound.system, hbound.lookup_eq hg₂.system.1 (Ne.symm hne), hscoped.system,
      hscoped.lookup_eq hg₁.system.1 not_false, hproceeds₁.system, hkept "stdout" (by decide), hsince.system,
      hsince.lookup_eq hintact.system.1 not_false]
    exact hfound

/-- A call that is ready for its script has put a new writer in use, in the place of what it has read there. -/
theorem redirected_of_ready {runtime : Runtime} {stage : Stage} {begun : World}
    (hredirects : (w.evaluator i).config.redirectOutput = true) (hfair : (w.evaluator i).converters.Fair everything)
    (hready : w.ready i names values = (.ok (runtime, stage), begun)) : ∃ w₁ seeded installed previous writer,
      w.announced i names values = (.ok runtime, w₁) ∧ w.Seeded i names values seeded ∧
      stage.output = some (previous, writer) ∧
      (∃ g, GuestM.atTop GuestM.standardOutput seeded.guest.unreported = .ok previous g) ∧ ¬ seeded.guest.Holds writer ∧
      seeded.guest.Prints installed ∧ installed.Holds writer ∧
      installed.writers[writer]? = some ({ label := (w.opened i names values).1.label }, (w.evaluator i).hooks.length) ∧
      installed.Prints begun.guest ∧ begun.guest.system = w₁.guest.system ∧ w₁.guest.Prints begun.guest := by
  obtain ⟨w₁, prepared, hstart, hprepare, hbegun⟩ := ready_ok hready
  obtain ⟨seeded, previous, writer, hseeded, houtput, hredirect⟩ := redirected_of_prepared hredirects hstart hprepare
  obtain ⟨hread, hnew, installed, hheld, hwriter, hbefore, hafter⟩ := WorldM.redirect_ok hredirect
  have hheld₁ : w₁.held = true := by
    have hkept : (w.announced i names values).2.held = true := (WorldM.tellsLines_ensureStarted i _).2
    rwa [hstart] at hkept
  have hscope : Within everything stage.scope := (trivial : everything stage.scope.globals)
  have hprepared := (WorldM.spares_prepare hfair i runtime (w.opened i names values).1 w₁ hheld₁
    (Guest.isClosed_everything _) (within_everything _)).1
  rw [hprepare] at hprepared
  have hnotified := (WorldM.spares_notifyStarted hfair hscope WorldM.requestDepth i runtime
    ((w.opened i names values).1.pairs.map (·.2)) (WorldM.numbered (w.evaluator i).hooks) prepared
    (hprepared.held.trans hheld₁) (Guest.isClosed_everything _) (within_everything _)).1
  rw [← hbegun] at hnotified
  have hall := hprepared.trans hnotified
  exact ⟨w₁, seeded, installed, previous, writer, hstart, hseeded, houtput, hread, hnew, hbefore, hheld, hwriter,
    hafter.trans hnotified.guest.prints, hall.guest.system, hall.guest.prints⟩

/-- What stood in the place of standard output stands there again, and the writer of the call has delivered all. -/
private theorem borrowed_of_ready {runtime : Runtime} {stage : Stage} {begun : World}
    (hstarted : (w.evaluator i).runtime = some runtime) (hredirects : (w.evaluator i).config.redirectOutput = true)
    (hsystem : w.guest.Holds w.guest.system) (hfair : (w.evaluator i).converters.Fair everything) (code : Script)
    (hopen : w.held = false) (hready : w.ready i names values = (.ok (runtime, stage), begun)) :
    ∃ seeded installed previous writer, w.Seeded i names values seeded ∧ stage.output = some (previous, writer) ∧
      (∃ g, GuestM.atTop GuestM.standardOutput seeded.guest.unreported = .ok previous g) ∧
      (∀ found, seeded.guest.HasSystem → seeded.guest.stdout = some found → previous = found) ∧
      ¬ seeded.guest.Holds writer ∧ seeded.guest.Prints installed ∧
      installed.Delivers writer (w.opened i names values).1.label (w.evaluator i).hooks.length
        (WorldM.evaluate i code names values w).2.guest ∧
      (WorldM.evaluate i code names values w).2.guest.stdout = some previous := by
  obtain ⟨w₁, seeded, installed, previous, writer, hstart, hseeded, houtput, hread, hnew, hbefore, hheld, hwriter, hin,
    hsame, hsince⟩ := redirected_of_ready hredirects hfair hready
  have hscope : Within everything stage.scope := (trivial : everything stage.scope.globals)
  have hconcluded := (WorldM.spares_conclude hfair hscope WorldM.requestDepth i runtime code (w.opened i names values).1
    begun (WorldM.ready_keeps hready).2.1 (Guest.isClosed_everything _) (within_everything _)).1
  obtain ⟨last, hlast⟩ : ∃ last, WorldM.conclude (WorldM.issue WorldM.requestDepth) i runtime (w.evaluator i) stage.scope
    code (w.opened i names values).1 begun = last := ⟨_, rfl⟩
  have hcall : WorldM.evaluate i code names values w =
      (last.1, { (WorldM.restore stage.output last.2).2 with held := false }) :=
    hlast ▸ WorldM.evaluate_of_ready code hopen hready
  rw [hlast] at hconcluded
  have hin' := hin.trans hconcluded.guest.prints
  obtain ⟨line, hline, -⟩ := hin'.writer hheld hwriter
  have hwithdraws : last.2.guest.Withdraws previous writer line (w.evaluator i).hooks.length
      (WorldM.evaluate i code names values w).2.guest := by
    rw [hcall]
    change last.2.guest.Withdraws previous writer line _ (WorldM.restore stage.output last.2).2.guest
    rw [houtput]
    exact WorldM.restore_withdraws previous hline
  have hplace : last.2.guest.Holds last.2.guest.system := by
    obtain ⟨w₁', hstart', -, hguest⟩ := announced_of_started hstarted names values
    rw [hstart] at hstart'
    cases hstart'
    rw [hconcluded.guest.system, hsame]
    refine (hsince.trans hconcluded.guest.prints).holds ?_
    rw [hguest]
    exact hsystem
  refine ⟨seeded, installed, previous, writer, hseeded, houtput, hread, fun found hown hfound => ?_, hnew, hbefore,
    hin'.delivers hheld hwriter hline hwithdraws, hwithdraws.stdout hplace⟩
  obtain ⟨g, hread⟩ := hread
  have hown' : seeded.guest.unreported.HasSystem := hown.proceeds (W := fun _ => False) (Guest.proceeds_unreported _) nofun
  rw [GuestM.atTop_eq, GuestM.standardOutput_of_hasSystem hown' hfound] at hread
  cases hread
  rfl

/-- What such a converter makes is an object of the interpreter. -/
private theorem fair_seizing (writer : Identity) : Inbound.Fair everything [Inbound.seizing writer] := fun c hc => by
  obtain rfl := List.mem_singleton.mp hc
  exact fun _ => InboundPlan.spares_finish (.bind (GuestM.spares_writeLines _ trivial) fun _ _ =>
    .bind (GuestM.spares_setSystem _ trivial) fun _ _ => .pure trivial)

end World

end ScriptHost
