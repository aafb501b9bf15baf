import ScriptHost.Guest.Printing
import ScriptHost.Proofs.Guest.Namespace
import ScriptHost.Proofs.Stepping

/-! What line writers emit: every stroke on a writer is kept, what hooks are told of lines is what the strokes emit, each
under the label of its own writer, and a text that is written is told once, in order, in pieces that end where its
lines do. -/
namespace ScriptHost
open Stepping

/-- Line writers in use, each with the number of hooks that listen to it. -/
abbrev Writers := Std.HashMap Identity (LineWriter × Nat)

/-- Whether a hook is told of a line. -/
def Event.isOutput : Event → Bool
  | .output _ _ _ => true
  | _ => false

namespace LineWriter

/-! ### The text that is written -/

theorem label_strike (w : LineWriter) (stroke : Stroke) : (w.strike stroke).2.label = w.label := by
  cases stroke <;> rfl

/-- The text that a stroke writes. -/
def Stroke.text : Stroke → List Char
  | .write text => text
  | .flush => []

/-- What a piece of text is told as: without the line ends that close it, if it is a whole line. -/
def toldAs (piece : List Char) : String := String.ofList (if '\n' ∈ piece then trimmed piece else piece)

/-- A piece of text that is not empty and has a line feed nowhere but at its end. -/
def IsPiece (piece : List Char) : Prop := piece ≠ [] ∧ '\n' ∉ piece.dropLast

private theorem trimmed_ended (line : List Char) : trimmed (line ++ ['\n']) = trimmed line := by
  simp [trimmed, isLineEnd]

private theorem isPiece_ended {line : List Char} (h : '\n' ∉ line) : IsPiece (line ++ ['\n']) :=
  ⟨by simp, by rwa [List.dropLast_concat]⟩

/-- A text is cut after its line feeds. -/
private theorem cut_spec (text : List Char) : ((cut text).1.map (· ++ ['\n'])).flatten ++ (cut text).2 = text ∧
    (∀ line ∈ (cut text).1, '\n' ∉ line) ∧ '\n' ∉ (cut text).2 := by
  induction text with
  | nil => simp [cut]
  | cons c rest ih =>
    obtain ⟨hflat, hlines, hleft⟩ := ih
    rcases hcut : cut rest with ⟨lines, left⟩
    rw [hcut] at hflat hlines hleft
    by_cases hc : c = '\n'
    · subst hc
      simp only [cut, hcut, if_true]
      exact ⟨by simpa using hflat, by simpa using hlines, hleft⟩
    · cases lines with
      | nil =>
        simp only [cut, hcut, if_neg hc]
        exact ⟨by simpa using hflat, by simp, by simpa [Ne.symm hc] using hleft⟩
      | cons line lines =>
        simp only [cut, hcut, if_neg hc]
        exact ⟨by simpa using hflat, by simpa [Ne.symm hc] using hlines, hleft⟩

/-- A stroke tells pieces of what was pending and of what it writes, and the rest is pending. -/
private theorem strike_pieces (w : LineWriter) (h : '\n' ∉ w.pending) (stroke : Stroke) :
    ∃ pieces : List (List Char), pieces.flatten ++ (w.strike stroke).2.pending = w.pending ++ stroke.text ∧
      (∀ piece ∈ pieces, IsPiece piece) ∧ (w.strike stroke).1 = pieces.map toldAs ∧ '\n' ∉ (w.strike stroke).2.pending := by
  cases stroke with
  | write text =>
    obtain ⟨hflat, hlines, hleft⟩ := cut_spec (w.pending ++ text)
    refine ⟨(cut (w.pending ++ text)).1.map (· ++ ['\n']), hflat, fun piece hpiece => ?_, ?_, hleft⟩
    · obtain ⟨line, hline, rfl⟩ := List.mem_map.mp hpiece
      exact isPiece_ended (hlines line hline)
    · rw [List.map_map]
      refine List.map_congr_left fun line _ => ?_
      simp [toldAs, trimmed_ended]
  | flush =>
    by_cases hpending : w.pending = []
    · exact ⟨[], by simp [strike, flush, hpending, Stroke.text], by simp, by simp [strike, flush, hpending], by simp [strike, flush]⟩
    · refine ⟨[w.pending], by simp [strike, flush, Stroke.text], ?_, ?_, by simp [strike, flush]⟩
      · simpa [IsPiece, hpending] using fun hmem => h (List.dropLast_subset _ hmem)
      · simp [strike, flush, hpending, toldAs, h]

/-- A text with a line feed completes a line. -/
theorem write_ne_nil {text : List Char} (w : LineWriter) (h : '\n' ∈ text) : (w.strike (.write text)).1 ≠ [] := by
  obtain ⟨hflat, -, hleft⟩ := cut_spec (w.pending ++ text)
  intro hnone
  rw [strike, write, List.map_eq_nil_iff] at hnone
  rw [hnone, List.map_nil, List.flatten_nil, List.nil_append] at hflat
  rw [hflat] at hleft
  exact hleft (List.mem_append_right _ h)

private theorem cut_ne_nil {c : Char} (hc : c ≠ '\n') (text : List Char) : (cut (text ++ [c])).2 ≠ [] := by
  induction text with
  | nil => simp [cut, hc]
  | cons d text ih =>
    rw [List.cons_append, cut]
    split
    next lines left hcut =>
      rw [hcut] at ih
      split
      · exact ih
      · cases lines with
        | nil => exact List.cons_ne_nil _ _
        | cons line lines => exact ih

/-- A text that ends no line is pending at its end. -/
theorem pending_write_ne_nil {c : Char} (w : LineWriter) (hc : c ≠ '\n') (text : List Char) :
    (w.write (text ++ [c])).2.pending ≠ [] := by
  have hcut := cut_ne_nil hc (w.pending ++ text)
  rwa [List.append_assoc] at hcut

/-- The lines that strokes emit one after the other, and the writer afterwards. -/
def strikes (w : LineWriter) : List Stroke → List String × LineWriter
  | [] => ([], w)
  | stroke :: rest => ((w.strike stroke).1 ++ ((w.strike stroke).2.strikes rest).1, ((w.strike stroke).2.strikes rest).2)

theorem strikes_append (w : LineWriter) (strokes later : List Stroke) :
    w.strikes (strokes ++ later) =
      ((w.strikes strokes).1 ++ ((w.strikes strokes).2.strikes later).1, ((w.strikes strokes).2.strikes later).2) := by
  induction strokes generalizing w with
  | nil => rfl
  | cons stroke strokes ih => simp [strikes, ih]

theorem label_strikes (w : LineWriter) (strokes : List Stroke) : (w.strikes strokes).2.label = w.label := by
  induction strokes generalizing w with
  | nil => rfl
  | cons stroke strokes ih => rw [strikes, ih, label_strike]

/-- Strokes tell the text that they write, in order, and what is left of it is pending. -/
theorem strikes_pieces (w : LineWriter) (h : '\n' ∉ w.pending) (strokes : List Stroke) :
    ∃ pieces : List (List Char), pieces.flatten ++ (w.strikes strokes).2.pending = w.pending ++ strokes.flatMap Stroke.text ∧
      (∀ piece ∈ pieces, IsPiece piece) ∧ (w.strikes strokes).1 = pieces.map toldAs := by
  induction strokes generalizing w with
  | nil => exact ⟨[], by simp [strikes], by simp, rfl⟩
  | cons stroke strokes ih =>
    obtain ⟨pieces, hflat, hpieces, hlines, hpending⟩ := strike_pieces w h stroke
    obtain ⟨later, hlater, hall, hmore⟩ := ih (w.strike stroke).2 hpending
    refine ⟨pieces ++ later, ?_, ?_, ?_⟩
    · simp only [strikes, List.flatten_append, List.append_assoc, List.flatMap_cons]
      rw [hlater, ← List.append_assoc, hflat, List.append_assoc]
    · simpa [or_imp, forall_and] using ⟨hpieces, hall⟩
    · rw [strikes, hlines, hmore, List.map_append]

/-! ### What hooks are told -/

/-- What hooks are told of the lines of a writer. -/
def outputs (label : String) (listeners : Nat) (lines : List String) : List Event :=
  lines.flatMap fun line => (List.range listeners).map fun hook => .output hook label line

theorem outputs_cons (label : String) (listeners : Nat) (line : String) (lines : List String) :
    outputs label listeners (line :: lines) =
      (List.range listeners).map (fun hook => Event.output hook label line) ++ outputs label listeners lines :=
  List.flatMap_cons

theorem outputs_append (label : String) (listeners : Nat) (lines more : List String) :
    outputs label listeners (lines ++ more) = outputs label listeners lines ++ outputs label listeners more :=
  List.flatMap_append

/-- A writer that is flushed tells nothing if nothing is left to tell, or no hook listens. -/
theorem outputs_flush_eq_nil_iff {line : LineWriter} {label : String} {listeners : Nat} :
    outputs label listeners line.flush.1 = [] ↔ listeners = 0 ∨ line.pending = [] := by
  by_cases hpending : line.pending = []
  · simp [outputs, flush, hpending]
  · simp [outputs, flush, hpending, List.range_eq_nil]

theorem isOutput_of_mem_outputs {label : String} {listeners : Nat} {lines : List String} {event : Event}
    (h : event ∈ outputs label listeners lines) : event.isOutput = true := by
  obtain ⟨line, -, hline⟩ := List.mem_flatMap.mp h
  obtain ⟨hook, -, rfl⟩ := List.mem_map.mp hline
  rfl

end LineWriter

/-- What of a history concerns one writer. -/
def ofWriter {α : Type} (output : Identity) (history : List (Identity × α)) : List α :=
  (history.filter (·.1 = output)).map (·.2)

section
variable {α : Type} {output other : Identity}

@[simp] theorem ofWriter_append (history later : List (Identity × α)) :
    ofWriter output (history ++ later) = ofWriter output history ++ ofWriter output later := by
  simp [ofWriter]

theorem ofWriter_cons (entry : Identity × α) (history : List (Identity × α)) :
    ofWriter output (entry :: history) = if entry.1 = output then entry.2 :: ofWriter output history
      else ofWriter output history := by
  unfold ofWriter
  rw [List.filter_cons]
  split <;> split <;> simp_all

theorem ofWriter_own (output : Identity) (items : List α) : ofWriter output (items.map (output, ·)) = items := by
  induction items with
  | nil => rfl
  | cons item items ih => rw [List.map_cons, ofWriter_cons, if_pos rfl, ih]

theorem ofWriter_of_ne (hne : other ≠ output) (items : List α) : ofWriter output (items.map (other, ·)) = [] := by
  induction items with
  | nil => rfl
  | cons item items ih => rw [List.map_cons, ofWriter_cons, if_neg hne, ih]

end

/-- Strokes lead from writers in use to others and tell hooks of lines, each on behalf of a writer. A writer that is not
in use yet is as it was made, and none is put in use anew that was there before. -/
inductive Emits (before : Identity → Prop) :
    Writers → List (Identity × LineWriter.Stroke) → List (Identity × Event) → Writers → Prop
  | nil (writers : Writers) : Emits before writers [] [] writers
  | install {writers last : Writers} {output : Identity} {made : LineWriter} {listeners : Nat}
    {strokes : List (Identity × LineWriter.Stroke)} {told : List (Identity × Event)} (hnew : ¬ before output)
    (hrest : Emits before (writers.insert output (made, listeners)) strokes told last) :
    Emits before writers strokes told last
  | strike {writers last : Writers} {output : Identity} {stroke : LineWriter.Stroke} {made writer : LineWriter}
    {listeners hooks : Nat} {rest : List (Identity × LineWriter.Stroke)} {told : List (Identity × Event)}
    (hwriter : writers.getD output (made, listeners) = (writer, hooks))
    (hrest : Emits before (writers.insert output ((writer.strike stroke).2, hooks)) rest told last) :
    Emits before writers ((output, stroke) :: rest)
      ((LineWriter.outputs writer.label hooks (writer.strike stroke).1).map (output, ·) ++ told) last

namespace Emits
variable {before earlier : Identity → Prop} {writers mid last : Writers} {output : Identity} {writer : LineWriter}
  {hooks : Nat} {strokes later : List (Identity × LineWriter.Stroke)} {told more : List (Identity × Event)}

theorem mono (h : Emits before writers strokes told last) (hearlier : ∀ id, earlier id → before id) :
    Emits earlier writers strokes told last := by
  induction h with
  | nil writers => exact .nil writers
  | install hnew _ ih => exact .install (fun he => hnew (hearlier _ he)) ih
  | strike hwriter _ ih => exact .strike hwriter ih

theorem append (h : Emits before writers strokes told mid) (h' : Emits before mid later more last) :
    Emits before writers (strokes ++ later) (told ++ more) last := by
  induction h with
  | nil => exact h'
  | install hnew _ ih => exact .install hnew (ih h')
  | strike hwriter _ ih =>
    rw [List.append_assoc]
    exact .strike hwriter (ih h')

/-- What hooks are told on behalf of a writer in use is what the strokes on it emit, under its label. -/
theorem of_writer (h : Emits before writers strokes told last) (hbefore : before output)
    (hwriter : writers[output]? = some (writer, hooks)) :
    last[output]? = some ((writer.strikes (ofWriter output strokes)).2, hooks) ∧
      ofWriter output told = LineWriter.outputs writer.label hooks (writer.strikes (ofWriter output strokes)).1 := by
  induction h generalizing writer with
  | nil => exact ⟨hwriter, rfl⟩
  | install hnew _ ih =>
    refine ih ?_
    rwa [Std.HashMap.getElem?_insert, if_neg]
    simp only [beq_iff_eq]
    rintro rfl
    exact hnew hbefore
  | @strike writers last other stroke made struck listeners count rest told hstruck _ ih =>
    rw [ofWriter_append, ofWriter_cons]
    by_cases hother : other = output
    · subst hother
      obtain ⟨rfl, rfl⟩ : struck = writer ∧ count = hooks := by
        rw [Std.HashMap.getD_eq_getD_getElem?, hwriter, Option.getD_some, Prod.mk.injEq] at hstruck
        exact ⟨hstruck.1.symm, hstruck.2.symm⟩
      have hnext : (writers.insert other ((struck.strike stroke).2, count))[other]? =
          some ((struck.strike stroke).2, count) := by simp
      obtain ⟨hlast, htold⟩ := ih hnext
      simp only [if_true, LineWriter.strikes]
      exact ⟨hlast, by rw [ofWriter_own, htold, LineWriter.label_strike, LineWriter.outputs_append]⟩
    · simp only [if_neg hother]
      rw [ofWriter_of_ne hother, List.nil_append]
      refine ih ?_
      rwa [Std.HashMap.getElem?_insert, if_neg]
      simpa using hother

end Emits

namespace Guest

/-- The lines that hooks have been told of. -/
def outputs (g : Guest) : List Event := g.events.toList.filter Event.isOutput

/-- What hooks have been told beside lines. -/
def notices (g : Guest) : List Event := g.events.toList.filter fun event => !event.isOutput

/-- A guest after some strokes on line writers, which have told the hooks of lines and nothing else has. No object is
gone. -/
structure Prints (g g' : Guest) : Prop where
  grows : g.heap.size ≤ g'.heap.size
  emits : ∃ strokes told, g'.strokes.toList = g.strokes.toList ++ strokes ∧ g'.outputs = g.outputs ++ told.map (·.2) ∧
    Emits g.Holds g.writers strokes told g'.writers

namespace Prints
variable {g g' g'' : Guest}

theorem of_same (hheap : g.heap.size ≤ g'.heap.size) (hstrokes : g'.strokes = g.strokes) (hevents : g'.events = g.events)
    (hwriters : g'.writers = g.writers) : g.Prints g' :=
  ⟨hheap, [], [], by rw [hstrokes, List.append_nil], by rw [outputs, hevents, List.map_nil, List.append_nil, outputs],
    hwriters ▸ .nil _⟩

theorem refl (g : Guest) : g.Prints g := of_same (Nat.le_refl _) rfl rfl rfl

theorem holds (h : g.Prints g') {id : Identity} (hid : g.Holds id) : g'.Holds id := Nat.lt_of_lt_of_le hid h.grows

theorem trans (h : g.Prints g') (h' : g'.Prints g'') : g.Prints g'' := by
  obtain ⟨hgrows, strokes, told, hstrokes, htold, hemits⟩ := h
  obtain ⟨hgrows', later, more, hlater, hmore, hemits'⟩ := h'
  refine ⟨Nat.le_trans hgrows hgrows', strokes ++ later, told ++ more, by rw [hlater, hstrokes, List.append_assoc], ?_,
    hemits.append (hemits'.mono fun _ hid => Nat.lt_of_lt_of_le hid hgrows)⟩
  rw [hmore, htold, List.append_assoc, List.map_append]

end Prints
end Guest

namespace GuestM
open LineWriter

private theorem forM_notify_run {α : Type} (event : α → Event) (hooks : List α) (context : Context) (g : Guest) :
    (hooks.forM fun hook => notify (event hook)) context g =
      .ok ⟨⟩ { g with events := g.events ++ (hooks.map event).toArray } := by
  induction hooks generalizing g with
  | nil => simp
  | cons hook hooks ih =>
    change (hooks.forM fun hook => notify (event hook)) context { g with events := g.events.push (event hook) } = _
    rw [ih]
    simp

/-- Every hook that listens is told of every line, in order. -/
theorem emit_run (label : String) (listeners : Nat) (lines : List String) (context : Context) (g : Guest) :
    ∃ records, emit label listeners lines context g =
      .ok ⟨⟩ { g with records, events := g.events ++ (LineWriter.outputs label listeners lines).toArray } := by
  induction lines generalizing g with
  | nil => exact ⟨g.records, by simp [emit, LineWriter.outputs]⟩
  | cons line lines ih =>
    let reported : Guest := { g with records := g.records.push ⟨.info, .script, label ++ ": " ++ line⟩ }
    have htold := forM_notify_run (fun hook => .output hook label line) (List.range listeners) context reported
    obtain ⟨records, hrest⟩ := ih { reported with
      events := g.events ++ ((List.range listeners).map fun hook => Event.output hook label line).toArray }
    refine ⟨records, ?_⟩
    change (((List.range listeners).forM fun hook => notify (.output hook label line)) >>= fun _ =>
      emit label listeners lines) context reported = _
    rw [reader_bind_run, htold]
    have hevents : g.events ++ ((List.range listeners).map fun hook => Event.output hook label line).toArray ++
        (LineWriter.outputs label listeners lines).toArray =
        g.events ++ (LineWriter.outputs label listeners (line :: lines)).toArray := by
      simp [LineWriter.outputs_cons, Array.append_assoc]
    rw [← hevents]
    exact hrest

variable {output : Identity} {made writer : LineWriter} {listeners hooks : Nat} {g : Guest}

/-- A stroke is kept, and hooks are told of what it makes its writer emit. -/
theorem strike_run (hwriter : g.writers.getD output (made, listeners) = (writer, hooks)) (stroke : Stroke)
    (context : Context) : ∃ records, strike output made listeners stroke context g = .ok ⟨⟩ { g with
      records
      events := g.events ++ (LineWriter.outputs writer.label hooks (writer.strike stroke).1).toArray
      strokes := g.strokes.push (output, stroke)
      writers := g.writers.insert output ((writer.strike stroke).2, hooks) } := by
  obtain ⟨records, hemit⟩ := emit_run (writer.strike stroke).2.label hooks (writer.strike stroke).1 context
    { g with
      strokes := g.strokes.push (output, stroke)
      writers := g.writers.insert output ((writer.strike stroke).2, hooks) }
  have hlabel := label_strike writer stroke
  rw [hlabel] at hemit
  refine ⟨records, ?_⟩
  unfold strike
  rw [reader_bind_run, reader_get_run]
  dsimp only
  rw [hwriter]
  dsimp only
  rw [reader_bind_run, reader_modify_run, hlabel]
  exact hemit

/-- A writer that is in use is written to. -/
theorem writeLines_run (hbody : g.body output = .output made listeners)
    (hwriter : g.writers[output]? = some (writer, hooks)) (text : List Char) (context : Context) :
    ∃ records, writeLines output text context g = .ok ⟨⟩ { g with
      records
      events := g.events ++ (LineWriter.outputs writer.label hooks (writer.write text).1).toArray
      strokes := g.strokes.push (output, .write text)
      writers := g.writers.insert output ((writer.write text).2, hooks) } := by
  have hget : g.writers.getD output (made, listeners) = (writer, hooks) := by
    rw [Std.HashMap.getD_eq_getD_getElem?, hwriter, Option.getD_some]
  obtain ⟨records, hstrike⟩ := strike_run hget (.write text) context
  refine ⟨records, Eq.trans ?_ hstrike⟩
  unfold writeLines bodyOf
  simp only [reader_bind_run, reader_get_run, reader_pure_run, hbody]

/-- A stroke tells hooks of lines only, and these are what the writer emits. -/
theorem strike_tells (output : Identity) (made : LineWriter) (listeners : Nat) (stroke : Stroke) (context : Context)
    (g : Guest) : ∃ g', strike output made listeners stroke context g = .ok ⟨⟩ g' ∧ g.Prints g' ∧ g'.notices = g.notices ∧
      g' = { g with records := g'.records, events := g'.events, strokes := g'.strokes, writers := g'.writers } := by
  rcases hwriter : g.writers.getD output (made, listeners) with ⟨writer, hooks⟩
  obtain ⟨records, hrun⟩ := strike_run hwriter stroke context
  refine ⟨_, hrun, ⟨Nat.le_refl _, [(output, stroke)],
    (LineWriter.outputs writer.label hooks (writer.strike stroke).1).map (output, ·), ?_, ?_, ?_⟩, ?_, rfl⟩
  · simp
  · have hall : (LineWriter.outputs writer.label hooks (writer.strike stroke).1).filter Event.isOutput =
        LineWriter.outputs writer.label hooks (writer.strike stroke).1 :=
      List.filter_eq_self.mpr fun _ hmem => isOutput_of_mem_outputs hmem
    rw [Guest.outputs, Guest.outputs, Array.toList_append, List.filter_append, List.toList_toArray, hall, List.map_map]
    simp [Function.comp_def]
  · rw [← List.append_nil ((LineWriter.outputs _ _ _).map _)]
    exact .strike hwriter (.nil _)
  · have hnone : (LineWriter.outputs writer.label hooks (writer.strike stroke).1).filter (fun event => !event.isOutput) =
        [] := by
      rw [List.filter_eq_nil_iff]
      intro event hmem
      simp [isOutput_of_mem_outputs hmem]
    rw [Guest.notices, Guest.notices, Array.toList_append, List.filter_append, List.toList_toArray, hnone,
      List.append_nil]

end GuestM
end ScriptHost
