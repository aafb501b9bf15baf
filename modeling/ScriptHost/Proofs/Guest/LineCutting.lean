import Mathlib.Data.List.DropRight
import ScriptHost.Proofs.Guest.Proceeding
import ScriptHost.Proofs.Guest.Strokes

/-! Where line writers cut: between two flushes it is the text as a whole that is cut, however it is divided into
writes, and what is not a whole line yet is pending. -/
namespace ScriptHost
open Stepping

namespace LineWriter

/-! ### Pieces between separators -/

section
variable {α : Type} [BEq α] (a : α)

/-- What stands behind the last separator. -/
def behindLast (xs : List α) : List α := (xs.splitOn a).getLast (List.splitOn_ne_nil a xs)

theorem behindLast_of_splitOn {xs last : List α} {pieces : List (List α)} (h : xs.splitOn a = pieces ++ [last]) :
    behindLast a xs = last :=
  (List.getLast_congr _ (List.append_ne_nil_of_right_ne_nil _ (List.cons_ne_nil _ _)) h).trans (List.getLast_concat ..)

variable [LawfulBEq α]

/-- A continuation is cut together with what stands behind the last separator before it. -/
theorem splitOn_append (xs ys : List α) :
    (xs ++ ys).splitOn a = (xs.splitOn a).dropLast ++ (behindLast a xs ++ ys).splitOn a := by
  unfold behindLast
  induction xs with
  | nil => simp
  | cons x xs ih =>
    rcases hpieces : xs.splitOn a with _ | ⟨piece, pieces⟩
    · exact absurd hpieces (List.splitOn_ne_nil a xs)
    · simp only [hpieces] at ih
      simp only [List.cons_append, List.splitOn_cons_eq_if_modifyHead, hpieces, ih]
      by_cases hx : x = a
      · simp [hx]
      · cases pieces <;> simp [hx, List.splitOn_cons_eq_if_modifyHead]

theorem behindLast_append (xs ys : List α) : behindLast a (xs ++ ys) = behindLast a (behindLast a xs ++ ys) :=
  (List.getLast_congr _ (List.append_ne_nil_of_right_ne_nil _ (List.splitOn_ne_nil a _)) (splitOn_append a xs ys)).trans
    (List.getLast_append_of_ne_nil _ (List.splitOn_ne_nil a _))

theorem not_mem_of_mem_splitOn {xs piece : List α} (h : piece ∈ xs.splitOn a) : a ∉ piece := by
  induction xs generalizing piece with
  | nil =>
    rw [List.splitOn_nil, List.mem_singleton] at h
    simp [h]
  | cons x xs ih =>
    rcases hpieces : xs.splitOn a with _ | ⟨first, pieces⟩
    · exact absurd hpieces (List.splitOn_ne_nil a xs)
    · rw [List.splitOn_cons_eq_if_modifyHead, hpieces] at h
      rw [hpieces] at ih
      by_cases hx : x = a
      · rw [if_pos (by simp [hx]), List.mem_cons] at h
        rcases h with rfl | h
        · exact List.not_mem_nil
        · exact ih h
      · rw [if_neg (by simp [hx]), List.modifyHead_cons, List.mem_cons] at h
        rcases h with rfl | h
        · simpa [Ne.symm hx] using ih List.mem_cons_self
        · exact ih (List.mem_cons_of_mem _ h)

theorem not_mem_behindLast (xs : List α) : a ∉ behindLast a xs := not_mem_of_mem_splitOn a (List.getLast_mem _)

end

/-! ### The lines of a text -/

/-- The lines that a text completes, one for each line feed: what stands before it, without the carriage returns at the
end. -/
def completed (text : List Char) : List String :=
  (text.splitOn '\n').dropLast.map fun line => String.ofList (line.rdropWhile (· == '\r'))

/-- What follows the last line feed of a text. -/
def unfinished (text : List Char) : List Char := behindLast '\n' text

/-- A rest as a line of its own, unless it is empty. -/
def closing (rest : List Char) : List String := if rest = [] then [] else [String.ofList rest]

theorem length_completed (text : List Char) : (completed text).length = text.count '\n' := by
  rw [completed, List.length_map, List.length_dropLast]
  induction text with
  | nil => rfl
  | cons c text ih =>
    have hpos := List.length_pos_of_ne_nil (List.splitOn_ne_nil '\n' text)
    rw [List.splitOn_cons_eq_if_modifyHead, List.count_cons]
    split
    · rw [List.length_cons]
      omega
    · rw [List.length_modifyHead, ih, Nat.add_zero]

private theorem cut_eq (text : List Char) : cut text = ((text.splitOn '\n').dropLast, unfinished text) := by
  unfold unfinished behindLast
  induction text with
  | nil => rfl
  | cons c text ih =>
    rcases hpieces : text.splitOn '\n' with _ | ⟨piece, pieces⟩
    · exact absurd hpieces (List.splitOn_ne_nil _ text)
    · simp only [hpieces] at ih
      simp only [cut, ih, List.splitOn_cons_eq_if_modifyHead, hpieces]
      by_cases hc : c = '\n'
      · simp [hc]
      · cases pieces <;> simp [hc]

/-- No line feed stands in a line, so that only carriage returns are taken off it. -/
private theorem trimmed_eq {line : List Char} (h : '\n' ∉ line) : trimmed line = line.rdropWhile (· == '\r') := by
  have hends : ∀ c ∈ line.reverse, isLineEnd c = (c == '\r') := by
    intro c hc
    have hne : c ≠ '\n' := fun he => h (he ▸ List.mem_reverse.mp hc)
    simp [isLineEnd, hne]
  rw [trimmed, List.rdropWhile]
  generalize line.reverse = reversed at hends
  induction reversed with
  | nil => rfl
  | cons c reversed ih =>
    rw [List.dropWhile_cons, List.dropWhile_cons, hends c List.mem_cons_self]
    split
    · exact ih fun d hd => hends d (List.mem_cons_of_mem c hd)
    · rfl

theorem write_eq (w : LineWriter) (text : List Char) :
    w.write text = (completed (w.pending ++ text), { w with pending := unfinished (w.pending ++ text) }) := by
  rw [write, cut_eq, completed]
  refine congrArg (·, _) (List.map_congr_left fun line hline => ?_)
  rw [trimmed_eq (not_mem_of_mem_splitOn '\n' (List.mem_of_mem_dropLast hline))]

theorem flush_eq (w : LineWriter) : w.flush = (closing w.pending, { w with pending := [] }) := by
  simp [flush, closing]

/-- To go on from what is unfinished is to go on from the whole text. -/
theorem completed_append (text more : List Char) :
    completed (text ++ more) = completed text ++ completed (unfinished text ++ more) := by
  rw [completed, splitOn_append, List.dropLast_append_of_ne_nil (List.splitOn_ne_nil _ _), List.map_append]
  rfl

theorem unfinished_append (text more : List Char) : unfinished (text ++ more) = unfinished (unfinished text ++ more) :=
  behindLast_append '\n' text more

/-! ### The lines of a history -/

/-- The texts that strokes write: up to each flush, and after the last one. -/
def writtenBetween (strokes : List Stroke) : List (List Char) :=
  (strokes.splitOn .flush).dropLast.map (·.flatMap Stroke.text)

def writtenSince (strokes : List Stroke) : List Char := (behindLast .flush strokes).flatMap Stroke.text

/-- The lines that strokes emit: each text that a flush closes in whole, the last one as far as it is completed. -/
def linesOf (strokes : List Stroke) : List String :=
  (writtenBetween strokes).flatMap (fun text => completed text ++ closing (unfinished text)) ++
    completed (writtenSince strokes)

section
variable (strokes : List Stroke) (text : List Char)

private theorem splitOn_written :
    (strokes ++ [Stroke.write text]).splitOn .flush =
      (strokes.splitOn .flush).dropLast ++ [behindLast .flush strokes ++ [.write text]] := by
  have hfree : Stroke.flush ∉ behindLast .flush strokes ++ [.write text] := by
    simp [not_mem_behindLast Stroke.flush strokes]
  rw [splitOn_append, List.splitOn_eq_singleton hfree]

private theorem splitOn_flushed : (strokes ++ [Stroke.flush]).splitOn .flush = strokes.splitOn .flush ++ [[]] :=
  List.splitOn_append_cons_self strokes []

theorem writtenSince_write : writtenSince (strokes ++ [.write text]) = writtenSince strokes ++ text := by
  rw [writtenSince, behindLast_of_splitOn _ (splitOn_written strokes text)]
  simp [writtenSince, Stroke.text]

theorem writtenSince_flush : writtenSince (strokes ++ [.flush]) = [] := by
  rw [writtenSince, behindLast_of_splitOn _ (splitOn_flushed strokes), List.flatMap_nil]

theorem linesOf_write : linesOf (strokes ++ [.write text]) =
    linesOf strokes ++ completed (unfinished (writtenSince strokes) ++ text) := by
  have hbetween : writtenBetween (strokes ++ [.write text]) = writtenBetween strokes := by
    rw [writtenBetween, splitOn_written, List.dropLast_concat, writtenBetween]
  rw [linesOf, hbetween, writtenSince_write, completed_append, ← List.append_assoc, linesOf]

theorem linesOf_flush : linesOf (strokes ++ [.flush]) =
    linesOf strokes ++ closing (unfinished (writtenSince strokes)) := by
  have hbetween : writtenBetween (strokes ++ [.flush]) = writtenBetween strokes ++ [writtenSince strokes] := by
    rw [writtenBetween, splitOn_flushed, List.dropLast_concat, writtenBetween, writtenSince, behindLast,
      ← List.map_singleton, ← List.map_append, List.dropLast_append_getLast]
  rw [linesOf, hbetween, writtenSince_flush, List.flatMap_append, List.flatMap_singleton, linesOf]
  simp [completed]

end

/-- A new writer emits the lines of what is done to it, and what is not a whole line since the last flush is pending. -/
theorem strikes_eq (label : String) (strokes : List Stroke) :
    strikes { label } strokes = (linesOf strokes, { label, pending := unfinished (writtenSince strokes) }) := by
  induction strokes using List.reverseRecOn with
  | nil => rfl
  | append_singleton strokes stroke ih =>
    rw [strikes_append, ih]
    simp only [strikes, List.append_nil]
    cases stroke with
    | write text => rw [strike, write_eq, linesOf_write, writtenSince_write, ← unfinished_append]
    | flush =>
      rw [strike, flush_eq, linesOf_flush, writtenSince_flush]
      rfl

/-- Writes that a flush ends emit the lines of their text and what is left of it, whatever the text is divided into. -/
theorem linesOf_writes (texts : List (List Char)) : linesOf (texts.map .write ++ [.flush]) =
    completed texts.flatten ++ closing (unfinished texts.flatten) := by
  have hfree : Stroke.flush ∉ texts.map Stroke.write := by simp
  have hwritten : (texts.map Stroke.write).flatMap Stroke.text = texts.flatten := by
    rw [List.flatMap_map]
    exact List.flatMap_id ..
  have hsplit := List.splitOn_eq_singleton hfree
  have hsince : writtenSince (texts.map .write) = texts.flatten := by
    rw [writtenSince, behindLast_of_splitOn _ (hsplit.trans (List.nil_append _).symm), hwritten]
  rw [linesOf_flush, linesOf, writtenBetween, hsplit, hsince]
  rfl

end LineWriter

/-! ### Line writer objects -/

namespace Guest
variable {g g' : Guest} {output : Identity} {writer : LineWriter} {listeners : Nat}

/-- An object is a line writer that so many hooks listen to, and what it stands at. -/
def StandsAt (g : Guest) (output : Identity) (writer : LineWriter) (listeners : Nat) : Prop :=
  g.Holds output ∧ ∃ made count, g.body output = .output made count ∧
    g.writers.getD output (made, count) = (writer, listeners)

theorem StandsAt.adds (h : g.StandsAt output writer listeners) (hadds : g.Adds g') :
    g'.StandsAt output writer listeners := by
  obtain ⟨hholds, made, count, hbody, hwriter⟩ := h
  refine ⟨hadds.holds hholds, made, count, ?_, ?_⟩
  · rw [body, hadds.object_eq hholds]
    exact hbody
  · obtain ⟨bodies, constants, rfl⟩ := hadds
    exact hwriter

/-- An interpreter whose objects stay as they are, while more come up and hooks are told more. -/
structure Tells (g : Guest) (events : List Event) (g' : Guest) : Prop where
  object : ∀ id, g.Holds id → g'.Holds id ∧ g'.object id = g.object id
  events : g'.events.toList = g.events.toList ++ events

namespace Tells
variable {g'' : Guest} {told later : List Event}

theorem refl (g : Guest) : g.Tells [] g := ⟨fun _ hid => ⟨hid, rfl⟩, (List.append_nil _).symm⟩

theorem of_adds (h : g.Adds g') : g.Tells [] g' where
  object _ hid := ⟨h.holds hid, h.object_eq hid⟩
  events := by
    obtain ⟨bodies, constants, rfl⟩ := h
    exact (List.append_nil _).symm

theorem trans (h : g.Tells told g') (h' : g'.Tells later g'') : g.Tells (told ++ later) g'' where
  object id hid := ⟨(h'.object id (h.object id hid).1).1,
    (h'.object id (h.object id hid).1).2.trans (h.object id hid).2⟩
  events := by rw [h'.events, h.events, List.append_assoc]

theorem body_eq (h : g.Tells told g') {id : Identity} (hid : g.Holds id) : g'.body id = g.body id := by
  rw [body, (h.object id hid).2, body]

end Tells

/-- The answer to a stroke: a write answers with the number of characters of its text. -/
def Answers (g : Guest) : LineWriter.Stroke → Option Identity → Prop
  | .write text, answer => ∃ id, answer = some id ∧ g.Holds id ∧ g.body id = .int text.length
  | .flush, answer => answer = none

theorem Answers.tells {told : List Event} {stroke : LineWriter.Stroke} {answer : Option Identity}
    (h : g.Answers stroke answer) (htells : g.Tells told g') : g'.Answers stroke answer := by
  cases stroke with
  | flush => exact h
  | write text =>
    obtain ⟨id, hid, hholds, hbody⟩ := h
    exact ⟨id, hid, (htells.object id hholds).1, (htells.body_eq hholds).trans hbody⟩

end Guest

namespace GuestM
open LineWriter
variable {g : Guest} {output : Identity} {writer : LineWriter} {listeners : Nat} {label : String}

/-- Does to a line writer object what a script can do to it. -/
def ask (output : Identity) : Stroke → GuestM (Option Identity)
  | .write text => do return some (← writeTo output (← string (String.ofList text)))
  | .flush => do
    flushLines output
    return Option.none

/-- A text object is written to a line writer object. -/
theorem writeTo_run (h : g.StandsAt output writer listeners) {value : Identity} {s : String}
    (hvalue : g.body value = .text (.ofString s)) (context : Context) :
    ∃ answer g', writeTo output value context g = .ok answer g' ∧ g'.Answers (.write s.toList) (some answer) ∧
      g'.StandsAt output (writer.write s.toList).2 listeners ∧
      g.Tells (outputs writer.label listeners (writer.write s.toList).1) g' := by
  obtain ⟨hholds, made, count, hbody, hwriter⟩ := h
  obtain ⟨records, hstrike⟩ := strike_run hwriter (.write s.toList) context
  set struck : Guest := { g with
    records
    events := g.events ++ (outputs writer.label listeners (writer.write s.toList).1).toArray
    strokes := g.strokes.push (output, .write s.toList)
    writers := g.writers.insert output ((writer.write s.toList).2, listeners) } with hstruck
  have hstands : struck.StandsAt output (writer.write s.toList).2 listeners :=
    ⟨hholds, made, count, hbody, by simp [hstruck]⟩
  have htells : g.Tells (outputs writer.label listeners (writer.write s.toList).1) struck :=
    ⟨fun id hid => ⟨hid, rfl⟩, by simp [hstruck]⟩
  obtain ⟨answer, g', hint, hadds, hanswer, -, hlength⟩ := int_run (Text.ofString s).length context struck
  refine ⟨answer, g', ?_, ⟨answer, rfl, hanswer, ?_⟩, hstands.adds hadds, ?_⟩
  · have hlines : writeLines output s.toList context g = .ok ⟨⟩ struck := by
      unfold writeLines bodyOf
      simp only [reader_bind_run, reader_get_run, reader_pure_run, hbody]
      exact hstrike
    unfold writeTo
    simp only [reader_bind_run, reader_get_run, hbody, hvalue, Text.encode_ofString, liftExcept, reader_pure_run,
      hlines]
    exact hint
  · rw [hlength, Text.length, Text.ofString, List.length_map]
  · exact List.append_nil (outputs _ _ _) ▸ htells.trans (.of_adds hadds)

/-- A flush tells what is pending and changes nothing but the writer. -/
theorem flushLines_run (h : g.StandsAt output writer listeners) (context : Context) :
    ∃ records, flushLines output context g = .ok ⟨⟩ { g with
      records
      events := g.events ++ (outputs writer.label listeners (closing writer.pending)).toArray
      strokes := g.strokes.push (output, .flush)
      writers := g.writers.insert output ({ writer with pending := [] }, listeners) } := by
  obtain ⟨hholds, made, count, hbody, hwriter⟩ := h
  obtain ⟨records, hstrike⟩ := strike_run hwriter .flush context
  refine ⟨records, ?_⟩
  rw [LineWriter.strike, flush_eq] at hstrike
  unfold flushLines bodyOf
  simp only [reader_bind_run, reader_get_run, reader_pure_run, hbody]
  exact hstrike

/-- One stroke: it is answered, and hooks are told what the writer emits. -/
theorem ask_run (h : g.StandsAt output writer listeners) (stroke : Stroke) (context : Context) :
    ∃ answer g', ask output stroke context g = .ok answer g' ∧ g'.Answers stroke answer ∧
      g'.StandsAt output (writer.strike stroke).2 listeners ∧
      g.Tells (outputs writer.label listeners (writer.strike stroke).1) g' := by
  cases stroke with
  | write text =>
    obtain ⟨value, g₁, hstring, hadds, -, -, hvalue⟩ := string_run (String.ofList text) context g
    obtain ⟨answer, g', hwrite, hanswers, hstands, htells⟩ := writeTo_run (h.adds hadds) hvalue context
    rw [String.toList_ofList] at hanswers hstands htells
    refine ⟨some answer, g', ?_, hanswers, hstands, ?_⟩
    · unfold ask
      simp only [reader_bind_run, hstring, hwrite, reader_pure_run]
    · exact List.nil_append (outputs _ _ _) ▸ (Guest.Tells.of_adds hadds).trans htells
  | flush =>
    obtain ⟨records, hflush⟩ := flushLines_run h context
    obtain ⟨hholds, made, count, hbody, -⟩ := h
    have hask (g' : Guest) (hflushed : flushLines output context g = .ok ⟨⟩ g') :
        ask output .flush context g = .ok Option.none g' := by
      unfold ask
      simp only [reader_bind_run, hflushed, reader_pure_run]
    refine ⟨_, _, hask _ hflush, rfl, ⟨hholds, made, count, hbody, ?_⟩, fun id hid => ⟨hid, rfl⟩, ?_⟩
    · simp [LineWriter.strike, flush_eq]
    · simp [LineWriter.strike, flush_eq]

/-- Strokes one after the other. -/
theorem asks_run (h : g.StandsAt output writer listeners) (strokes : List Stroke) (context : Context) :
    ∃ answers g', strokes.mapM (ask output) context g = .ok answers g' ∧
      List.Forall₂ g'.Answers strokes answers ∧ g'.StandsAt output (writer.strikes strokes).2 listeners ∧
      g.Tells (outputs writer.label listeners (writer.strikes strokes).1) g' := by
  induction strokes generalizing g writer with
  | nil => exact ⟨[], g, rfl, .nil, h, .refl g⟩
  | cons stroke strokes ih =>
    obtain ⟨answer, g₁, hask, hanswers, hstands, htells⟩ := ask_run h stroke context
    obtain ⟨answers, g', hasks, hall, hstands', htells'⟩ := ih hstands
    refine ⟨answer :: answers, g', ?_, .cons (hanswers.tells htells') hall, hstands', ?_⟩
    · rw [List.mapM_cons, reader_bind_run, hask]
      simp only [reader_bind_run, hasks, reader_pure_run]
    · rw [strikes, outputs_append]
      rw [label_strike] at htells'
      exact htells.trans htells'

/-- A line writer that is new tells hooks the lines of the text that is written up to a flush, and of nothing but the
whole of that text. At any time it holds back what follows the last line feed since the last flush, which a flush tells
without any other effect, and each write has answered how many characters it wrote. -/
theorem asks_tell_lines (hnew : g.StandsAt output { label } listeners) (context : Context) :
    (∀ texts : List (List Char), ∃ answers g',
      (texts.map Stroke.write ++ [Stroke.flush]).mapM (ask output) context g = .ok answers g' ∧
      (completed texts.flatten).length = texts.flatten.count '\n' ∧
      g.Tells (outputs label listeners (completed texts.flatten ++ closing (unfinished texts.flatten))) g') ∧
    ∀ strokes : List Stroke, ∃ answers g' pending, strokes.mapM (ask output) context g = .ok answers g' ∧
      List.Forall₂ g'.Answers strokes answers ∧ g.Tells (outputs label listeners (linesOf strokes)) g' ∧
      g'.StandsAt output { label, pending } listeners ∧
      pending = unfinished (writtenSince strokes) ∧ '\n' ∉ pending ∧
      ∃ records, flushLines output context g' = .ok ⟨⟩ { g' with
        records
        events := g'.events ++ (outputs label listeners (closing pending)).toArray
        strokes := g'.strokes.push (output, .flush)
        writers := g'.writers.insert output ({ label }, listeners) } := by
  constructor
  · intro texts
    obtain ⟨answers, g', hasks, -, -, htells⟩ := asks_run hnew (texts.map .write ++ [.flush]) context
    rw [strikes_eq, linesOf_writes] at htells
    exact ⟨answers, g', hasks, length_completed _, htells⟩
  · intro strokes
    obtain ⟨answers, g', hasks, hanswers, hstands, htells⟩ := asks_run hnew strokes context
    rw [strikes_eq] at hstands htells
    exact ⟨answers, g', _, hasks, hanswers, htells, hstands, rfl, not_mem_behindLast '\n' _,
      flushLines_run hstands context⟩

/-- An interpreter with a line writer that one hook listens to. -/
private def writing : Guest := Guest.minimal.adding { body := .output { label := "build" } 1 }

theorem asks_tell_lines_divided : ∃ answers g',
    [Stroke.write ['a', '\r'], .write [], .write ['\n', 'b', '\r'], .flush].mapM (ask Guest.minimal.next)
      writing.topContext writing = .ok answers g' ∧
    writing.Tells (outputs "build" 1 ["a", "b\r"]) g' := by
  have hnew : writing.StandsAt Guest.minimal.next { label := "build" } 1 :=
    ⟨by decide, { label := "build" }, 1, rfl, Std.HashMap.getD_of_isEmpty rfl⟩
  obtain ⟨answers, g', hasks, -, htells⟩ :=
    (asks_tell_lines hnew writing.topContext).1 [['a', '\r'], [], ['\n', 'b', '\r']]
  exact ⟨answers, g', hasks, htells⟩

end GuestM
end ScriptHost
