import ScriptHost.Proofs.Evaluator.PathAtStart

/-! Session statements and the search path: a start runs them on the path that it finds, which is whatever the calls
before it left, and not on the path of the evaluator that is started. -/
namespace ScriptHost
open Stepping

namespace Guest
variable {g : Guest} {path path' : List String}

/-- An interpreter has one search path. -/
theorem HasPath.unique (h : g.HasPath path) (h' : g.HasPath path') : path = path' := by
  obtain ⟨id, hfound, hlist⟩ := h.found
  obtain ⟨id', hfound', hlist'⟩ := h'.found
  obtain rfl : id = id' := Option.some.inj (hfound.symm.trans hfound')
  obtain ⟨items, hbody, -, htexts⟩ := hlist.items
  obtain ⟨items', hbody', -, htexts'⟩ := hlist'.items
  obtain rfl : items = items' := Body.list.inj (hbody.symm.trans hbody')
  refine List.map_injective_iff.mpr (fun a b hab => ?_) (htexts.symm.trans htexts')
  exact Text.ofString_injective (Option.some.inj hab)

end Guest

namespace GuestM
open Guest

/-- Runs the statements of a session in its namespace. -/
def sessionStatements (namespaceDict : Identity) (statements : List Script) : GuestM Unit :=
  statements.forM fun statement => do
    record .debug .handle ("[Handles] Session import: " ++ statement.written)
    runScript namespaceDict statement

/-- A namespace for a session is one without statements in which they are then run. -/
theorem makeNamespace_run (statements : List Script) (context : Context) (g : Guest) :
    makeNamespace statements context g =
      match makeNamespace [] context g with
      | .ok namespaceDict g' =>
        match sessionStatements namespaceDict statements context g' with
        | .ok _ g'' => .ok namespaceDict g''
        | .error f g'' => .error f g''
      | .error f g' => .error f g' := by
  have hsplit : makeNamespace statements = makeNamespace [] >>= fun namespaceDict => do
      sessionStatements namespaceDict statements
      return namespaceDict := by
    simp only [makeNamespace, bind_assoc, pure_bind]
    rfl
  rw [hsplit, reader_bind_run]
  cases makeNamespace [] context g with
  | error => rfl
  | ok namespaceDict g' =>
    dsimp only
    rw [reader_bind_run]
    cases sessionStatements namespaceDict statements context g' <;> rfl

end GuestM

namespace World
variable {w₀ w inside : World} {path : List String} {starts : Nat → Option Environment} {i : Nat}

/-- The worlds in which calls of a host find out whether an evaluator has been started, and start it otherwise. -/
inductive Attempts (w : World) (i : Nat) : World → Prop
  | evaluation (names : List String) (values : List Value) : Attempts w i (w.opened i names values).2
  | session : Attempts w i { w with held := true }

theorem topContext_noted (g : Guest) (r : Record) : (g.noted r).topContext = g.topContext := rfl

private theorem topContext_unreported (g : Guest) : g.unreported.topContext = g.topContext := rfl

private theorem topContext_foldl_noted (g : Guest) (records : List Record) :
    (records.foldl Guest.noted g).topContext = g.topContext := by
  induction records generalizing g with
  | nil => rfl
  | cons r records ih => exact ih (g.noted r)

/-- Nothing but records comes up before. -/
theorem Attempts.noted (h : w.Attempts i inside) :
    ∃ g, w.guest.Proceeds (fun _ => False) g ∧ g.topContext = w.guest.topContext ∧
      inside = { w with guest := g, held := true } := by
  cases h with
  | evaluation names values => exact ⟨_, proceeds_foldl_noted _ _, topContext_foldl_noted _ _, rfl⟩
  | session => exact ⟨w.guest, .refl _, rfl, rfl⟩

/-- Whatever evaluators have been made and started, and whatever their scripts have done, the session statements of an
evaluator that is started run from an interpreter that is the one before the call but for a new namespace. The search
path that they find is the one that was there; it is the evaluator's own path, with which its scripts begin, only if
that is what was there. Whether the start succeeds is whether they succeed from there. -/
theorem session_begins_on_found_path (hfresh : w₀.IsFresh path) (hreaches : w₀.Reaches starts w)
    (hattempt : w.Attempts i inside) (hnone : (w.evaluator i).runtime = none) (hsystem : w.guest.HasSystem) :
    let own := SearchPath.forConfig (w.evaluator i).config w.environment path
    ∃ namespaceDict g, w.guest.Proceeds (fun _ => False) g ∧
      (∀ found, w.guest.HasPath found → g.HasPath found ∧ (g.HasPath own ↔ found = own)) ∧
      WorldM.ensureStarted i inside =
        let journal := inside.guest.noted WorldM.startRecord
        match GuestM.sessionStatements namespaceDict (w.evaluator i).config.sessionImports w.guest.topContext g with
        | .ok _ g' =>
          (.ok { namespaceDict, searchPath := own }, (WorldM.keepRuntime i { namespaceDict, searchPath := own }
            { inside with guest := journal.reporting g', interpreterPath := some path }).2)
        | .error f g' => (.error f, { inside with guest := journal.reporting g', interpreterPath := some path }) := by
  intro own
  obtain ⟨g₀, hproceeds₀, hcontext, rfl⟩ := hattempt.noted
  have hproceeds₁ := (hproceeds₀.trans (Guest.proceeds_noted g₀ WorldM.startRecord)).trans
    (Guest.proceeds_unreported (g₀.noted WorldM.startRecord))
  obtain ⟨namespaceDict, g, _, _, hmade, hproceeds₂, -⟩ := GuestM.makeNamespace_nil
    (hsystem.proceeds hproceeds₁ fun _ hid => hid.elim) w.guest.topContext
  have hproceeds := hproceeds₁.trans hproceeds₂
  have hknows : World.Knows { w with guest := g₀, held := true } path :=
    (Follows.of_reaches hfresh hreaches).knows.noted hproceeds₀
  have hstart := WorldM.ensureStarted_unstarted (i := i) hknows hnone
  refine ⟨namespaceDict, g, hproceeds, fun found hfound => ?_, hstart.trans ?_⟩
  · have hkept := hfound.kept hproceeds
    exact ⟨hkept, hkept.unique, fun h => h ▸ hkept⟩
  · have hrun : GuestM.atTop (GuestM.makeNamespace (w.evaluator i).config.sessionImports)
        (g₀.noted WorldM.startRecord).unreported =
          match GuestM.sessionStatements namespaceDict (w.evaluator i).config.sessionImports w.guest.topContext g with
          | .ok _ g' => .ok namespaceDict g'
          | .error f g' => .error f g' := by
      rw [GuestM.atTop_eq, topContext_unreported, topContext_noted, hcontext, GuestM.makeNamespace_run, hmade]
    simp only [show World.evaluator { w with guest := g₀, held := true } i = w.evaluator i from rfl, hrun]
    cases GuestM.sessionStatements namespaceDict (w.evaluator i).config.sessionImports w.guest.topContext g <;> rfl

/-- An evaluator with a library path is started where no evaluator ran before: its session statement, an import, runs
on a path without the library path. -/
theorem session_begins_without_library_path :
    let config : Config := { libraryPaths := ["/site"], sessionImports := [.lines [.importModule "m"]] }
    let w : World := { guest := .pathed, evaluators := #[{ config }] }
    SearchPath.forConfig config w.environment ["/lib"] = ["/site", "/lib"] ∧
      ∃ namespaceDict g, w.guest.Proceeds (fun _ => False) g ∧ g.HasPath ["/lib"] ∧ ¬ g.HasPath ["/site", "/lib"] ∧
        ((∃ runtime, (WorldM.ensureStarted 0 { w with held := true }).1 = .ok runtime) ↔
          ∃ g', GuestM.sessionStatements namespaceDict config.sessionImports w.guest.topContext g = .ok ⟨⟩ g') := by
  intro config w
  have hfresh : w.IsFresh ["/lib"] := ⟨rfl, rfl, Guest.hasPath_pathed, fun i => by cases i <;> rfl⟩
  obtain ⟨namespaceDict, g, hproceeds, hpath, hstart⟩ :=
    session_begins_on_found_path (i := 0) hfresh .start .session rfl Guest.hasPath_pathed.toHasSystem
  obtain ⟨hfound, hown⟩ := hpath _ Guest.hasPath_pathed
  refine ⟨rfl, namespaceDict, g, hproceeds, hfound, fun h => absurd (hown.mp h) (by decide), ?_⟩
  rw [hstart, show (w.evaluator 0).config = config from rfl]
  cases GuestM.sessionStatements namespaceDict config.sessionImports w.guest.topContext g with
  | ok _ g' => exact ⟨fun _ => ⟨g', rfl⟩, fun _ => ⟨_, rfl⟩⟩
  | error f g' => exact ⟨fun ⟨_, h⟩ => (nomatch h), fun ⟨_, h⟩ => (nomatch h)⟩

end World
end ScriptHost
