import ScriptHost.Proofs.Evaluator.Confinement
import ScriptHost.Proofs.Evaluator.NamespaceAccess

/-! The names of a session: where nothing that a session's names are bound to leads to the session's namespace itself, no
sequence of evaluations binds, changes or deletes one of them; a script that has a name for the namespace does. -/
namespace ScriptHost
open Stepping

variable {P : Identity → Prop} {n : Identity} {i : Nat} {w w' begun : World} {runtime : Runtime} {names : List String}
  {values : List Value}

/-- What a start does to the evaluators is that one of them has a runtime afterwards. -/
theorem WorldM.ensureStarted_ok (hheld : w.held = true) (h : ensureStarted i w = (.ok runtime, w')) :
    w'.held = true ∧ w'.evaluators = w.evaluators.modify i fun e => { e with runtime := some runtime } := by
  cases hruntime : (w.evaluator i).runtime with
  | some started =>
    rw [ensureStarted_run hruntime] at h
    cases h
    refine ⟨hheld, Array.ext_getElem? fun j => ?_⟩
    rw [Array.getElem?_modify]
    split
    · next hj =>
      subst hj
      rw [World.evaluator, Array.getD_eq_getD_getElem?] at hruntime
      cases he : w.evaluators[i]? with
      | none => rfl
      | some e =>
        rw [he] at hruntime
        rw [Option.map_some, ← show e.runtime = some runtime from hruntime]
    · rfl
  | none =>
    rcases ensureStarted_outcome hheld hruntime with
      ⟨f, _, hrun, -⟩ | ⟨made, _, _, hrun, -, -, hstill, hkept⟩
    all_goals
      rw [hrun] at h
      cases h
    exact ⟨hstill, hkept⟩

namespace World

/-- The world after evaluations that an evaluator makes one after the other. -/
def after (w : World) (i : Nat) (calls : List (Script × List String × List Value)) : World :=
  calls.foldl (fun w (code, names, values) => (WorldM.evaluate i code names values w).2) w

/-- An evaluator is started, and neither its converters nor what its session's names are bound to lead out of a set. -/
structure Confines (w : World) (i : Nat) (n : Identity) (P : Identity → Prop) : Prop where
  started : ∃ runtime, (w.evaluator i).runtime = some runtime ∧ runtime.namespaceDict = n
  fair : (w.evaluator i).converters.Fair P
  closed : Within P w.guest
  kept : Within P (w.guest.entries n)

namespace Confines

/-- What crosses leaves an evaluator as it is but for its counts. -/
theorem crosses (h : w.Confines i n P) (hcrosses : w.CrossesWithin P n w') : w'.Confines i n P := by
  have hsame : (w'.evaluator i).uncounted = (w.evaluator i).uncounted := by
    have hget := congrArg (·[i]?) hcrosses.evaluators
    simp only [Array.getElem?_map] at hget
    unfold evaluator
    rw [Array.getD_eq_getD_getElem?, Array.getD_eq_getD_getElem?]
    cases he : w'.evaluators[i]? <;> cases he₀ : w.evaluators[i]? <;> simp_all
  obtain ⟨runtime, hruntime, hn⟩ := h.started
  have hstarted := congrArg Evaluator.runtime hsame
  refine ⟨?_, ?_, hcrosses.guest.closed, hcrosses.guest.kept⟩
  · simp only [Evaluator.uncounted, hruntime, Option.map_some, Option.map_eq_some_iff] at hstarted
    obtain ⟨runtime', hruntime', hsame'⟩ := hstarted
    exact ⟨runtime', hruntime', (congrArg Runtime.namespaceDict hsame').trans hn⟩
  · have hconverters := congrArg Evaluator.converters hsame
    simp only [Evaluator.uncounted] at hconverters
    rw [hconverters]
    exact h.fair

/-- One evaluation stays within the set. -/
theorem evaluate_names (h : w.Confines i n P) (hoff : ¬ P n) (code : Script) (names : List String)
    (values : List Value) : (WorldM.evaluate i code names values w).2.Confines i n P ∧
      (WorldM.evaluate i code names values w).2.guest.names n = w.guest.names n := by
  obtain ⟨runtime, hruntime, rfl⟩ := h.started
  have hcrosses := WorldM.evaluate_crosses hruntime h.fair h.closed h.kept code names values
  exact ⟨h.crosses hcrosses, hcrosses.guest.names hoff⟩

/-- Whatever evaluations are made, they stay within the set. -/
theorem after_names (h : w.Confines i n P) (hoff : ¬ P n) (calls : List (Script × List String × List Value)) :
    (w.after i calls).guest.names n = w.guest.names n := by
  induction calls generalizing w with
  | nil => rfl
  | cons call calls ih =>
    obtain ⟨code, names, values⟩ := call
    obtain ⟨hstill, hsame⟩ := h.evaluate_names hoff code names values
    exact (ih hstill).trans hsame

end Confines

/-- What a call leaves that starts its evaluator, or finds it started, is what its rest leaves where the start has
ended. -/
theorem evaluate_announced (hopen : w.held = false) (hstart : w.announced i names values = (.ok runtime, begun))
    (code : Script) : ∃ w₁ bindings r, w₁.held = true ∧
      w₁.evaluators = w.evaluators.modify i (fun e => { e with runtime := some runtime }) ∧
      begun = { w₁ with guest := w₁.guest.noted r } ∧
      (WorldM.evaluate i code names values w).2 = { (WorldM.evaluateIn (WorldM.issue WorldM.requestDepth) i runtime
        (w.evaluator i) code bindings w₁).2 with held := false } := by
  rcases hbindings : Bindings.ofArguments (w.evaluator i).config names values with ⟨bindings, records⟩
  unfold announced opened at hstart
  simp only [hbindings] at hstart
  rcases hran : WorldM.ensureStarted i { w with guest := records.foldl Guest.noted w.guest, held := true } with
    ⟨answer, w₁⟩
  rw [hran] at hstart
  cases hstart
  obtain ⟨hheld, hevaluators⟩ := WorldM.ensureStarted_ok rfl hran
  refine ⟨w₁, bindings, _, hheld, hevaluators, rfl, ?_⟩
  rw [WorldM.evaluate_inside hopen hbindings]
  dsimp only
  rw [WorldM.bind_run, hran]
  rfl

/-- Where a call starts its evaluator, or finds it started, the rest of the call stays within what the start has left. -/
theorem evaluate_confines (hi : i < w.evaluators.size) (hopen : w.held = false)
    (hstart : w.announced i names values = (.ok runtime, begun)) (hfair : (w.evaluator i).converters.Fair P)
    (hclosed : begun.guest.IsClosed P) (hkept : Within P (begun.guest.entries runtime.namespaceDict))
    (hoff : ¬ P runtime.namespaceDict) (code : Script) :
    (WorldM.evaluate i code names values w).2.Confines i runtime.namespaceDict P ∧
      (WorldM.evaluate i code names values w).2.guest.names runtime.namespaceDict =
        begun.guest.names runtime.namespaceDict := by
  obtain ⟨w₁, bindings, r, hheld, hevaluators, rfl, hrun⟩ := evaluate_announced hopen hstart code
  have hnoted : (w₁.guest.noted r).CrossesWithin P runtime.namespaceDict w₁.guest :=
    Guest.crosses_journal hclosed hkept rfl
  have hstarted : w₁.evaluator i = { w.evaluator i with runtime := some runtime } := by
    rw [evaluator, evaluator, hevaluators, Array.getD_eq_getD_getElem?, Array.getD_eq_getD_getElem?,
      Array.getElem?_modify, if_pos rfl, Array.getElem?_eq_getElem hi]
    rfl
  have hconfines : w₁.Confines i runtime.namespaceDict P :=
    ⟨⟨runtime, by rw [hstarted], rfl⟩, by rwa [hstarted], hnoted.closed, hnoted.kept⟩
  obtain ⟨hcrosses, -⟩ := WorldM.spares_evaluateIn hfair WorldM.requestDepth i runtime code bindings w₁ hheld
    hnoted.closed hnoted.kept
  rw [hrun]
  obtain ⟨hruns, hsame, hcloses, hkeeps⟩ := hconfines.crosses hcrosses
  exact ⟨⟨hruns, hsame, hcloses, hkeeps⟩, hcrosses.guest.names hoff⟩

/-- A started evaluator with the standard converters in the smallest interpreter, whose session has no names. -/
private def unnamed : World where
  guest := .minimal
  evaluators := #[{ config := { resetSearchPath := false }, converters := ConverterTable.standard.1
                    runtime := some { namespaceDict := Guest.minimalNamespace, searchPath := [] } }]

/-- A script whose scope has a name for the namespace of the session binds a name of the session. -/
theorem evaluate_binds_session_name {script : Script} {line : Nat} {source name : String} {stage : Stage}
    {space : Text → Option Identity}
    (hread : Reading.handedOver script = .ok [(line, .setItem source (.text (.ofString name)) (.name source))])
    (hsource : source.splitOn "." = [source]) (hne : source ≠ "__builtins__") (hopen : w.held = false)
    (hready : w.ready i names values = (.ok (runtime, stage), begun)) (houtput : stage.output = none)
    (hreads : ∀ hook ∈ (w.evaluator i).hooks, hook.read = [])
    (hheld : begun.guest.Holds stage.scope.globals) (hdict : begun.guest.isDict stage.scope.globals = true)
    (hbound : begun.guest.lookup stage.scope.globals (.ofString source) = some n) (happart : n ≠ stage.scope.globals)
    (hunbound : begun.guest.lookup stage.scope.globals (.ofString (w.evaluator i).config.outputBinding) = none)
    (hresult : (w.evaluator i).config.outputBinding ≠ "__builtins__") (hspace : begun.guest.IsNamespace n space) :
    (WorldM.evaluate i script names values w).2.guest.lookup n (.ofString name) = some n := by
  obtain ⟨g, hrun, hspace', hkept⟩ := GuestM.runScript_setItem (g := (begun.crossing i runtime).guest)
    hread hsource hne hheld hdict hbound happart (hspace.kept (Guest.proceeds_unreported begun.guest))
    (begun.crossing i runtime).guest.topContext
  have hexecute : Scope.execute stage.scope script (begun.crossing i runtime) =
      .ok (.ok (), { stage.scope with state := .executing }) { begun.crossing i runtime with guest := g } :=
    WorldM.execute_ok_iff.mpr ⟨by rw [TransferM.guest_run, GuestM.atTop_eq, hrun], rfl⟩
  have hget : Scope.get (w.evaluator i).converters { stage.scope with state := .executing }
      (w.evaluator i).config.outputBinding { begun.crossing i runtime with guest := g } =
        .ok none { begun.crossing i runtime with guest := g } :=
    Scope.get_of_unbound ((hkept _ hresult).trans hunbound)
  obtain ⟨w', hconclude, hcourse⟩ := WorldM.conclude_of_left (Bindings.ofArguments (w.evaluator i).config names values).1
    (WorldM.ready_keeps hready).2.1 hexecute hget
  have hlater := (hcourse fun hook hhook name hname => by
    rw [hreads hook hhook] at hname
    cases hname).guest
  rw [WorldM.evaluate_of_ready script hopen hready, hconclude, houtput]
  exact ((hspace'.kept hlater).lookup _).trans (if_pos rfl)

end World

/-- The smallest interpreter, where the function that gives the namespace of the code that calls it stands under its
name. -/
def Guest.reflective : Guest := { Guest.minimal with
  heap := #[{ body := .dict [⟨[.text (.ofString "stdout")], ⟨5⟩, ⟨6⟩⟩] }, { body := .module ⟨0⟩ },
    { body := .dict [⟨[.text (.ofString "globals")], ⟨8⟩, ⟨7⟩⟩] }, { body := .module ⟨2⟩ }, { body := .dict [] },
    { body := .text (.ofString "stdout") }, { body := .stream }, { body := .builtin "globals" },
    { body := .text (.ofString "globals") }] }

theorem Guest.hasSystem_reflective : reflective.HasSystem where
  importable := ⟨List.not_mem_nil, List.not_mem_nil⟩
  builtins := ⟨⟨3⟩, rfl⟩
  module := ⟨⟨1⟩, rfl, by decide, rfl, rfl⟩
  system := ⟨by decide, rfl⟩

theorem Guest.namesGlobals_reflective : reflective.NamesGlobals ⟨3⟩ ⟨2⟩ ⟨7⟩ where
  filed := ⟨by decide, rfl⟩
  space := {
    held := by decide
    dict := rfl
    own := rfl
    keys := fun entry hentry => by
      obtain rfl := List.mem_singleton.mp hentry
      exact ⟨_, rfl, rfl⟩
    lookup := fun _ => rfl }
  found := by decide +kernel
  function := ⟨by decide, rfl, rfl⟩

namespace World

/-- An evaluator that is not started, whose session has a name for its namespace. -/
def reflecting : World where
  guest := .reflective
  interpreterPath := some []
  evaluators := #[{ config := { resetSearchPath := false, redirectOutput := false
                                sessionImports := [.lines [.assign "x" (.call (.name "globals") [])]] } }]

private theorem announced_reflecting : ∃ runtime begun space, reflecting.announced 0 [] [] = (.ok runtime, begun) ∧
    begun.guest.HasSystem ∧ begun.guest.IsNamespace runtime.namespaceDict space ∧
    space (.ofString "x") = some runtime.namespaceDict ∧ space (.ofString "y") = none ∧ space (.ofString "OUT") = none := by
  obtain ⟨w, hw⟩ : ∃ w, (reflecting.opened 0 [] []).2 = w := ⟨_, rfl⟩
  have hknows : w.Knows [] := hw ▸ .inl rfl
  have hnone : (w.evaluator 0).runtime = none := hw ▸ rfl
  have hsince : Guest.reflective.Proceeds (fun _ => False) (w.guest.noted WorldM.startRecord).unreported := by
    rw [← hw]
    exact Guest.proceeds_of_same rfl rfl rfl rfl
  have htarget : splitLastDot "x" = ("", "x") := by
    rw [splitLastDot, Scope.splitOn_source]
    decide
  obtain ⟨n, g, names, hmade, hproceeds, -, hspace, hother⟩ := GuestM.makeNamespace_globals htarget
    (show (w.guest.noted WorldM.startRecord).unreported.topContext.call = GuestM.callTo (994 + 1) from rfl)
    (Guest.hasSystem_reflective.proceeds hsince fun _ h => h.elim) (hsince.standardModules ▸ rfl)
    (Guest.namesGlobals_reflective.kept hsince)
  have hstart := WorldM.ensureStarted_unstarted (i := 0) hknows hnone
  rw [show (w.evaluator 0).config.sessionImports = [.lines [.assign "x" (.call (.name "globals") [])]] from hw ▸ rfl,
    GuestM.atTop_eq, hmade] at hstart
  obtain ⟨w', hlater, hstarted⟩ : ∃ w' : World, g.Proceeds (fun _ => False) w'.guest ∧
      ∃ path, WorldM.ensureStarted 0 w = (.ok { namespaceDict := n, searchPath := path }, w') :=
    ⟨_, Guest.proceeds_reporting _ g, _, hstart⟩
  obtain ⟨path, hstarted⟩ := hstarted
  subst hw
  unfold announced
  dsimp only
  rw [hstarted]
  have hnoted (r : Record) : g.Proceeds (fun _ => False) (w'.guest.noted r) := hlater.trans (Guest.proceeds_noted _ r)
  refine ⟨_, _, _, rfl, ?_, hspace.kept (hnoted _), if_pos rfl, (if_neg ?_).trans (hother "y" (by decide)),
    (if_neg ?_).trans (hother "OUT" (by decide))⟩
  · exact (Guest.hasSystem_reflective.proceeds hsince fun _ h => h.elim).proceeds (hproceeds.trans (hnoted _)) fun _ h => h.elim
  · exact fun he => absurd (Text.ofString_injective he) (by decide)
  · exact fun he => absurd (Text.ofString_injective he) (by decide)

end World
end ScriptHost
