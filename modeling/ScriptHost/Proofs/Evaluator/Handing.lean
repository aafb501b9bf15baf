import ScriptHost.Proofs.Evaluator.Course
import ScriptHost.Proofs.Evaluator.Staging

/-! The script that binds one name to what another one holds. On a stage where the other name holds an object, it
runs to its end, the object stands under the one, and every further name holds what it held. -/
namespace ScriptHost
open Stepping Guest

/-! ### The text of the script -/

namespace Reading

private theorem splitOn_script : "OUT = x".splitOn "\n" = ["OUT = x"] := splitOn_of_not_mem (c := '\n') (by decide)

theorem handedOver_script : handedOver (.source "OUT = x") = .ok [(1, .assign "OUT" (.name "x"))] := by
  have hnul : firstNul? "OUT = x" = none := by decide
  have htext : String.ofList (normalized "OUT = x".toList) = "OUT = x" := by decide
  have hline : readLine "OUT = x".toList = .ok (some (.assign "OUT" (.name "x"))) := by rfl
  simp only [handedOver, hnul, statements, htext, splitOn_script, List.map_cons, List.map_nil, readLines, hline]
  rfl

end Reading

namespace GuestM
variable {g : Guest} {globals obj : Identity} {target source : String} {script : Script} {line : Nat}

/-! ### The statement -/

theorem place_run (context : Context) (g : Guest) : place context g = .ok context.place g := rfl

private theorem builtinsOf_run (globals : Identity) (context : Context) (g : Guest) :
    ∃ id, builtinsOf globals context g = .ok id g := by
  unfold builtinsOf
  simp only [reader_bind_run, reader_get_run]
  cases g.lookup globals (.ofString "__builtins__") with
  | none => exact ⟨_, rfl⟩
  | some id =>
    dsimp only
    cases g.body id <;> exact ⟨_, rfl⟩

theorem evaluate_name (hwhole : source.splitOn "." = [source]) {context : Context}
    (hbound : g.lookup context.place.globals (.ofString source) = some obj) :
    evaluate (.name source) context g = .ok obj g := by
  simp only [evaluate, lookupDotted, hwhole, lookupName, reader_bind_run, reader_get_run, place_run, hbound]
  rfl

/-- A name without a dot is bound in the namespace. -/
private theorem execute_assign (htarget : splitLastDot target = ("", target)) (hsource : source.splitOn "." = [source])
    (context : Context) (hheld : g.Holds context.place.globals)
    (hbound : g.lookup context.place.globals (.ofString source) = some obj) :
    ∃ g', execute (.assign target (.name source)) context g = .ok ⟨⟩ g' ∧
      g.Binds context.place.globals [target] g' ∧
      g'.lookup context.place.globals (.ofString target) = some obj := by
  obtain ⟨g', hrun, hproceeds, hlookup⟩ := setName_proceeds hheld (.ofString target) obj context
  refine ⟨g', ?_, ⟨hproceeds.mono fun id hid => .inl hid, fun name hname => ?_⟩, by rw [hlookup, if_pos rfl]⟩
  · simp only [execute, assign, htarget, reader_bind_run, evaluate_name hsource hbound, place_run, hrun]
  · rw [hlookup, if_neg fun he => hname (by simp [Text.ofString_injective he])]

/-! ### The script -/

/-- A file of one statement, which does not describe it, is that statement at its place. -/
private theorem executeAll_single {statement : Statement} {builtins : Identity} {context : Context} (file : String)
    (line : Nat) (hdoc : documentation? [(line, statement)] = Option.none)
    (hbuiltins : builtinsOf globals context { g with scripts := g.scripts + 1 } =
      .ok builtins { g with scripts := g.scripts + 1 }) :
    executeAll globals file [(line, statement)] context g =
      inFrame { file, line } (atPlace { globals, builtins, file, line, script := g.scripts + 1 } (execute statement))
        context { g with scripts := g.scripts + 1 } := by
  unfold executeAll
  simp only [reader_bind_run, reader_get_run, reader_modify_run, hbuiltins, hdoc, List.forIn_cons, List.forIn_nil,
    reader_pure_run]
  generalize inFrame _ _ context _ = ran
  cases ran <;> rfl

/-- A script of one statement, which does not describe it, is that statement at its place, with the built-in names of
the module under `__builtins__`. -/
theorem runScript_single {statement : Statement} (hread : Reading.handedOver script = .ok [(line, statement)])
    (hdoc : documentation? [(line, statement)] = Option.none) (hheld : g.Holds globals) (context : Context) :
    ∃ builtins g', runScript globals script context g = inFrame { file := "<string>", line } (atPlace
        { globals, builtins, file := "<string>", line, script := g'.scripts } (execute statement)) context g' ∧
      g.Binds globals ["__builtins__"] g' ∧ g.Proceeds (· = globals) g' ∧
      ∀ module attributes, g.lookup globals (.ofString "__builtins__") = some module →
        g.body module = .module attributes → builtins = attributes ∧ g.Proceeds (fun _ => False) g' := by
  have hlift (g : Guest) : liftExcept (Reading.handedOver script) context g = .ok [(line, statement)] g := by
    rw [hread]
    rfl
  have hcounted (g : Guest) : g.Proceeds (fun _ => False) { g with scripts := g.scripts + 1 } :=
    proceeds_of_same rfl rfl rfl rfl
  unfold runScript
  simp only [reader_bind_run, reader_get_run]
  split
  · next hnone =>
    obtain ⟨g₁, hrun₁, hproceeds₁, hlookup₁⟩ :=
      setName_proceeds hheld (.ofString "__builtins__") g.builtins context
    obtain ⟨builtins, hbuiltins⟩ := builtinsOf_run globals context { g₁ with scripts := g₁.scripts + 1 }
    refine ⟨builtins, _, by simp only [reader_bind_run, hrun₁, hlift, executeAll_single "<string>" line hdoc hbuiltins],
      ⟨(hproceeds₁.mono fun id hid => .inl hid).trans (hcounted g₁).relax, fun name hname => ?_⟩,
      hproceeds₁.trans (hcounted g₁).relax, fun module _ h => ?_⟩
    · have hne : Text.ofString "__builtins__" ≠ Text.ofString name :=
        fun he => hname (by simp [Text.ofString_injective he])
      exact (hlookup₁ (.ofString name)).trans (if_neg hne)
    · rw [h] at hnone
      cases hnone
  · obtain ⟨builtins, hbuiltins⟩ := builtinsOf_run globals context { g with scripts := g.scripts + 1 }
    refine ⟨builtins, _, by simp only [reader_bind_run, hlift, executeAll_single "<string>" line hdoc hbuiltins],
      .mono (.of_nothing (hcounted g) hheld) (List.nil_subset _), (hcounted g).relax,
      fun module attributes h hbody => ⟨?_, hcounted g⟩⟩
    unfold builtinsOf at hbuiltins
    simp only [reader_bind_run, reader_get_run,
      show Guest.lookup { g with scripts := g.scripts + 1 } globals (.ofString "__builtins__") = some module from h,
      show Guest.body { g with scripts := g.scripts + 1 } module = .module attributes from hbody] at hbuiltins
    cases hbuiltins
    rfl

/-- A script that binds a name to what another one holds runs to its end. -/
theorem runScript_assign (hread : Reading.handedOver script = .ok [(line, .assign target (.name source))])
    (htarget : splitLastDot target = ("", target)) (hsource : source.splitOn "." = [source])
    (hne : source ≠ "__builtins__") (hheld : g.Holds globals)
    (hbound : g.lookup globals (.ofString source) = some obj) (context : Context) :
    ∃ g', runScript globals script context g = .ok ⟨⟩ g' ∧ g.Binds globals ["__builtins__", target] g' ∧
      g'.lookup globals (.ofString target) = some obj := by
  obtain ⟨builtins, g₁, hrun, hbinds, -, -⟩ := runScript_single hread rfl hheld context
  obtain ⟨g', hassigned, hbinds', hlookup⟩ := execute_assign htarget hsource
    { context with place := { globals, builtins, file := "<string>", line, script := g₁.scripts } }
    (hbinds.proceeds.holds hheld) ((hbinds.kept source (by simpa using hne)).trans hbound)
  refine ⟨g', ?_, hbinds.trans hbinds', hlookup⟩
  rw [hrun]
  simp only [inFrame, reader_tryCatch_run, atPlace, hassigned]

end GuestM

/-! ### The call -/

/-- An evaluator that is started, takes its label from another name than `x`, and can stage a script with a value
bound to `x`. -/
structure World.Offers (w : World) (i : Nat) (runtime : Runtime) (v : Value) (absent : List String) : Prop where
  started : (w.evaluator i).runtime = some runtime
  label : (w.evaluator i).config.labelBinding ≠ "x"
  stage : w.guest.CanStage runtime (w.evaluator i) "x" v absent

namespace Scope
variable {t : Transfer} {scope : Scope} {obj : Identity}

private theorem splitOn_target : "OUT".splitOn "." = ["OUT"] := splitOn_of_not_mem (c := '.') (by decide)

theorem splitOn_source : "x".splitOn "." = ["x"] := splitOn_of_not_mem (c := '.') (by decide)

/-- The script that binds `OUT` to what `x` holds runs to its end in a scope that has `x`. -/
theorem execute_script (hheld : t.guest.Holds scope.globals)
    (hbound : t.guest.lookup scope.globals (.ofString "x") = some obj) :
    ∃ t', execute scope (.source "OUT = x") t = .ok (.ok (), { scope with state := .executing }) t' ∧
      t.guest.Binds scope.globals ["__builtins__", "OUT"] t'.guest ∧
      t'.guest.lookup scope.globals (.ofString "OUT") = some obj := by
  have htarget : splitLastDot "OUT" = ("", "OUT") := by
    rw [splitLastDot, splitOn_target]
    decide
  obtain ⟨g', hrun, hbinds, hlookup⟩ := GuestM.runScript_assign Reading.handedOver_script htarget splitOn_source
    (by decide) hheld hbound t.guest.topContext
  have hguest : TransferM.guest (GuestM.runScript scope.globals (.source "OUT = x")) t =
      .ok ⟨⟩ { t with guest := g' } := by rw [TransferM.guest_run, GuestM.atTop_eq, hrun]
  refine ⟨{ t with guest := g' }, ?_, hbinds, hlookup⟩
  unfold execute
  rw [bind_run, attempt_run, hguest]
  rfl

end Scope

namespace WorldM
variable {w : World} {i : Nat} {runtime : Runtime} {v : Value} {absent : List String}

/-- A name that is not the label's is paired with its value. -/
private theorem ofArguments_single {config : Config} {name : String} (h : config.labelBinding ≠ name) (v : Value) :
    Bindings.ofArguments config [name] [v] = (⟨config.defaultLabel, [(name, v)]⟩, []) := by
  simp only [Bindings.ofArguments, Bindings.takeLabel, if_neg h.symm]
  rfl

/-- The script that binds `OUT` to what `x` holds runs to its end and leaves under both names the object that the value
was taken up as. Of what was there before the call, nothing but the attributes of the system module is written. -/
theorem leaves_of_canSeed (hstarted : (w.evaluator i).runtime = some runtime)
    (hlabel : (w.evaluator i).config.labelBinding ≠ "x")
    (h : w.guest.CanSeed runtime (w.evaluator i) "x" v absent) (habsent : "OUT" ∉ absent) :
    ∃ scope t obj, w.left? i (.source "OUT = x") ["x"] [v] = some (scope, t) ∧
      t.guest.Seeded scope.globals "x" obj absent ∧
      Inbound.TookUp (w.evaluator i).converters.inbound v runtime.namespaceDict w.guest (w.guest.staged scope.globals)
        obj t.guest ∧
      t.guest.lookup scope.globals (.ofString "OUT") = some obj ∧ ¬ w.guest.Holds scope.globals ∧
      w.guest.Proceeds (· = w.guest.system) t.guest := by
  obtain ⟨stage, begun, obj, hbegin, hseeded, htook, hnew, hproceeds⟩ := begin_of_canSeed i
    (w.evaluator i).config.defaultLabel (w := { w with held := true }) rfl h
  obtain ⟨t, hrun, hbinds, hlookup⟩ := Scope.execute_script (t := begun.crossing i runtime)
    (hseeded.tidy.dicts _ (.inl rfl)).1 hseeded.bound
  have hfree : ∀ other ∈ absent, other ∉ ["__builtins__", "OUT"] := fun other hother => by
    have hne := (h.names other hother).1
    simp only [List.mem_cons, List.not_mem_nil, or_false, not_or] at hne ⊢
    exact ⟨hne.1, fun he => habsent (he ▸ hother)⟩
  have hafter : begun.guest.Proceeds (w.guest.staged stage.scope.globals) t.guest := by
    refine (proceeds_unreported begun.guest).trans (hbinds.proceeds.mono fun id hid => ?_)
    rwa [staged, show (begun.crossing i runtime).guest.system = w.guest.system from hproceeds.system] at hid
  have hstill := hseeded.proceeds (proceeds_unreported begun.guest)
  refine ⟨{ stage.scope with state := .executing }, t, obj, ?_, hstill.binds hbinds (by decide) hfree,
    htook.proceeds hafter, hlookup, hnew, ?_⟩
  · unfold World.left?
    simp only [ofArguments_single hlabel v, hstarted, List.foldl_nil, hbegin, hrun]
  · refine ((hproceeds.mono fun id hid => .inr hid).trans hafter).of_new ?_
    rintro id (rfl | hid) hholds
    · exact absurd hholds hnew
    · exact hid

/-- What was handed over is represented by that object. -/
theorem leaves_of_offers (h : w.Offers i runtime v absent) (habsent : "OUT" ∉ absent) :
    ∃ scope t obj, w.left? i (.source "OUT = x") ["x"] [v] = some (scope, t) ∧
      t.guest.Stages scope.globals "x" obj v absent ∧
      t.guest.lookup scope.globals (.ofString "OUT") = some obj ∧
      w.guest.Proceeds (· = w.guest.system) t.guest := by
  obtain ⟨scope, t, obj, hleft, hseeded, htook, hbound, -, hproceeds⟩ :=
    leaves_of_canSeed h.started h.label h.stage.canSeed habsent
  refine ⟨scope, t, obj, hleft, hseeded.stages ?_, hbound, hproceeds⟩
  rw [hproceeds.staged_eq]
  exact htook.represents h.stage.value

theorem left_of_offers (h : w.Offers i runtime v absent) (habsent : "OUT" ∉ absent) :
    ∃ scope t obj, w.left? i (.source "OUT = x") ["x"] [v] = some (scope, t) ∧
      t.guest.Stages scope.globals "x" obj v absent ∧ t.guest.lookup scope.globals (.ofString "OUT") = some obj := by
  obtain ⟨scope, t, obj, hleft, hstages, hbound, _⟩ := leaves_of_offers h habsent
  exact ⟨scope, t, obj, hleft, hstages, hbound⟩

end WorldM
end ScriptHost
