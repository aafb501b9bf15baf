import ScriptHost.Proofs.Convert.Return
import ScriptHost.Proofs.Evaluator.Handing

/-! The way of a plain value into a script and back: an evaluator with the standard converters gives the value back
that it was given. -/
namespace ScriptHost
open Stepping Guest

theorem ConverterTable.standard_inbound : standard.1.inbound = Inbound.standard := rfl

theorem ConverterTable.standard_outbound : standard.1.outbound = Outbound.standard := rfl

namespace Scope

variable {t : Transfer} {scope : Scope} {table : ConverterTable} {name : String} {obj : Identity} {v : Value}

/-- A name that holds an object which stands for a value is read as a value like that. -/
private theorem get_of_stands {W : Identity → Prop} (htable : table.outbound = Outbound.standard) (hv : v.Built)
    (hbound : t.guest.lookup scope.globals (.ofString name) = some obj) (hobj : t.guest.Stands W obj v) :
    ∃ v' t', get table scope name t = .ok (some v') t' ∧ v.Alike v' ∧ t'.counts = t.counts ∧
      t.guest.Proceeds (fun _ => False) t'.guest := by
  obtain ⟨v', t', hrun, hproceeds, halike⟩ :=
    Outbound.marshalOrHandle_returns (t := { t with active := [], acquired := #[] }) hobj hv rfl
  exact ⟨v', t', get_of_bound hbound (htable ▸ hrun), halike, by rw [hproceeds.rest], hproceeds.guest⟩

/-- Such a name is read freely. -/
private theorem readsFreely_of_stands {W : Identity → Prop} {g : Guest}
    (htable : table.outbound = Outbound.standard) (hv : v.Built)
    (hbound : g.lookup scope.globals (.ofString name) = some obj) (hobj : g.Stands W obj v)
    (hheld : g.Holds scope.globals) : scope.ReadsFreely table g name := fun t ht => by
  obtain ⟨v', t', hrun, _, hcounts, hproceeds⟩ := get_of_stands (t := t) htable hv
    ((ht.lookup_eq hheld id _).trans hbound) (hobj.proceeds ht.relax)
  exact ⟨some v', t', hrun, hcounts, hproceeds⟩

end Scope

/-- An evaluator that can be called from outside: it is started, has the standard converters and the usual names of
bindings, its hooks leave `x` alone, and the modules that the set-up of a scope needs are in place. -/
structure World.IsReady (w : World) (i : Nat) (runtime : Runtime) : Prop where
  unlocked : w.held = false
  started : (w.evaluator i).runtime = some runtime
  converters : (w.evaluator i).converters = ConverterTable.standard.1
  output : (w.evaluator i).config.outputBinding = "OUT"
  label : (w.evaluator i).config.labelBinding ≠ "x"
  hooks : ∀ hook ∈ (w.evaluator i).hooks, ∀ pair ∈ hook.inject, pair.2.HasFreeKeys ∧ pair.1 ≠ "x"
  intact : w.guest.IsIntact
  stdout : (w.evaluator i).config.redirectOutput = true → (w.guest.lookup w.guest.system (.ofString "stdout")).isSome

namespace World.IsReady
variable {w : World} {i : Nat} {runtime : Runtime} {v : Value}

theorem inbound (h : w.IsReady i runtime) : (w.evaluator i).converters.inbound = Inbound.standard := by
  rw [h.converters, ConverterTable.standard_inbound]

theorem outbound (h : w.IsReady i runtime) : (w.evaluator i).converters.outbound = Outbound.standard := by
  rw [h.converters, ConverterTable.standard_outbound]

theorem offers (h : w.IsReady i runtime) (hfree : v.HasFreeKeys) (hv : v.IsPlain ∨ v.HasCollectionKey) :
    w.Offers i runtime v [] := by
  refine ⟨h.started, h.label, h.intact, h.stdout, ?_, fun hook hhook pair hpair => ?_, by simp, by simp⟩
  · rw [h.inbound]
    exact Inbound.handsOver_of_delivered hfree hv
  · rw [h.inbound]
    obtain ⟨hkeys, hname⟩ := h.hooks hook hhook pair hpair
    exact ⟨Inbound.takesUp_of_hasFreeKeys hkeys, hname, List.not_mem_nil⟩

end World.IsReady

namespace WorldM
variable {w : World} {i : Nat} {runtime : Runtime} {v : Value}

/-- A plain value that is bound to `x` comes back from the script that binds `OUT` to it: of the same shape, with the
same scalars and host objects in the same order. No count of a handle changes, unless hooks read other names. -/
theorem evaluate_echoes (hw : w.IsReady i runtime) (hv : v.IsPlain) :
    ∃ v' w', evaluate i (.source "OUT = x") ["x"] [v] w = (.ok v', w') ∧ v.Alike v' ∧
      ((∀ hook ∈ (w.evaluator i).hooks, ∀ name ∈ hook.read, name = "x" ∨ name = "OUT") →
        w.ClosedAfter i runtime runtime.counts w') := by
  have hoffers := hw.offers (.of_free hv.handles) (.inl hv)
  obtain ⟨scope, t, obj, hleft, hstages, hlookup⟩ := left_of_offers hoffers List.not_mem_nil
  obtain ⟨⟨hcounts, _⟩, hanswers⟩ := evaluate_of_left hw.unlocked hw.started hleft
  obtain ⟨v', t', hget, halike, hsame, hproceeds⟩ :=
    Scope.get_of_stands hw.outbound hv.built hlookup hstages.represents.stands
  obtain ⟨w', hevaluate, hclosed⟩ := hanswers (some v') t' (hw.output ▸ hget)
  refine ⟨v', w', hevaluate, halike, fun hreads => ?_⟩
  rw [← hcounts, ← hsame]
  have hglobals := (hstages.tidy.dicts _ (.inl rfl)).1
  refine hclosed fun hook hhook name hname => ?_
  have hbound : t.guest.lookup scope.globals (.ofString name) = some obj := by
    rcases hreads hook hhook name hname with rfl | rfl
    · exact hstages.bound
    · exact hlookup
  exact (Scope.readsFreely_of_stands hw.outbound hv.built hbound hstages.represents.stands hglobals).proceeds hproceeds

/-- A started evaluator with the standard converters, in the smallest interpreter. -/
private def started (config : Config) : World where
  guest := minimal
  evaluators := #[{ config, converters := ConverterTable.standard.1
                    runtime := some { namespaceDict := minimalNamespace, searchPath := [] } }]

/-- A list with a map under a key that cannot be one of a dictionary. -/
private def nested : Value := .list [.bool true, .map (ValueMap.ofList [(.list [], .string "a")]), .float .nan]

private theorem isPlain_nested : nested.IsPlain := by
  have hleaf (v : Value) (h : v.isLeaf = true) (hhandles : v.handles = []) (hbig : ∀ n, v ≠ .bigInt n) :
      v.IsPlain := .of_leaf h hhandles fun n he => absurd he (hbig n)
  have hempty : (Value.list []).IsPlain := .of_list fun _ h => nomatch h
  have hstring : (Value.string "a").IsPlain := hleaf _ rfl rfl nofun
  have hentries : (ValueMap.ofList [(.list [], .string "a")]).toList = [(.list [], .string "a")] :=
    (ValueMap.ofList_eq _).2
  have hmap : (Value.map (ValueMap.ofList [(.list [], .string "a")])).IsPlain := by
    refine .of_map (.ofList (by simpa using ⟨hempty.built, hstring.built⟩)) ?_ ?_
    · rw [hentries]
      simpa using ⟨hempty, hstring⟩
    · rw [ValueMap.KeysApart, hentries]
      exact List.pairwise_singleton _ _
  refine .of_list fun item hitem => ?_
  simp only [List.mem_cons, List.not_mem_nil, or_false] at hitem
  rcases hitem with rfl | rfl | rfl
  · exact hleaf _ rfl rfl nofun
  · exact hmap
  · exact hleaf _ rfl rfl nofun

theorem evaluate_echoes_nested :
    ∃ v' w', evaluate 0 (.source "OUT = x") ["x"] [nested] (started {}) = (.ok v', w') ∧ nested.Alike v' ∧
      ((∀ hook ∈ ((started {}).evaluator 0).hooks, ∀ name ∈ hook.read, name = "x" ∨ name = "OUT") →
        (started {}).ClosedAfter 0 { namespaceDict := minimalNamespace, searchPath := [] } ∅ w') :=
  evaluate_echoes (w := started {}) ⟨rfl, rfl, rfl, rfl, by decide, (fun _ h => nomatch h), isIntact_minimal,
    fun _ => by decide +kernel⟩ isPlain_nested

private theorem offers_started : (started { outputBinding := "RESULT" }).Offers 0
    { namespaceDict := minimalNamespace, searchPath := [] } (.bool true) ["RESULT"] where
  started := rfl
  label := by decide
  stage := {
    intact := isIntact_minimal
    output := fun _ => by decide +kernel
    value := Inbound.handsOver_of_delivered (.of_free rfl) (.inl (.of_leaf rfl rfl nofun))
    hooks := fun _ h => nomatch h
    session := fun _ => ⟨by decide, by decide⟩
    names := fun other hother => by
      rw [List.mem_singleton] at hother
      subst hother
      exact ⟨by decide, rfl⟩ }

/-- An evaluator whose output binding has another name answers null. -/
theorem evaluate_of_other_output : ¬ ∀ (w : World) (i : Nat) (runtime : Runtime) (v : Value), w.held = false →
    (w.evaluator i).runtime = some runtime → (w.evaluator i).converters = ConverterTable.standard.1 → v.IsPlain →
    ∃ v' w', evaluate i (.source "OUT = x") ["x"] [v] w = (.ok v', w') ∧ v.Alike v' := by
  intro hechoes
  obtain ⟨v', w', hevaluate, halike⟩ := hechoes (started { outputBinding := "RESULT" }) 0 _ (.bool true) rfl rfl rfl
    (.of_leaf rfl rfl nofun)
  obtain ⟨scope, t, obj, hleft, hstages, _⟩ := left_of_offers offers_started (by decide)
  obtain ⟨w'', hnull, _⟩ := (evaluate_of_left (w := started { outputBinding := "RESULT" }) rfl rfl hleft).2 none t
    (Scope.get_of_unbound (hstages.unbound "RESULT" (by simp)))
  rw [hevaluate] at hnull
  cases hnull
  cases halike

end WorldM
end ScriptHost
