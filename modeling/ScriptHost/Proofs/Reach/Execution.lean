import ScriptHost.Script.Execution
import ScriptHost.Proofs.Reach.Import

/-! Scripts stay within what they were given: so do their statements one by one, and calls however deep they nest. -/
namespace ScriptHost
open GuestM (Spares)
open Stepping

variable {P : Identity → Prop} {callee ending globals target value : Identity} {before : List Identity}

instance : Inert Statement := ⟨⟩

namespace GuestM

/-! ### Statements -/

@[grind ←] theorem spares_assign (name : String) (hvalue : P value) : Spares P (assign name value) := by
  unfold assign
  repeat' first | with_reducible refine .bind ?_ fun _ _ => ?_ | with_reducible refine .either ?_ ?_ | dsimp only | split
  all_goals grind

@[grind ←] theorem spares_delete (name : String) : Spares P (delete name) := by
  unfold delete
  repeat' first | with_reducible refine .bind ?_ fun _ _ => ?_ | with_reducible refine .either ?_ ?_ | dsimp only | split
  all_goals grind

@[grind ←] theorem spares_callMethod (name : String) (e : Expr) (htarget : P target) (hbefore : Within P before) :
    Spares P (callMethod target name before e) := by
  unfold callMethod
  repeat' first | with_reducible refine .bind ?_ fun _ _ => ?_ | with_reducible refine .either ?_ ?_ | dsimp only | split
  all_goals grind

@[grind ←] theorem spares_printEnding (hcallee : P callee) (hvalue : P value) (hending : P ending) :
    Spares P (printEnding callee value ending) := by
  unfold printEnding
  repeat' first | with_reducible refine .bind ?_ fun _ _ => ?_ | with_reducible refine .either ?_ ?_ | dsimp only | split
  all_goals grind

@[grind ←] theorem spares_printStatement (e : Expr) (ending : Option Expr) : Spares P (printStatement e ending) := by
  unfold printStatement
  repeat' first | with_reducible refine .bind ?_ fun _ _ => ?_ | with_reducible refine .either ?_ ?_ | dsimp only | split
  all_goals grind

@[grind ←] theorem spares_importStatement (name : String) : Spares P (importStatement name) := by
  unfold importStatement
  refine .bind (spares_builtinNamed? _) fun importer himporter => ?_
  split
  · grind
  refine .bind .place fun here hhere => .bind (spares_string _) fun text htext => .bind spares_none fun nothing hnothing =>
    .bind (spares_int 0) fun level hlevel => ?_
  have hglobals := ((within_place here).mp hhere).1
  exact .bind (.call ((within_some _).mp himporter) (by simpa using ⟨htext, hglobals, hnothing, hlevel⟩)) fun module hmodule =>
    spares_setName _ hglobals hmodule

@[grind ←] theorem spares_execute (statement : Statement) : Spares P (execute statement) := by
  cases statement
  all_goals
    simp only [execute]
    repeat' first | with_reducible refine .bind ?_ fun _ _ => ?_ | with_reducible refine .either ?_ ?_ | dsimp only | split
    all_goals grind

/-! ### Code -/

@[grind ←] theorem spares_executeAll (file : String) (statements : List (Nat × Statement)) (hglobals : P globals) :
    Spares P (executeAll globals file statements) := by
  unfold executeAll
  refine .bind (.modify fun _ hg => ?_) fun _ _ => ?_
  · exact Guest.changesWithin_of_same hg rfl rfl rfl rfl rfl rfl (.of_same (Nat.le_refl _) rfl rfl rfl) rfl
  repeat' first | with_reducible refine .bind ?_ fun _ _ => ?_ | with_reducible refine .either ?_ ?_ | dsimp only | split
  all_goals grind

@[grind ←] theorem spares_runFile (path shortName : String) (code : Script) (hglobals : P globals) :
    Spares P (runFile globals path shortName code) := by
  unfold runFile
  repeat' first | with_reducible refine .bind ?_ fun _ _ => ?_ | with_reducible refine .either ?_ ?_ | dsimp only | split
  all_goals grind

@[grind ←] theorem spares_runScript (script : Script) (hglobals : P globals) : Spares P (runScript globals script) := by
  unfold runScript
  repeat' first | with_reducible refine .bind ?_ fun _ _ => ?_ | with_reducible refine .either ?_ ?_ | dsimp only | split
  all_goals grind

@[grind ←] theorem spares_resultOf (script : Script) (name : String) : Spares P (resultOf script name) := by
  unfold resultOf
  repeat' first | with_reducible refine .bind ?_ fun _ _ => ?_ | with_reducible refine .either ?_ ?_ | dsimp only | split
  all_goals grind

@[grind ←] theorem spares_objectOf (e : Expr) : Spares P (objectOf e) := spares_resultOf _ _

@[grind ←] theorem spares_importModule (name : String) : Spares P (importModule name) :=
  spares_importNamed (fun _ path name code hattributes => spares_runFile path name code hattributes) name false

/-! ### Calls -/

/-- Calls that nest to a depth spare what the place, the function and the arguments do not lead to. -/
theorem callTo_spares (depth : Nat) (place : Place) (function : Identity) (arguments : List Identity) (g : Guest)
    (hplace : Within P place) (hfunction : P function) (harguments : Within P arguments) (hg : Within P g) :
    Ends (callTo depth place function arguments) g fun answer g' => g.ChangesWithin P g' ∧ Within P answer := by
  induction depth generalizing place function arguments g with
  | zero => exact .of_error rfl ⟨.refl hg, by simp⟩
  | succ depth ih =>
    have hbuiltin : Spares P (importBuiltin runFile arguments) :=
      spares_importBuiltin (fun _ path name code hattributes => spares_runFile path name code hattributes) harguments
    rw [callTo]
    refine Spares.bind (spares_bodyOf hfunction) (fun body hbody => ?_) _ g ⟨hplace, ih⟩ hg
    split <;> grind

/-- Code that the host runs spares what the interpreter itself does not lead to. -/
theorem atTop_spares {α : Type} [Refers α] {run : GuestM α} (hrun : run.Spares P) {g : Guest} (hg : Within P g) :
    Ends (atTop run) g fun answer g' => g.ChangesWithin P g' ∧ Within P answer :=
  hrun _ g ⟨⟨Guest.within_builtins hg, Guest.within_builtins hg⟩, callTo_spares callDepth⟩ hg

end GuestM
end ScriptHost
