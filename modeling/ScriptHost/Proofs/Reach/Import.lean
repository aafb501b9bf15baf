import ScriptHost.Script.Import
import ScriptHost.Proofs.Reach.Evaluation

/-! The import of modules stays within what a computation was given, if the code of the modules does. -/
namespace ScriptHost
open GuestM (Spares)

variable {P : Identity → Prop} {attributes id module parent path spec : Identity}
  {package : Option (String × Identity)} {arguments : List Identity}
  {run : Identity → String → String → Script → GuestM Unit}

instance : Inert Script := ⟨⟩

instance : Inert Origin := ⟨⟩

namespace GuestM

@[grind ←] theorem spares_noModule {α : Type} [Refers α] (text : String) : Spares P (noModule text : GuestM α) :=
  .raise _

@[grind ←] theorem spares_refuseHalted (name : String) : Spares P (refuseHalted name) := by
  unfold refuseHalted
  repeat' first | with_reducible refine .bind ?_ fun _ _ => ?_ | with_reducible refine .either ?_ ?_ | split
  all_goals grind

/-! ### The table of modules -/

@[grind ←] theorem spares_filed? (name : String) : Spares P (filed? name) := by
  unfold filed?
  repeat' first | with_reducible refine .bind ?_ fun _ _ => ?_ | with_reducible refine .either ?_ ?_ | dsimp only | split
  all_goals grind

@[grind ←] theorem spares_file (name : String) (hmodule : P module) : Spares P (file name module) := by
  unfold file
  repeat' first | with_reducible refine .bind ?_ fun _ _ => ?_ | with_reducible refine .either ?_ ?_ | split
  all_goals grind

@[grind ←] theorem spares_refile (name : String) : Spares P (refile name) := by
  unfold refile
  repeat' first | with_reducible refine .bind ?_ fun _ _ => ?_ | with_reducible refine .either ?_ ?_ | dsimp only | split
  all_goals grind

@[grind ←] theorem spares_loadStandard (name : String) : Spares P (loadStandard name) := by
  unfold loadStandard
  repeat' first | with_reducible refine .bind ?_ fun _ _ => ?_ | with_reducible refine .either ?_ ?_ | split
  all_goals grind

/-! ### Modules -/

@[grind ←] theorem spares_setAttributeList (name : String) (paths : List String) (hid : P id) :
    Spares P (gatheredPath.setAttributeList id name paths) := by
  unfold gatheredPath.setAttributeList
  repeat' first | with_reducible refine .bind ?_ fun _ _ => ?_ | with_reducible refine .either ?_ ?_ | split
  all_goals grind

@[grind ←] theorem spares_gatheredPath (paths : List String) : Spares P (gatheredPath paths) := by
  unfold gatheredPath
  repeat' first | with_reducible refine .bind ?_ fun _ _ => ?_ | with_reducible refine .either ?_ ?_ | split
  all_goals grind

@[grind ←] theorem spares_present (name : String) (origin : Origin) (hattributes : P attributes) :
    Spares P (present attributes name origin) := by
  unfold present
  repeat' first | with_reducible refine .bind ?_ fun _ _ => ?_ | with_reducible refine .either ?_ ?_ | dsimp only | split
  all_goals grind

@[grind ←] theorem spares_setSpecification {value : Identity} (name : String) (hspec : P spec) (hvalue : P value) :
    Spares P (setSpecification spec name value) := by
  unfold setSpecification
  repeat' first | with_reducible refine .bind ?_ fun _ _ => ?_ | with_reducible refine .either ?_ ?_ | split
  all_goals grind

/-! ### The search for modules -/

@[grind ←] theorem spares_topDirectories : Spares P topDirectories := by
  unfold topDirectories
  repeat' first | with_reducible refine .bind ?_ fun _ _ => ?_ | with_reducible refine .either ?_ ?_ | dsimp only | split
  all_goals grind

@[grind ←] theorem spares_innerDirectories (name : String) (hpath : P path) : Spares P (innerDirectories name path) := by
  unfold innerDirectories
  repeat' first | with_reducible refine .bind ?_ fun _ _ => ?_ | with_reducible refine .either ?_ ?_ | dsimp only | split
  all_goals grind

@[grind ←] theorem spares_findOrigin (name : String) (hpackage : Within P package) :
    Spares P (findOrigin name package) := by
  unfold findOrigin
  repeat' first | with_reducible refine .bind ?_ fun _ _ => ?_ | with_reducible refine .either ?_ ?_ | dsimp only | split
  all_goals grind

@[grind ←] theorem spares_markPart (part : Option String) (hspec : P spec) : Spares P (markPart spec part) := by
  unfold markPart
  repeat' first | with_reducible refine .bind ?_ fun _ _ => ?_ | with_reducible refine .either ?_ ?_ | dsimp only | split
  all_goals grind

section
variable (hrun : ∀ attributes path name code, P attributes → Spares P (run attributes path name code))
include hrun

theorem spares_runModule (origin : Origin) (hattributes : P attributes) : Spares P (runModule run attributes origin) := by
  unfold runModule
  repeat' first | with_reducible refine .bind ?_ fun _ _ => ?_ | with_reducible refine .either ?_ ?_ | dsimp only | split
  all_goals grind

theorem spares_load (name : String) (origin : Origin) : Spares P (load run name origin) := by
  have hmodule (attributes : Identity) (origin : Origin) (h : P attributes) := spares_runModule hrun origin h
  unfold load
  repeat' first
    | with_reducible refine .bind ?_ fun _ _ => ?_
    | with_reducible refine .tryCatch ?_ fun _ => ?_
    | split
  all_goals grind

theorem spares_loadPart (name parentName part : String) (hparent : P parent) :
    Spares P (loadPart run name parentName part parent) := by
  have hload := spares_load hrun (P := P)
  unfold loadPart
  repeat' first | with_reducible refine .bind ?_ fun _ _ => ?_ | with_reducible refine .either ?_ ?_ | dsimp only | split
  all_goals grind

theorem spares_moduleNamed (depth : Nat) (name : String) : Spares P (moduleNamed run depth name) := by
  induction depth generalizing name with
  | zero => exact .raise _
  | succ depth ih =>
    have hload := spares_load hrun (P := P)
    have hpart (name parentName part : String) {parent : Identity} (hparent : P parent) :=
      spares_loadPart hrun name parentName part hparent
    unfold moduleNamed
    repeat' first | with_reducible refine .bind ?_ fun _ _ => ?_ | with_reducible refine .either ?_ ?_ | dsimp only | split
    all_goals grind

theorem spares_importNamed (name : String) (outermost : Bool) : Spares P (importNamed run name outermost) := by
  have hnamed := spares_moduleNamed hrun (P := P)
  unfold importNamed
  repeat' first | with_reducible refine .bind ?_ fun _ _ => ?_ | with_reducible refine .either ?_ ?_ | dsimp only | split
  all_goals grind

theorem spares_importBuiltin (harguments : Within P arguments) : Spares P (importBuiltin run arguments) := by
  have himport := spares_importNamed hrun (P := P)
  unfold importBuiltin
  repeat' first | with_reducible refine .bind ?_ fun _ _ => ?_ | with_reducible refine .either ?_ ?_ | dsimp only | split
  all_goals grind

end

@[grind ←] theorem spares_hostImport (name : String) : Spares P (hostImport name) := by
  unfold hostImport
  repeat' first | with_reducible refine .bind ?_ fun _ _ => ?_ | with_reducible refine .either ?_ ?_ | split
  all_goals grind

end GuestM
end ScriptHost
