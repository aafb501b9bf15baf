import ScriptHost.Evaluator.SearchPath
import Mathlib.Data.List.Basic

/-! The module search path of an evaluator as a list: its library paths, then the interpreter's own entries, each once,
without those that are among the library paths and those that isolation leaves out. -/
namespace ScriptHost.SearchPath
variable {environment : Environment} {entry : String}

/-- Whether an entry is left out in isolation: it goes the same steps as one that the environment adds, or it is a
package directory below the home directory. -/
def IsLeftOut (environment : Environment) (entry : String) : Prop :=
  (entry ≠ "" ∧ ∃ other ∈ added environment, Path.components entry = Path.components other) ∨
    ∃ home, home? environment = some home ∧
      Path.components (Path.join (Path.join home ".local") "lib") <+: Path.components entry ∧
      Path.components "site-packages" <:+ Path.components entry

theorem isExcluded_iff : isExcluded environment entry = true ↔ IsLeftOut environment entry := by
  have hsite : isUserSite environment entry = true ↔ ∃ home, home? environment = some home ∧
      Path.components (Path.join (Path.join home ".local") "lib") <+: Path.components entry ∧
      Path.components "site-packages" <:+ Path.components entry := by
    unfold isUserSite
    cases home? environment with
    | none => simp
    | some home => simp [Path.startsWith, Path.endsWith]
  simp [isExcluded, IsLeftOut, hsite, Path.same]

instance (environment : Environment) (entry : String) : Decidable (IsLeftOut environment entry) :=
  decidable_of_iff _ isExcluded_iff

/-- Entries are added to a path in their order, the first of equal ones, if they pass the test and are not in the path
already. -/
theorem extend_eq (keeps : String → Bool) (path entries : List String) :
    extend keeps path entries =
      path ++ (entries.filter fun entry => keeps entry && !path.contains entry).eraseDups := by
  induction entries generalizing path with
  | nil => simp [extend]
  | cons entry rest ih =>
    rw [extend, List.filter_cons]
    cases hkeeps : keeps entry && !path.contains entry with
    | false => simpa using ih path
    | true =>
      have hfilter : (rest.filter fun other => keeps other && !(path ++ [entry]).contains other) =
          (rest.filter fun other => keeps other && !path.contains other).filter fun other => !other == entry := by
        rw [List.filter_filter]
        refine List.filter_congr fun other _ => ?_
        rw [Bool.eq_iff_iff]
        simpa [and_left_comm] using fun _ => And.comm
      rw [if_pos rfl, if_pos rfl, ih, hfilter, List.eraseDups_cons, List.append_assoc, List.singleton_append]

/-- The path of an evaluator: its library paths in their order, then of the interpreter's entries the first of equal ones
in their order, those left out that are library paths and, in isolation, those that the environment and the user add. -/
theorem forConfig_eq (config : Config) (environment : Environment) (path : List String) :
    forConfig config environment path = config.libraryPaths ++ (path.filter fun entry =>
      entry ∉ config.libraryPaths ∧ ¬ (config.isolated = true ∧ IsLeftOut environment entry)).eraseDups := by
  rw [forConfig, extend_eq]
  congr 2
  refine List.filter_congr fun entry _ => ?_
  rw [Bool.eq_iff_iff]
  simp [← isExcluded_iff, and_comm]

end ScriptHost.SearchPath
