import ScriptHost.Journal.Record
import ScriptHost.Path
import ScriptHost.Script.Written
import ScriptHost.Text.Quoted

/-! Settings of an evaluator, their defaults, and the environment variables that adjust them. -/
namespace ScriptHost

/-- Which modules a reload may touch. -/
structure ReloadPolicy where
  /-- Names of modules that are never reloaded: the entry module and its alias in workers. -/
  protectedNames : List String := ["__main__", "__mp_main__"]
  /-- Whether modules below the interpreter's own prefixes are skipped. -/
  skipsInterpreter : Bool := false
  deriving DecidableEq, Inhabited

/-- The policy that reloads only modules outside the interpreter's installation. -/
def ReloadPolicy.userModulesOnly : ReloadPolicy := { skipsInterpreter := true }

structure Config where
  isolated : Bool := true
  libraryPaths : List String := []
  sessionImports : List Script := []
  resetSearchPath : Bool := true
  redirectOutput : Bool := true
  outputBinding : String := "OUT"
  labelBinding : String := "Name"
  defaultLabel : String := "USER"
  reloadPolicy : ReloadPolicy := {}
  deriving Inhabited

/-- A view of the process environment. -/
abbrev Environment := String → Option String

namespace Config

/-- The variable that switches isolation off when it is set and not empty. -/
def isolationSwitch : String := "PYHOST_DISABLE_ISOLATION"

/-- The variable that lists further library paths. -/
def libraryVariable : String := "PYHOST_LIBRARY_PATH"

private def filled (environment : Environment) (name : String) : Option String :=
  (environment name).filter (· ≠ "")

/-- Adjusts settings by an environment, and reports what it adjusted. -/
def applying (config : Config) (environment : Environment) : Config × List Record :=
  let (config, switched) :=
    match filled environment isolationSwitch with
    | none => (config, [])
    | some _ =>
      ({ config with isolated := false },
        [Record.mk .debug .config ("[Config] " ++ isolationSwitch ++
          " set; using the pre-existing installation's search path")])
  match filled environment libraryVariable with
  | none => (config, switched)
  | some paths =>
    let extra := Path.splitList paths
    ({ config with libraryPaths := config.libraryPaths ++ extra },
      switched ++ [Record.mk .debug .config ("[Config] " ++ libraryVariable ++ " adds " ++
        toString extra.length ++ " library path(s)")])

/-- The default settings adjusted by an environment. -/
def ofEnvironment (environment : Environment) : Config × List Record :=
  ({} : Config).applying environment

private def quotedList (items : List String) : String :=
  "[" ++ ", ".intercalate (items.map Text.quote) ++ "]"

private def flag (b : Bool) : String := if b then "true" else "false"

/-- The text of settings in diagnostics. -/
def inspect (config : Config) : String :=
  "EvaluatorConfig \x7b isolated: " ++ flag config.isolated ++
    ", library_paths: " ++ quotedList config.libraryPaths ++
    ", session_imports: " ++ quotedList (config.sessionImports.map Script.written) ++
    ", reset_sys_path: " ++ flag config.resetSearchPath ++
    ", redirect_output: " ++ flag config.redirectOutput ++
    ", output_binding: " ++ Text.quote config.outputBinding ++
    ", label_binding: " ++ Text.quote config.labelBinding ++
    ", default_label: " ++ Text.quote config.defaultLabel ++
    ", reload_policy: ReloadPolicy \x7b protected: " ++ quotedList config.reloadPolicy.protectedNames ++
    ", skip_interpreter_prefix: " ++ flag config.reloadPolicy.skipsInterpreter ++ " \x7d \x7d"

end Config
end ScriptHost
