import ScriptHost.Script.Execution

/-! An interpreter that has just been started: its built-in names, its system module with standard
output, a search path and the directories it is installed in, and a table of modules with these two. -/
namespace ScriptHost

namespace GuestM

def setAll (attributes : Identity) (contents : List (String × Identity)) : GuestM Unit :=
  contents.forM fun (key, value) => setName attributes (.ofString key) value

def builtinContents : GuestM (List (String × Identity)) := do
  let standing (name : String) : GuestM (String × Identity) := do
    return (name, ← builtin (Builtin.canonical name))
  let functions ← Builtin.functions.mapM standing
  let constants := [("None", ← none), ("Ellipsis", ← intern .ellipsis),
    ("NotImplemented", ← intern .notImplemented), ("False", ← bool false), ("True", ← bool true)]
  let classes ← (Builtin.dataClasses ++ Builtin.exceptionClasses.map (·.1)).mapM standing
  let others ← ["EnvironmentError", "IOError"].mapM standing
  let debugging := [("__debug__", ← bool true)]
  let leaving ← ["quit", "exit"].mapM fun name => do return (name, ← allocate (.plain "Quitter"))
  let reading ← ["copyright", "credits", "license"].mapM fun name => do
    return (name, ← allocate (.plain "_Printer"))
  let helping := [("help", ← allocate (.plain "_Helper"))]
  return functions ++ constants ++ classes ++ debugging ++ others ++ leaving ++ reading ++ helping

def systemContents (modules : Identity) (path directories : List String) :
    GuestM (List (String × Identity)) := do
  let functions ← ["exit", "getdefaultencoding", "getfilesystemencoding", "getrecursionlimit", "intern",
      "get_int_max_str_digits"].mapM fun name => do return (name, ← builtin ("sys." ++ name))
  let numbers := [("api_version", ← int 1013), ("maxsize", ← int 0x7fffffffffffffff), ("maxunicode", ← int 0x10ffff)]
  let texts ← [("byteorder", "little"), ("platform", "linux"), ("float_repr_style", "short"),
      ("executable", "/usr/bin/python3"), ("platlibdir", "lib"), ("abiflags", "")].mapM
    fun (name, value) => do return (name, ← string value)
  let installation ← (Standard.installationNames.zip directories).mapM fun (name, directory) => do
    return (name, ← string directory)
  let searchPath ← list (← path.mapM string)
  return functions ++ ("modules", modules) :: numbers ++ texts ++ ("path", searchPath) :: installation ++
    [("pycache_prefix", ← none), ("stdout", ← allocate .stream)]

def fileAs (modules : Identity) (name : String) : GuestM Identity := do
  let module ← standardModule name
  setName modules (.ofString name) module
  match ← bodyOf module with
  | .module attributes => return attributes
  | _ => return module

def prepare (path directories : List String) : GuestM Unit := do
  let modules ← allocate (.dict [])
  let system ← fileAs modules "sys"
  let builtins ← fileAs modules "builtins"
  modify fun g => { g with modules, system, builtins }
  setAll builtins (← builtinContents)
  setAll system (← systemContents modules path directories)

end GuestM

/-- An interpreter with a search path and the four directories it is installed in. -/
def Guest.initial (path directories : List String) : Guest :=
  match GuestM.atTop (GuestM.prepare path directories) {} with
  | .ok _ g => g
  | .error _ g => g

end ScriptHost
