import ScriptHost.Config

/-! The module search path that an evaluator puts before its scripts: its library paths, then the
interpreter's own entries without those that isolation excludes. -/
namespace ScriptHost.SearchPath

/-- The home directory of an environment. -/
def home? (environment : Environment) : Option String :=
  (environment "HOME").or (environment "USERPROFILE")

/-- Whether an entry is a package directory of the user's own. -/
def isUserSite (environment : Environment) (entry : String) : Bool :=
  match home? environment with
  | none => false
  | some home =>
    Path.startsWith entry (Path.join (Path.join home ".local") "lib") && Path.endsWith entry "site-packages"

/-- The entries that the environment adds to every interpreter. -/
def added (environment : Environment) : List String :=
  ((environment "PYTHONPATH").map Path.splitList).getD []

/-- Whether isolation leaves out an entry of the interpreter's path. -/
def isExcluded (environment : Environment) (entry : String) : Bool :=
  (entry != "" && (added environment).any (Path.same entry)) || isUserSite environment entry

/-- Adds the entries that pass a test and are not there yet, in order. -/
def extend (keeps : String → Bool) (path : List String) : List String → List String
  | [] => path
  | entry :: rest =>
    if keeps entry && !path.contains entry then extend keeps (path ++ [entry]) rest
    else extend keeps path rest

/-- The path of an evaluator, from the path that the interpreter has by itself. -/
def forConfig (config : Config) (environment : Environment) (interpreterPath : List String) :
    List String :=
  let keeps (entry : String) : Bool := !(config.isolated && isExcluded environment entry)
  extend keeps config.libraryPaths interpreterPath

end ScriptHost.SearchPath
