import ScriptHost.Config
import ScriptHost.Script.Execution

/-! Reloading: the modules of the shown table that come from source files and that the policy
does not protect are run again, each in its own namespace. -/
namespace ScriptHost

/-- What a reload did. -/
structure ReloadReport where
  considered : Nat := 0
  reloaded : List String := []
  skipped : Nat := 0
  /-- The modules whose reload raised, with what they raised. -/
  failed : List (String × String) := []
  deriving DecidableEq

def ReloadReport.isClean (r : ReloadReport) : Bool := r.failed.isEmpty

/-- A module of a table, with its name there. A name that is a string stays the one that it was when the table was
read; any other name is asked for its text. -/
structure ReloadTarget where
  key : Identity
  name? : Option Text
  module : Identity

/-- The modules of a table in its order. -/
def Guest.reloadTargets (g : Guest) (table : Dict) : List ReloadTarget :=
  table.map fun entry => ⟨entry.key, if g.isExact entry.key then g.text? entry.key else none, entry.value⟩

namespace Path

private def splitLast (path : String) : String × String :=
  match (path.splitOn "/").reverse with
  | last :: before => ("/".intercalate before.reverse, last)
  | [] => ("", path)

/-- Whether a file is named as the compiled form of a source file: in a cache directory, with two
dots in its name, or with three and a level of optimisation before the last. -/
def isCompiled (path : String) : Bool :=
  let (head, name) := splitLast path
  let pieces := name.splitOn "."
  (splitLast head).2 == "__pycache__" &&
    match pieces with
    | [_, _, _] => true
    | [_, _, level, _] =>
      level.startsWith "opt-" && level.length > 4 &&
        (level.toList.drop 4).all fun c => CodePoint.isLetterOrNumber c.toNat
    | _ => false

/-- Whether a file is source code by its name. -/
def isSource (path : String) : Bool := (extension? path).any fun e => e.toLower == "py"

end Path

namespace GuestM

/-- A string attribute of an object, if the object has it. -/
def stringAttribute (id : Identity) (name : String) : GuestM (Option String) := do
  match ← tryCatch (some <$> attributeOf id name) (fun _ => return .none) with
  | .none => return .none
  | some value =>
    match ← bodyOf value with
    | .text t => return t.toString?
    | _ => return .none

/-- The string of an object that has to be one. -/
def requireString (id : Identity) : GuestM String := do
  let g ← get
  match g.body id with
  | .text t => liftExcept t.encode
  | _ => raise (.typeError ("'" ++ g.classTitle id ++ "' object cannot be converted to 'PyString'"))

/-- A directory after others, unless it is empty or one of them. -/
def keepDirectory (found : List String) (directory : String) : List String :=
  if directory = "" || found.any (Path.same directory) then found else found ++ [directory]

/-- The directory that an attribute names, after others. -/
def addDirectory (system : Identity) (found : List String) (name : String) : GuestM (List String) := do
  return keepDirectory found (← requireString (← attributeOf system name))

/-- The directories that the interpreter is installed in, without empty and repeated ones. -/
def interpreterPrefixes : GuestM (List String) := do
  Standard.installationNames.foldlM (addDirectory (← standardModule "sys")) []

/-- Whether a file is the compiled form of a source file, if the interpreter can tell. -/
def hasCachedSource (file : String) : GuestM Bool := do
  match ← tryCatch (some <$> hostImport "importlib.util") (fun _ => return .none) with
  | some _ => return Path.isCompiled file
  | .none => return false

/-- Whether a module may be reloaded: it names a source file outside the skipped directories, and
no protected name is its own. -/
def isReloadable (policy : ReloadPolicy) (directories : List String) (name : String)
    (module : Identity) : GuestM Bool := do
  match ← stringAttribute module "__file__" with
  | .none => return false
  | some file =>
    match ← stringAttribute module "__name__" with
    | .none => return false
    | some moduleName =>
      if policy.protectedNames.contains moduleName || policy.protectedNames.contains name then return false
      else if directories.any (Path.startsWith file) then return false
      else if Path.isSource file then return true
      else hasCachedSource file

private def importError {α : Type} (text : String) : GuestM α := raise (.of "ImportError" text)

/-- The name under which a module is looked up again. -/
private def reloadName (module : Identity) : GuestM String := do
  let specified : GuestM Identity := do attributeOf (← attributeOf module "__spec__") "name"
  let name ← tryCatch specified fun f =>
    if f.isA "AttributeError" then attributeOf module "__name__" else raise f
  requireString name

/-- The package that a module of a dotted name is in, with the directories that the package leads to. -/
private def reloadPackage (name : String) : GuestM (Option (String × Identity)) := do
  match splitLastDot name with
  | ("", _) => return .none
  | (parentName, _) =>
    match (← get).lookup (← get).shownModules (.ofString parentName) with
    | .none =>
      raise ⟨"ImportError", "ImportError",
        some (.ofString "parent " ++ (Text.ofString parentName).literal ++ .ofString " not in sys.modules"), []⟩
    | some parent => return some (parentName, ← attributeOf parent "__path__")

/-- Runs the code of a module again in the module's own namespace. -/
def reloadModule (module : Identity) : GuestM Unit := do
  let name ← reloadName module
  let g ← get
  if g.lookup g.shownModules (.ofString name) ≠ some module then
    importError ("module " ++ name ++ " not in sys.modules")
  match ← findOrigin name (← reloadPackage name), ← bodyOf module with
  | some .standard, _ => discard (refile name)
  | some origin, .module attributes =>
    discard (present attributes name origin)
    tryCatch (runModule runFile attributes origin) fun f => do
      discard (refile name)
      raise f
    discard (refile name)
  | _, _ =>
    setAttribute module "__spec__" (← none)
    raise ⟨"ModuleNotFoundError", "ModuleNotFoundError",
      some (.ofString "spec not found for the module " ++ (Text.ofString name).literal), []⟩

/-- Reloads a module if it may be, and adds what happened to a report. -/
def reloadTarget (policy : ReloadPolicy) (directories : List String) (report : ReloadReport) (target : ReloadTarget) :
    GuestM ReloadReport := do
  let text ← match target.name? with
    | some text => pure text
    | .none => plainText target.key
  let name := text.lossy
  let report := { report with considered := report.considered + 1 }
  if ← isReloadable policy directories name target.module then
    record .debug .reload ("[Reload] reloading " ++ name)
    match ← tryCatch (Except.ok <$> reloadModule target.module) (fun f => return .error f) with
    | .ok () => return { report with reloaded := report.reloaded ++ [name] }
    | .error f =>
      record .warn .reload ("[Reload] failed to reload " ++ name ++ ": " ++ f.message)
      return { report with failed := report.failed ++ [(name, f.message)] }
  else return { report with skipped := report.skipped + 1 }

/-- The directories whose modules a policy leaves alone. -/
def skippedDirectories (policy : ReloadPolicy) : GuestM (List String) :=
  if policy.skipsInterpreter then interpreterPrefixes else return []

/-- The modules that the shown table has, and the directories whose modules are left alone. -/
def openReload (policy : ReloadPolicy) : GuestM (List ReloadTarget × List String) := do
  let system ← hostImport "sys"
  discard (hostImport "importlib")
  let directories ← skippedDirectories policy
  let modules ← attributeOf system "modules"
  let g ← get
  match g.body modules with
  | .dict table => return (g.reloadTargets table, directories)
  | _ => typeError ("'" ++ g.classTitle modules ++ "' object cannot be converted to 'PyDict'")

/-- Reloads the modules that the shown table has at the start, in its order. -/
def reload (policy : ReloadPolicy) : GuestM ReloadReport := do
  let (targets, directories) ← openReload policy
  let report ← targets.foldlM (reloadTarget policy directories) {}
  record .info .reload ("[Reload] " ++ toString report.reloaded.length ++ " reloaded, " ++
    toString report.skipped ++ " skipped, " ++ toString report.failed.length ++ " failed")
  return report

end GuestM
end ScriptHost
