import ScriptHost.Evaluator.Evaluation

/-! What the system module shows during a reload: the modules imported so far, a table made for
the occasion, or an object that is no table, and the directories of the installation. -/
namespace ScriptHost

/-- Where an entry of a table of modules gets its object from. -/
inductive ModuleSource where
  /-- The module that an import of this name gives. -/
  | imported (name : String)
  /-- A module without a file behind it, with these attributes and no others. -/
  | made (name file : Option Expr)
  /-- The object of an earlier entry. -/
  | entry (key : Expr)
  | object (e : Expr)

/-- What the system module shows as the table of modules. -/
inductive ModuleView where
  | imported
  | table (entries : List (Expr × ModuleSource))
  | object (e : Expr)
  | unchanged

namespace GuestM

private def setOptional (attributes : Identity) (name : String) : Option Expr → GuestM Unit
  | .none => return ()
  | some e => do setName attributes (.ofString name) (← objectOf e)

/-- The object of an entry, after the entries found so far. -/
private def sourceObject (found : List (Identity × Identity)) : ModuleSource → GuestM Identity
  | .imported name => importModule name
  | .made name file => do
    let attributes ← allocate (.dict [])
    setOptional attributes "__name__" name
    setOptional attributes "__file__" file
    allocate (.module attributes)
  | .entry key => do
    let form ← keyForm (← objectOf key)
    let isMeant (entry : Identity × Identity) : GuestM Bool := return (← keyForm entry.1) == form
    match ← found.filterM isMeant with
    | entry :: _ => return entry.2
    | [] => none
  | .object e => objectOf e

private def tableEntries (found : List (Identity × Identity)) :
    List (Expr × ModuleSource) → GuestM (List (Identity × Identity))
  | [] => return found
  | (key, source) :: rest => do
    let key ← objectOf key
    let object ← sourceObject found source
    tableEntries (found ++ [(key, object)]) rest

/-- Makes what the system module shows, unless it stays as it is. -/
def show? : ModuleView → GuestM (Option Identity)
  | .imported => do
    let g ← get
    let isNewcomer (entry : DictEntry) : Bool :=
      ((g.text? entry.key).bind Text.toString?).any Standard.isNewcomer
    return some (← allocate (.dict ((g.entries g.modules).filter isNewcomer)))
  | .table entries => do return some (← dict (← tableEntries [] entries))
  | .object e => do return some (← objectOf e)
  | .unchanged => return .none

/-- The directories of the installation, as the system module has them. -/
private def installation : GuestM (List Identity) := do
  let system ← standardModule "sys"
  Standard.installationNames.mapM (attributeOf system)

private def setInstallation (directories : List Identity) : GuestM Unit := do
  let system ← standardModule "sys"
  (Standard.installationNames.zip directories).forM fun (name, directory) => setAttribute system name directory

/-- Changes what the system module shows, and gives what it showed before. -/
def enterView (view : ModuleView) (directories : Option (List Expr)) :
    GuestM (Identity × List Identity) := do
  let shown := (← get).shownModules
  let before ← installation
  if let some directories := directories then setInstallation (← directories.mapM objectOf)
  if let some table ← show? view then setSystem "modules" table
  return (shown, before)

/-- Shows again what was shown before. -/
def leaveView (shown : Identity) (directories : List Identity) : GuestM Unit := do
  setSystem "modules" shown
  setInstallation directories

end GuestM

/-- Runs a call while the system module shows something else. -/
def WorldM.viewing {α : Type} (view : ModuleView) (directories : Option (List Expr)) (run : WorldM α) :
    WorldM α := do
  match ← guest (GuestM.enterView view directories) with
  | .error _ => run
  | .ok (shown, before) =>
    let answer ← run
    discard (guest (GuestM.leaveView shown before))
    return answer

end ScriptHost
