import ScriptHost.Guest.Calls
import ScriptHost.Path
import ScriptHost.Script.Written

/-! The import of modules: where their code is found, how they present themselves, and the table that
they are filed in. -/
namespace ScriptHost

/-- A dotted name before its last dot, and what follows the dot. -/
def splitLastDot (name : String) : String × String :=
  let parts := name.splitOn "."
  (".".intercalate parts.dropLast, parts.getLastD name)

namespace Guest

/-- The file of a path, if there is one. -/
def file? (g : Guest) (path : String) : Option Script :=
  (g.files.find? fun entry => Path.same entry.1 path).map (·.2)

/-- The interpreter after a file was written; the directory of a file stays when the file goes. -/
def withFile (g : Guest) (path : String) (code : Script) : Guest :=
  let folder := "/".intercalate (path.splitOn "/").dropLast
  { g with
    files := (path, code) :: g.files.filter (·.1 ≠ path)
    folders := if g.folders.contains folder then g.folders else folder :: g.folders }

def withoutFile (g : Guest) (path : String) : Guest := { g with files := g.files.filter (·.1 ≠ path) }

/-- Whether files were written to a directory or below it. -/
def hasDirectory (g : Guest) (path : String) : Bool :=
  g.folders.any fun folder => Path.startsWith folder path

/-- The texts among the items of a search path. -/
def directories (g : Guest) (path : Identity) : List String :=
  match g.body path with
  | .list items | .tuple items => items.toList.filterMap fun id => (g.text? id).map Text.lossy
  | _ => []

end Guest

/-- Where the code of a module is found. -/
inductive Origin where
  /-- In the interpreter itself. -/
  | standard
  | package (file : String) (code : Script)
  | file (file : String) (code : Script)
  /-- Nowhere: the module only gathers what lies in some directories. -/
  | directories (paths : List String)

namespace Origin

/-- What a directory has for a module: its code, or a directory of the module's name. -/
def inDirectory (g : Guest) (name directory : String) : Option (Origin ⊕ String) :=
  let base := Path.join (directory.dropEndWhile (· == '/')).toString (splitLastDot name).2
  let initial := Path.join base "__init__.py"
  if Path.startsWith directory Standard.directory then
    if Standard.contains name then some (.inl .standard) else none
  else if directory = "" then none
  else match g.file? initial, g.file? (base ++ ".py") with
    | some code, _ => some (.inl (.package initial code))
    | none, some code => some (.inl (.file (base ++ ".py") code))
    | none, none => if g.hasDirectory base then some (.inr base) else none

/-- What the first directory that has code for a module gives, or all directories of its name. -/
def among (g : Guest) (name : String) : List String → List String → Option Origin
  | [], gathered => if gathered.isEmpty then none else some (.directories gathered.reverse)
  | directory :: rest, gathered =>
    match inDirectory g name directory with
    | some (.inl origin) => some origin
    | some (.inr path) => among g name rest (path :: gathered)
    | none => among g name rest gathered

/-- Where a module is found in the directories of a search path. -/
def find? (g : Guest) (name : String) (directories : List String) : Option Origin := among g name directories []

end Origin

namespace GuestM

def noModule {α : Type} (text : String) : GuestM α := raise (.of "ModuleNotFoundError" text)

/-- Refuses a module whose import is blocked. -/
def refuseHalted (name : String) : GuestM Unit := do
  if (← get).halted.contains name then
    noModule ("import of " ++ name ++ " halted; None in sys.modules")

/-! ### The table of modules -/

/-- What the table of modules holds under a name. -/
def filed? (name : String) : GuestM (Option Identity) := do
  let g ← get
  let table := g.shownModules
  match g.body table with
  | .dict _ => return g.lookup table (.ofString name)
  | _ => do
    let found ← call (← attributeOf table "get") [← string name]
    return if (← get).isNone found then .none else some found

def file (name : String) (module : Identity) : GuestM Unit := do
  setItem (← get).shownModules (← string name) module

/-- Takes a module out of the table and puts it at the end. -/
def refile (name : String) : GuestM Identity := do
  let table := (← get).shownModules
  let key ← string name
  let module ← subscript table key
  deleteItem table key
  setItem table key module
  return module

/-- A module of the interpreter's own, which is in the table of modules and has its parts that are
there early. -/
def loadStandard (name : String) : GuestM Identity := do
  let module ← standardModule name
  file name module
  for part in Standard.earlyParts name do
    setAttribute module part (← standardModule (name ++ "." ++ part))
  return module

/-! ### Modules -/

private def baseName (path : String) : String := (path.splitOn "/").getLastD path

private def cachedName (path : String) : String :=
  let name := baseName path
  let directory := (path.dropEnd name.length).toString
  let stem := (name.dropEnd 3).toString
  directory ++ "__pycache__/" ++ stem ++ ".cpython-311.pyc"

/-- An object that gathers the directories of a package without code. -/
def gatheredPath (paths : List String) : GuestM Identity := do
  let id ← allocate (.plain "_NamespacePath")
  setAttributeList id "_path" paths
  return id
where
  setAttributeList (id : Identity) (name : String) (paths : List String) : GuestM Unit := do
    setName (← attributesOf id) (.ofString name) (← list (← paths.mapM string))

/-- Sets the attributes by which a module presents itself, and gives its specification. -/
def present (attributes : Identity) (name : String) (origin : Origin) : GuestM Identity := do
  let set (key : String) (value : Identity) := setName attributes (.ofString key) value
  let (loader, file, paths) ← match origin with
    | .package file _ => do
      let inner := (file.dropEnd "/__init__.py".length).toString
      pure (← allocate (.plain "SourceFileLoader"), some file, some (← list [← string inner]))
    | .file file _ => do pure (← allocate (.plain "SourceFileLoader"), some file, Option.none)
    | .directories paths => do
      pure (← allocate (.plain "NamespaceLoader"), Option.none, some (← gatheredPath paths))
    | .standard => do pure (← builtin "BuiltinImporter", Option.none, Option.none)
  let nothing ← none
  let spec ← specification name file loader (paths.getD nothing) file.isSome
  set "__name__" (← string name)
  set "__loader__" loader
  set "__package__" (← string (if paths.isSome then name else (splitLastDot name).1))
  set "__spec__" spec
  if let some paths := paths then set "__path__" paths
  match file with
  | some file => do
    set "__file__" (← string file)
    set "__cached__" (← string (cachedName file))
  | .none => set "__file__" nothing
  return spec

/-- Runs the code of a module in its namespace. -/
def runModule (run : Identity → String → String → Script → GuestM Unit) (attributes : Identity)
    (origin : Origin) : GuestM Unit := do
  match origin with
  | .package path code | .file path code =>
    let table := (← get).builtins
    if ((← get).lookup attributes (.ofString "__builtins__")).isNone then
      setName attributes (.ofString "__builtins__") table
    run attributes path (baseName path) code
  | .directories _ | .standard => return ()

def setSpecification (spec : Identity) (name : String) (value : Identity) : GuestM Unit := do
  setName (← attributesOf spec) (.ofString name) value

/-- Makes a module and runs its code; a module whose code raises leaves the table again. -/
def load (run : Identity → String → String → Script → GuestM Unit) (name : String) (origin : Origin) :
    GuestM Identity := do
  if origin matches .standard then return ← loadStandard name
  let attributes ← allocate (.dict [])
  setName attributes (.ofString "__name__") (← none)
  setName attributes (.ofString "__doc__") (← none)
  setName attributes (.ofString "__package__") (← none)
  setName attributes (.ofString "__loader__") (← none)
  let spec ← present attributes name origin
  let module ← allocate (.module attributes)
  setSpecification spec "_initializing" (← bool true)
  file name module
  let settle : GuestM Unit := do setSpecification spec "_initializing" (← bool false)
  let made ← tryCatch
    (do
      tryCatch (runModule run attributes origin) fun f => do
        if (← filed? name).isSome then deleteItem (← get).shownModules (← string name)
        raise f
      Except.ok <$> refile name)
    fun f => return .error f
  settle
  liftExcept made

/-! ### The search for modules -/

/-- The directories in which modules outside packages are found. -/
def topDirectories : GuestM (List String) := do
  let path ← attributeOf (← standardModule "sys") "path"
  let items ← itemsOf path
  let g ← get
  return items.filterMap fun id => (g.text? id).map Text.lossy

/-- The directories of a package, where those without code are gathered anew. -/
def innerDirectories (name : String) (path : Identity) : GuestM (List String) := do
  match ← bodyOf path, (← get).ownAttribute? path (.ofString "_path") with
  | .plain "_NamespacePath", some known =>
    let outer ←
      match splitLastDot name with
      | ("", _) => topDirectories
      | (parent, _) => do
        match ← filed? parent with
        | some parent => pure ((← get).directories (← attributeOf parent "__path__"))
        | .none => pure []
    match Origin.find? (← get) name outer with
    | some (.directories paths) => setBody known (.list (← paths.mapM string).toArray)
    | _ => pure ()
    return (← get).directories known
  | _, _ => do
    let items ← itemsOf path
    let g ← get
    return items.filterMap fun id => (g.text? id).map Text.lossy

/-- Where a module is found, below its package if it is in one. -/
def findOrigin (name : String) (package : Option (String × Identity)) : GuestM (Option Origin) := do
  match package with
  | .none =>
    if Standard.isEverywhere name && Standard.contains name then return some .standard
    else do
      let directories ← topDirectories
      return Origin.find? (← get) name directories
  | some (packageName, path) => do
    let directories ← innerDirectories packageName path
    return Origin.find? (← get) name directories

/-- Adds a part to those that a package is just loading, or takes the last one out again. -/
def markPart (spec : Identity) (part : Option String) : GuestM Unit := do
  match (← get).ownAttribute? spec (.ofString "_uninitialized_submodules") with
  | .none => return ()
  | some parts =>
    match ← bodyOf parts, part with
    | .list items, some part => do setBody parts (.list (items.push (← string part)))
    | .list items, .none => setBody parts (.list items.pop)
    | _, _ => return ()

def loadPart (run : Identity → String → String → Script → GuestM Unit) (name parentName part : String)
    (parent : Identity) : GuestM Identity := do
  match ← attribute? parent (.ofString "__path__") with
  | .none => noModule ("No module named '" ++ name ++ "'; '" ++ parentName ++ "' is not a package")
  | some path =>
    let spec ← attributeOf parent "__spec__"
    match ← findOrigin name (some (parentName, path)) with
    | .none => noModule ("No module named '" ++ name ++ "'")
    | some origin =>
      markPart spec (some part)
      let module ← tryCatch (load run name origin) fun f => do
        markPart spec .none
        raise f
      markPart spec .none
      match ← filed? parentName with
      | some parent =>
        tryCatch (setAttribute parent part module) fun f => if f.isA "AttributeError" then return () else raise f
      | .none => missingKey (← string parentName)
      return module

/-- The module of a full name, loaded after the packages that it is in unless it is there already. -/
def moduleNamed (run : Identity → String → String → Script → GuestM Unit) :
    Nat → String → GuestM Identity
  | 0, _ => raise .tooDeep
  | depth + 1, name => do
    refuseHalted name
    match ← filed? name with
    | some module =>
      if (← get).isNone module then noModule ("import of " ++ name ++ " halted; None in sys.modules")
      else return module
    | .none =>
      match splitLastDot name with
      | ("", _) =>
        if Standard.isEarly name then loadStandard name
        else match ← findOrigin name .none with
          | some origin => load run name origin
          | .none => noModule ("No module named '" ++ name ++ "'")
      | (parentName, part) =>
        if (← filed? parentName).isNone then discard (moduleNamed run depth parentName)
        match ← filed? name, ← filed? parentName with
        | some module, _ => return module
        | .none, some parent =>
          if Standard.isEarly name then loadStandard name else loadPart run name parentName part parent
        | .none, .none => missingKey (← string parentName)

/-- Imports a module by its full name, and gives it or the outermost package that it is in. -/
def importNamed (run : Identity → String → String → Script → GuestM Unit) (name : String) (outermost : Bool) :
    GuestM Identity := do
  if name = "" then valueError "Empty module name"
  let parts := name.splitOn "."
  let module ← match (← get).lookup (← get).modules (.ofString name) with
    | some module =>
      if (← get).isNone module || (← get).halted.contains name then moduleNamed run (parts.length + 1) name
      else pure module
    | .none => moduleNamed run (parts.length + 1) name
  match parts with
  | top :: _ :: _ => if outermost then moduleNamed run 2 top else return module
  | _ => return module

/-- Imports a module as the function behind the import statement does. -/
def importBuiltin (run : Identity → String → String → Script → GuestM Unit) (arguments : List Identity) :
    GuestM Identity := do
  let arity := Builtin.callArity "__import__"
  if !arity.admits arguments.length then raise (arity.refusal "__import__" "__import__" arguments.length)
  let g ← get
  let name ← match (arguments.head?).bind g.text? with
    | some t => liftExcept t.encode
    | .none => typeError "module name must be a string"
  let names := arguments[3]?
  importNamed run name !(← names.elim (return false) truth)

/-- Imports one of the interpreter's own modules on behalf of the host: the built-in names are looked
up first, and a package after the module inside it. -/
def hostImport (name : String) : GuestM Identity := do
  refuseHalted "builtins"
  refuseHalted name
  refuseHalted ((name.splitOn ".").headD name)
  standardModule name

end GuestM
end ScriptHost
