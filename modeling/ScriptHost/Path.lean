/-! File paths by their components: repeated slashes, trailing slashes and inner dots do not
matter, parent steps are kept as they stand. -/
namespace ScriptHost.Path

/-- A step of a path. -/
inductive Component where
  | root
  | current
  | parent
  | normal (name : String)
  deriving DecidableEq, Repr

private def step (piece : String) : Option Component :=
  if piece = "" ∨ piece = "." then none
  else if piece = ".." then some .parent
  else some (.normal piece)

/-- The steps of a path; only a leading dot is a step of its own. -/
def components (path : String) : List Component :=
  let pieces := path.splitOn "/"
  let rest := pieces.filterMap step
  if path.startsWith "/" then .root :: rest
  else if pieces.head? = some "." then .current :: rest
  else rest

/-- Whether two paths take the same steps. -/
def same (a b : String) : Bool := components a == components b

/-- Whether a path begins with the steps of another one. -/
def startsWith (path start : String) : Bool := (components start).isPrefixOf (components path)

/-- Whether a path ends with the steps of another one. -/
def endsWith (path ending : String) : Bool := (components ending).isSuffixOf (components path)

/-- A path below another one, unless it starts at the root. -/
def join (path below : String) : String :=
  if below.startsWith "/" then below
  else if path = "" ∨ path.endsWith "/" then path ++ below
  else path ++ "/" ++ below

/-- The name of the file at the end of a path. -/
def fileName? (path : String) : Option String :=
  match (components path).getLast? with
  | some (.normal name) => some name
  | _ => none

/-- What follows the last dot of a file's name, unless the name starts with that dot. -/
def extension? (path : String) : Option String :=
  (fileName? path).bind fun name =>
    match (name.splitOn ".").reverse with
    | extension :: stem :: rest =>
      if rest = [] ∧ stem = "" then none else some extension
    | _ => none

/-- The paths of a list with a colon between them. -/
def splitList (paths : String) : List String := paths.splitOn ":"

end ScriptHost.Path
