import ScriptHost.Guest.Standard

/-! Calls of everything that is no function of a script: classes, functions and methods. -/
namespace ScriptHost.GuestM

/-! ### Classes -/

/-- Whether a script decides what a class does under a name: one of the interpreter's own ways to make
objects changes nothing. -/
def isScripted (g : Guest) (class? : Identity) (name : String) : Bool :=
  match g.entryIn class? (.ofString name) with
  | some (.scripted value) =>
    match g.body value with
    | .builtin function => !function.endsWith ".__new__"
    | _ => true
  | _ => false

def checkArity (arity : Arity) (fullName name : String) (given : Nat) : GuestM Unit := do
  if !arity.admits given then raise (arity.refusal fullName name given)

/-- Starts a new object with the arguments of the call that made it. -/
def start (made : Identity) (arguments : List Identity) : GuestM Unit := do
  match ← specially? "__init__" made arguments with
  | some answer =>
    if !(← get).isNone answer then
      typeError ("__init__() should return None, not '" ++ (← classLabel answer) ++ "'")
  | .none => startData made arguments

/-- The classes whose objects are made of data. -/
private def holdsData (class? : String) : Bool :=
  Builtin.isException class? || ["str", "int", "float", "complex", "list", "tuple", "set", "frozenset", "dict",
    "bytes", "bytearray"].contains class?

/-- A new object of a class that a script made, before it is started. -/
def newScripted (class? : Identity) (arguments : List Identity) : GuestM Identity := do
  let g ← get
  let startsItself := isScripted g class? "__init__"
  let layout := g.layoutOf class?
  if layout = "type" then
    match arguments with
    | [name, bases, attributes] => makeClassFrom class? name bases attributes
    | _ => typeError ("type.__new__() takes exactly 3 arguments (" ++ toString arguments.length ++ " given)")
  else if layout = "object" then
    if !arguments.isEmpty then
      if isScripted g class? "__new__" then
        typeError "object.__new__() takes exactly one argument (the type to instantiate)"
      if !startsItself then typeError (g.nameOfClass class? ++ "() takes no arguments")
    allocate (.plain "object") (some class?)
  else
    unless Builtin.isException layout || startsEmpty layout do
      let name := if layout = "frozenset" then g.nameOfClass class? else layout
      checkArity (Builtin.callArity layout) name name arguments.length
    let body ← if holdsData layout then unstartedBody layout startsItself arguments
      else do bodyOf (← construct layout arguments)
    allocate body (some class?)

/-- Makes an object of a class that a script made. -/
def instantiate (class? : Identity) (arguments : List Identity) : GuestM Identity := do
  let made ←
    if isScripted (← get) class? "__new__" then do
      call (← attributeOf class? "__new__") (class? :: arguments)
    else newScripted class? arguments
  let own ← classOf made
  if (← get).isSubclass own class? then start made arguments
  return made

/-- Calls one of the interpreter's own classes. -/
def callOwnClass (name : String) (arguments : List Identity) : GuestM Identity := do
  if Builtin.isException name then makeException name arguments
  else
    checkArity (Builtin.callArity name) name name arguments.length
    let made ← construct name arguments
    if name = "type" && arguments.length = 3 then start made arguments
    return made

/-- Calls a class as every class is called whose own class does not say otherwise. -/
def callClass (class? : Identity) (arguments : List Identity) : GuestM Identity := do
  match ← bodyOf class? with
  | .builtin name => callOwnClass name arguments
  | _ => instantiate class? arguments

/-- The nearest class, from a class on, whose new objects no function of a script makes. -/
def staticBase (g : Guest) : Nat → Identity → Identity
  | 0, class? => class?
  | depth + 1, class? =>
    match g.body class? with
    | .classObject made => if isScripted g class? "__new__" then staticBase g depth made.base else class?
    | _ => class?

/-- Makes an object of a class, as a class sees it that the class extends, and leaves it as it is then. -/
def newObject (family : String) (arguments : List Identity) : GuestM Identity := do
  let g ← get
  let maker := family ++ ".__new__("
  match arguments with
  | [] => typeError (maker ++ "): not enough arguments")
  | class? :: arguments =>
    if !g.isClassObject class? then
      typeError (maker ++ "X): X is not a type object (" ++ g.classLabel class? ++ ")")
    let own := g.nameOfClass class?
    if !g.extendsOwn class? family then
      typeError (maker ++ own ++ "): " ++ own ++ " is not a subtype of " ++ family)
    let base := staticBase g 100 class?
    if Builtin.newcomerOf (g.layoutOf base) ≠ Builtin.newcomerOf family then
      typeError (maker ++ own ++ ") is not safe, use " ++ g.nameOfClass base ++ ".__new__()")
    match g.body class? with
    | .builtin name =>
      if Builtin.isException name || startsEmpty name then allocate (← unstartedBody name false arguments)
      else callOwnClass name arguments
    | _ => newScripted class? arguments

/-! ### Functions -/

def systemFunction (name : String) (arguments : List Identity) : GuestM Identity := do
  match name, arguments with
  | "getrecursionlimit", [] => int 1000
  | "getdefaultencoding", [] | "getfilesystemencoding", [] => string "utf-8"
  | "get_int_max_str_digits", [] => int maxDecimalDigits
  | "intern", [id] => return id
  | "exit", arguments =>
    let exit ← makeException "SystemExit" arguments
    raise (← faultOf exit)
  | _, _ => typeError ("cannot call sys." ++ name ++ "() here")

/-- Calls one of the interpreter's own classes or functions. -/
def callBuiltin (name : String) (arguments : List Identity) : GuestM Identity := do
  let given := arguments.length
  if Builtin.isClass name then callOwnClass name arguments
  else match name.splitOn "." with
    | ["math", short] =>
      checkArity (Mathematics.arity short) name short given
      callMathematics short arguments
    | ["sys", short] => systemFunction short arguments
    | [family, "__new__"] => newObject family arguments
    | _ =>
      checkArity (Builtin.callArity name) name name given
      callFunction name arguments

/-! ### Methods -/

/-- The refusal of a call of a method of the line writer. -/
private def writerRefusal (name : String) (given : Nat) : Fault :=
  let title := "ScriptOutput." ++ name ++ "()"
  .typeError <|
    if name = "flush" then title ++ " takes no arguments (" ++ toString given ++ " given)"
    else if given = 0 then title ++ " missing 1 required positional argument: 'text'"
    else title ++ " takes 1 positional arguments but " ++ toString given ++ " were given"

/-- The refusal of a call of a method that every mapping has. -/
private def mappingRefusal (name : String) (given : Nat) : Fault :=
  let title := "Mapping." ++ name ++ "()"
  let takes (least most : Nat) (argument : String) : String :=
    if given < least then title ++ " missing 1 required positional argument: '" ++ argument ++ "'"
    else title ++ " takes " ++ (if least = most then "" else "from " ++ toString (least + 1) ++ " to ") ++
      toString (most + 1) ++ " positional argument" ++ (if most = 0 then "" else "s") ++ " but " ++
      toString (given + 1) ++ " were given"
  .typeError <| match name with
    | "get" => takes 1 2 "key"
    | "__eq__" => takes 1 1 "other"
    | "__contains__" | "__getitem__" => takes 1 1 "key"
    | _ => takes 0 0 ""

/-- The refusal of a call of a method that every mapping has, without a mapping. -/
private def missingSelf (name : String) : Fault :=
  let other := if name = "__eq__" then "other" else "key"
  .typeError ("Mapping." ++ name ++ "() missing " ++
    (if ["keys", "values", "items"].contains name then "1 required positional argument: 'self'"
     else "2 required positional arguments: 'self' and '" ++ other ++ "'"))

/-- Calls a member of a class, bound to an object, under the name that messages give the class. -/
def callMemberAs (title : String) (target : Identity) (owner name : String) (kind : MemberKind)
    (arguments : List Identity) : GuestM Identity := do
  let given := arguments.length
  let arity := ((Builtin.findMember owner name).map fun found => found.2.2).getD .any
  match kind with
  | .slot =>
    if owner = "type" && name = "__call__" then callClass target arguments
    else
      if let some (least, most) := Builtin.slotArity name then
        if given < least || most < given then raise (Builtin.slotRefusal least most given)
      slotMethod target owner name arguments
  | .classMethod =>
    checkArity arity (title ++ "." ++ name) name given
    classMethod target owner name arguments
  | _ =>
    if owner = "ScriptOutput" && !arity.admits given then raise (writerRefusal name given)
    if owner = "Mapping" && !arity.admits given then raise (mappingRefusal name given)
    checkArity arity (title ++ "." ++ name) name given
    boundMethod target owner name arguments

/-- Calls a member of a class that was bound to an object before. -/
def callBound (target : Identity) (owner name : String) (kind : MemberKind) (arguments : List Identity) :
    GuestM Identity := do
  callMemberAs ((← get).boundTitle target) target owner name kind arguments

/-- Calls a member of a class that is not bound to an object: the first argument takes its place. -/
def callMember (owner name : String) (kind : MemberKind) (arguments : List Identity) : GuestM Identity := do
  let g ← get
  match kind, arguments with
  | .slot, [] => typeError ("descriptor '" ++ name ++ "' of '" ++ owner ++ "' object needs an argument")
  | .method, [] =>
    if owner = "Mapping" then raise (missingSelf name)
    else typeError ("unbound method " ++ owner ++ "." ++ name ++ "() needs an argument")
  | .slot, target :: rest =>
    if g.isInstance target owner then callMemberAs owner target owner name kind rest
    else typeError ("descriptor '" ++ name ++ "' requires a '" ++ owner ++ "' object but received a '" ++
      g.classLabel target ++ "'")
  | .method, target :: rest =>
    if g.isInstance target owner || owner = "Mapping" then callMemberAs owner target owner name kind rest
    else refuseForeign owner name target
  | _, _ => typeError ("'" ++ kind.className ++ "' object is not callable")

/-- Calls what a class with the types of its items stands for, and tells the object that it was called so. -/
def callGeneric (id : Identity) (arguments : List Identity) : GuestM Identity := do
  let made ← call (← attributeOf id "__origin__") arguments
  tryCatch (setAttribute made "__orig_class__" id) fun f =>
    if f.isA "AttributeError" || f.isA "TypeError" then return () else raise f
  return made

/-- Calls an object that is no function of a script. -/
def callObject (id : Identity) (arguments : List Identity) : GuestM Identity := do
  match ← specially? "__call__" id arguments with
  | some answer => return answer
  | .none =>
    match ← bodyOf id with
    | .builtin name => callBuiltin name arguments
    | .classObject _ => instantiate id arguments
    | .member owner name kind => callMember owner name kind arguments
    | .bound target owner name kind => callBound target owner name kind arguments
    | .method function self => call function (self :: arguments)
    | .staticMethod function => call function arguments
    | .plain "GenericAlias" => callGeneric id arguments
    | _ => typeError ("'" ++ (← classLabel id) ++ "' object is not callable")

/-- Calls an attribute of an object right where it was looked up: a method that the class of the object
gives out is called without being bound first. -/
def callAttribute (target function : Identity) (arguments : List Identity) : GuestM Identity := do
  let g ← get
  let isLookedUp := !g.isClassObject target && (g.special? target "__getattribute__").isNone &&
    (g.special? target "__getattr__").isNone
  match isLookedUp, g.body function with
  | true, .bound self owner name .method =>
    if self == target then callMemberAs owner target owner name .method arguments else call function arguments
  | _, _ => call function arguments

end ScriptHost.GuestM
