import ScriptHost.Guest.Arguments

/-! Attributes: the data and the functions that classes give their objects, what is set on an object
itself, and how both are looked up, set and removed. -/
namespace ScriptHost.GuestM

/-- The object of a name that is known not to be out of the ordinary. -/
def word (s : String) : GuestM Identity := name (.ofString s)

/-- Refuses an attribute that an object does not have. -/
def missingAttribute {α : Type} (target : Identity) (name : Text) : GuestM α := do
  let g ← get
  let owner := match g.body target with
    | .builtin class? => if Builtin.isClass class? then "type object '" ++ class? ++ "'"
        else "'builtin_function_or_method' object"
    | .classObject made => "type object '" ++ made.name ++ "'"
    | .ancestral _ _ => "'super' object"
    | _ => "'" ++ g.classLabel target ++ "' object"
  attributeErrorOf [.ofString (owner ++ " has no attribute '"), name, .ofString "'"]

/-- Whether attributes can be set on an object itself. -/
def isOpen (g : Guest) (id : Identity) : Bool :=
  match g.body id, (g.home? id).map g.body with
  | .classObject _, _ => true
  | _, some (.classObject made) => made.isOpen
  | .module _, _ | .function _ _, _ | .exception _ _ _, _ | .stream, _ | .tagged _, _ | .staticMethod _, _
  | .classMethod _, _ => true
  | .plain type, _ => type == "ModuleSpec" || type == "SourceFileLoader"
  | _, _ => false

def classNames (names : List String) : GuestM Identity := do tuple (← names.mapM builtin)

/-- The data that every class has. -/
def classData? (class? : Identity) (name : String) : GuestM (Option Identity) := do
  let g ← get
  let own := g.nameOfClass class?
  let made? := match g.body class? with
    | .classObject made => some made
    | _ => Option.none
  let kept := g.ownAttribute? class? (.ofString name)
  match name, made? with
  | "__name__", _ => some <$> word own
  | "__qualname__", made? => some <$> word ((made?.map (·.fullName)).getD own)
  | "__module__", .none => some <$> word (Builtin.moduleOf own)
  | "__module__", some _ => if kept.isSome then return kept else attributeErrorOf [.ofString name]
  | "__mro__", .none => some <$> classNames (Builtin.ancestry own)
  | "__mro__", some made => some <$> tuple (class? :: made.ancestors)
  | "__bases__", .none => some <$> classNames (Builtin.bases own)
  | "__bases__", some made => some <$> tuple made.bases
  | "__base__", .none => some <$> (Builtin.parent? own).elim none builtin
  | "__base__", some made => return some made.base
  | "__class__", _ => some <$> classOf class?
  | "__dict__", .none => some <$> (do allocate (.proxy (← allocate (.dict []))))
  | "__dict__", some _ => some <$> (do allocate (.proxy (← attributesOf class?)))
  | "__annotations__", some _ =>
    match kept with
    | some found => return some found
    | .none =>
      let made ← allocate (.dict [])
      setName (← attributesOf class?) (.ofString name) made
      return some made
  | "__annotations__", .none => missingAttribute class? (.ofString name)
  | "__abstractmethods__", _ => if kept.isSome then return kept else attributeErrorOf [.ofString name]
  | "__doc__", _ | "__text_signature__", _ => some <$> kept.elim none pure
  | _, _ => return .none

def viewData (source : Identity) (step : Int) (count : Nat) (name : String) : GuestM Identity := do
  let isWhole := step = 1 || count ≤ 1
  match name with
  | "obj" => return source
  | "nbytes" => int count
  | "readonly" =>
    match ← bodyOf source with
    | .byteArray _ => bool false
    | _ => bool true
  | "itemsize" | "ndim" => int 1
  | "format" => string "B"
  | "shape" => do tuple [← int count]
  | "strides" => do tuple [← int step]
  | "suboffsets" => tuple []
  | _ => bool isWhole

def functionData (function : Identity) (f : Function) (home : Place) (name : String) : GuestM Identity := do
  if let some kept := (← get).ownAttribute? function (.ofString name) then return kept
  match name with
  | "__name__" => string f.name
  | "__qualname__" => string f.fullName
  | "__globals__" => return home.globals
  | "__builtins__" => return home.builtins
  | "__annotations__" => allocate (.dict [])
  | "__module__" => return ((← get).lookup home.globals (.ofString "__name__")).getD (← none)
  | "__code__" => allocate (.plain "code")
  | _ => none

def numberData (target : Identity) (number : Number) (name : String) : GuestM Identity := do
  let g ← get
  let isExact := g.isExact target && !((g.body target) matches .bool _)
  match number, name with
  | .int _, "imag" => int 0
  | .int _, "denominator" => int 1
  | .int n, _ => if isExact then return target else int n
  | .float _, "imag" => float .zero
  | .float x, _ => if isExact then return target else float x
  | .complex _ im, "imag" => float im
  | .complex re _, _ => float re

/-- The data that an object has under a name of a class of the interpreter's own. -/
def dataOf (target : Identity) (name : String) : GuestM Identity := do
  let g ← get
  match g.number? target, g.body target with
  | some number, _ => numberData target number name
  | .none, .range start stop step =>
    int (if name = "start" then start else if name = "stop" then stop else step)
  | .none, .slice start stop step =>
    return if name = "start" then start else if name = "stop" then stop else step
  | .none, .memoryView source _ step count => viewData source step count name
  | .none, .plain "memoryview" => refuseReleased
  | .none, .exception _ arguments details =>
    match name, details.lookup name with
    | "args", _ => tuple arguments
    | "__suppress_context__", _ => bool false
    | _, some id => return id
    | "characters_written", .none => attributeErrorOf [.ofString name]
    | _, .none => none
  | .none, .view _ dict => allocate (.proxy dict)
  | .none, .property getter setter deleter _ =>
    match name with
    | "fget" => getter.elim none pure
    | "fset" => setter.elim none pure
    | "fdel" => deleter.elim none pure
    | "__isabstractmethod__" => bool false
    | _ => (g.ownAttribute? target (.ofString name)).elim none pure
  | .none, .place class? own _ =>
    match name with
    | "__name__" => text own
    | "__qualname__" => text (.ofString (g.nameOfClass class? ++ ".") ++ own)
    | "__objclass__" => return class?
    | _ => none
  | .none, .staticMethod function | .none, .classMethod function =>
    if name = "__isabstractmethod__" then bool false else return function
  | .none, .method function self => return if name = "__self__" then self else function
  | .none, .ancestral class? target =>
    match name, target with
    | "__thisclass__", _ => return class?
    | "__self__", some target => return target
    | "__self_class__", some target => if g.isClassObject target then return target else classOf target
    | _, _ => none
  | .none, .function f home => functionData target f home name
  | .none, .builtin own =>
    if let some kept := g.ownAttribute? target (.ofString name) then return kept
    match name with
    | "__name__" | "__qualname__" => string (lastPart own)
    | "__module__" => string (if (own.splitOn ".").length = 1 then "builtins" else (own.splitOn ".").headD "")
    | _ => none
  | .none, .member owner own _ =>
    match name with
    | "__name__" => string own
    | "__qualname__" => string (owner ++ "." ++ own)
    | "__objclass__" => builtin owner
    | _ => none
  | .none, .bound self owner own kind =>
    if let some kept := g.ownAttribute? target (.ofString name) then return kept
    match name with
    | "__name__" => string own
    | "__qualname__" => string ((if kind = .slot then owner else g.boundTitle self) ++ "." ++ own)
    | "__self__" => return self
    | "__objclass__" => builtin owner
    | _ => none
  | .none, .iterator _ _ =>
    match name with
    | "gi_running" | "gi_suspended" => bool false
    | "__name__" | "__qualname__" => string "<genexpr>"
    | _ => none
  | .none, .stream =>
    if name = "closed" || name = "line_buffering" then bool false else none
  | _, _ => none

/-- What the data of a class of the interpreter's own says of an object. -/
def ownData (target : Identity) (name : String) : GuestM Identity := do
  if name = "__class__" then classOf target
  else if name = "__dict__" then attributesOf target
  else dataOf target name

/-- A function of a class of the interpreter's own, bound to an object or to the class itself. -/
def bindMember (target : Identity) (owner name : String) (kind : MemberKind) : GuestM Identity := do
  if kind = .classMethod then
    let self ← if (← get).isClassObject target then pure target else classOf target
    allocate (.bound self owner name kind)
  else allocate (.bound target owner name kind)

def isData (kind : MemberKind) : Bool := kind = .data || kind = .field

/-- Whether what a class holds comes before what is set on an object. -/
def comesFirst (g : Guest) (value : Identity) : Bool :=
  match g.body value with
  | .property _ _ _ _ | .place _ _ _ => true
  | .member _ _ kind => isData kind
  | _ => (g.special? value "__set__").isSome || (g.special? value "__delete__").isSome

/-- Refuses a place of a class for an object of another one. -/
def checkOwner (target class? : Identity) (name : Text) : GuestM Unit := do
  let own ← classOf target
  let g ← get
  if !g.isSubclass own class? then refuseForeign (g.nameOfClass class?) ((name.toString?).getD "") target

/-- What an object keeps in a place that its class made for an attribute. -/
def keptIn (place target class? : Identity) (name : Text) (kind : MemberKind) : GuestM Identity := do
  checkOwner target class? name
  if kind = .data then if name = .ofString "__dict__" then attributesOf target else none
  else match ((← get).object target).places.lookup place with
    | some value => return value
    | .none => missingAttribute target name

/-- What an object gives out where its class holds something. -/
def bound (value target : Identity) : GuestM Identity := do
  let g ← get
  match g.body value with
  | .member owner name kind =>
    if !isData kind then bindFor value target
    else if g.isInstance target owner then ownData target name
    else refuseForeign owner name target
  | .place class? name kind => keptIn value target class? name kind
  | _ => bindFor value target

/-- What an entry of a class gives an object, where nothing is set on the object. -/
def entryFor (target : Identity) (key : String) : ClassEntry → GuestM Identity
  | .own owner kind _ => if isData kind then ownData target key else bindMember target owner key kind
  | .nothing => none
  | .scripted value => bound value target

/-- What a function bound to an object shows of the function. -/
def shownOfFunction? (function : Identity) (name : Text) : GuestM (Option Identity) := do
  let g ← get
  let key := (name.toString?).getD ""
  match g.ownAttribute? function name, g.body function with
  | some found, _ => return some found
  | .none, .function f home =>
    if (Builtin.inheritedEntry? "function" key).isSome then some <$> functionData function f home key else return .none
  | .none, _ => return .none

/-- What a module answers where nothing is set under a name. -/
def missingInModule (attributes : Identity) (name : Text) : GuestM Identity := do
  let g ← get
  let own (key : String) : Option Identity := g.lookup attributes (.ofString key)
  match own "__getattr__" with
  | some function => call function [← GuestM.name name]
  | .none =>
    match (own "__name__").bind g.text? with
    | .none => attributeErrorOf [.ofString "module has no attribute '", name, .ofString "'"]
    | some module =>
      let specified (key : String) : Option Identity :=
        (own "__spec__").bind fun spec => g.ownAttribute? spec (.ofString key)
      let isNamed (id : Identity) : Bool := g.text? id == some name
      let isLoadingPart := match (specified "_uninitialized_submodules").map g.body with
        | some (.list parts) => parts.any isNamed
        | _ => false
      if ← (specified "_initializing").elim (return false) truth then
        attributeErrorOf [.ofString "partially initialized module '", module, .ofString "' has no attribute '",
          name, .ofString "' (most likely due to a circular import)"]
      else if isLoadingPart then
        attributeErrorOf [.ofString "cannot access submodule '", name, .ofString "' of module '", module,
          .ofString "' (most likely due to a circular import)"]
      else
        attributeErrorOf [.ofString "module '", module, .ofString "' has no attribute '", name, .ofString "'"]

/-- What a class gives out where it or a class that it extends holds something. -/
def outOfClass (class? : Identity) (key : String) : ClassEntry → GuestM Identity
  | .own owner .classMethod _ => bindMember class? owner key .classMethod
  | .own owner kind _ => intern (.member owner key kind)
  | .nothing => none
  | .scripted value => do
    let g ← get
    match g.body value, g.special? value "__get__" with
    | .staticMethod function, _ => return function
    | .classMethod function, _ => allocate (.method function class?)
    | .member owner name .classMethod, _ => allocate (.bound class? owner name .classMethod)
    | _, some _ => do
      match ← specially? "__get__" value [← none, class?] with
      | some found => return found
      | .none => return value
    | _, .none => return value

/-- The attribute of a class. -/
def classAttribute (target : Identity) (name : Text) : GuestM Identity := do
  let g ← get
  let key := (name.toString?).getD ""
  let ofMaker := g.entryOf target name
  let data ← match ofMaker with
    | some (.own _ kind _) => if isData kind then classData? target key else pure .none
    | some (.scripted value) => if comesFirst g value then some <$> bound value target else pure .none
    | _ => pure .none
  match data, g.entryIn target name, ofMaker with
  | some found, _, _ => return found
  | .none, some entry, _ => outOfClass target key entry
  | .none, .none, some entry => entryFor target key entry
  | .none, .none, .none =>
    if key = "__new__" then builtin (Builtin.makingOwner (g.layoutOf target) ++ ".__new__") else missingAttribute target name

/-- What the classes behind a class have for an object under a name. -/
def ancestralAttribute (target : Identity) (class? self : Identity) (name : Text) : GuestM Identity := do
  let g ← get
  let key := (name.toString?).getD ""
  let start ← if g.isClassObject self && g.isSubclass self class? then pure self else classOf self
  let order ← orderOf start
  match g.entryAmong ((order.dropWhile (· != class?)).drop 1) name with
  | some (.scripted value) => if start == self then outOfClass self key (.scripted value) else bound value self
  | some entry => if start == self then outOfClass self key entry else entryFor self key entry
  | .none =>
    if key = "__new__" then builtin (Builtin.makingOwner (g.layoutOf start) ++ ".__new__")
    else if key = "__doc__" then none
    else missingAttribute target name

/-- The attribute of an object that is no class. -/
def objectAttribute (target : Identity) (name : Text) : GuestM Identity := do
  let g ← get
  let key := (name.toString?).getD ""
  let entry := g.entryOf target name
  let isFirst := match entry with
    | some (.own _ kind _) => isData kind
    | some (.scripted value) => comesFirst g value
    | _ => false
  match isFirst, g.ownAttribute? target name, entry, g.body target with
  | false, some found, _, _ => return found
  | _, _, some entry, _ => entryFor target key entry
  | _, .none, .none, .module attributes => missingInModule attributes name
  | _, _, .none, body =>
    if key = "__dict__" && isOpen g target then attributesOf target
    else if key = "__new__" then builtin (Builtin.makingOwner (g.family target) ++ ".__new__")
    else if key = "__doc__" || (key = "__weakref__" && (body matches .tagged _)) then none
    else if key = "__module__" && (body matches .tagged _) then word "__main__"
    else match body with
      | .method function _ | .staticMethod function | .classMethod function =>
        match ← shownOfFunction? function name with
        | some found => return found
        | .none => missingAttribute target name
      | _ => missingAttribute target name

/-- The attribute of an object under a name, as it is found where no class of a script decides. -/
def attributeByDefault (target : Identity) (name : Text) : GuestM Identity := do
  let g ← get
  if g.isClassObject target then classAttribute target name
  else match g.body target with
    | .module attributes =>
      if name = .ofString "__dict__" then return attributes else objectAttribute target name
    | .ancestral class? (some self) =>
      if name = .ofString "__class__" || (g.entryOf target name).any fun entry => entry matches .own "super" .field _
      then objectAttribute target name
      else ancestralAttribute target class? self name
    | _ => objectAttribute target name

/-- The attribute of an object under a name. -/
def attributeNamed (target : Identity) (name : Text) : GuestM Identity := do
  let g ← get
  let first : GuestM Identity := do
    match g.special? target "__getattribute__" with
    | some value => do callFor value target [← GuestM.name name]
    | .none => attributeByDefault target name
  match g.special? target "__getattr__" with
  | .none => first
  | some value => tryCatch first fun f => do
      if f.isA "AttributeError" then callFor value target [← GuestM.name name] else raise f

/-- The attribute of an object under a name that a script spells out. -/
def attributeOf (target : Identity) (name : String) : GuestM Identity := attributeNamed target (.ofString name)

/-- The attribute of an object, unless it is missing. -/
def attribute? (target : Identity) (name : Text) : GuestM (Option Identity) :=
  tryCatch (some <$> attributeNamed target name) fun f =>
    if f.isA "AttributeError" then return .none else raise f

end ScriptHost.GuestM
