import ScriptHost.Guest.Method.Bytes
import ScriptHost.Guest.Method.Slots
import ScriptHost.Guest.Printing

/-! The functions that classes have of their own, and the methods of plain objects, exceptions,
iterators and of what scripts define. -/
namespace ScriptHost.GuestM

/-! ### Classes -/

/-- Whether the class of an object lets it do what an abstract class asks for. -/
def fulfils (g : Guest) (own : Identity) (abstract? : String) : Bool :=
  let has (name : String) : Bool :=
    match g.entryIn own (.ofString name) with
    | some (.scripted value) => !g.isNone value
    | entry => entry.isSome
  match abstract? with
  | "Mapping" => g.isMappingClass own
  | "Sized" => has "__len__"
  | "Iterable" => has "__iter__"
  | "Container" => has "__contains__"
  | _ => has "__len__" && has "__iter__" && has "__contains__"

/-- Whether a class is another one, extends it, or does what it asks for where it is abstract. -/
def countsAs (g : Guest) (own class? : Identity) : Bool :=
  g.isSubclass own class? || match g.body class? with
    | .builtin name => Builtin.abstractClasses.contains name && fulfils g own name
    | _ => false

/-- Whether an object belongs to a class, or says so itself. -/
def belongsTo (id class? : Identity) : GuestM Bool := do
  let own ← classOf id
  if countsAs (← get) own class? then return true
  else match ← attribute? id (.ofString "__class__") with
    | some said =>
      let g ← get
      return said != own && g.isClassObject said && countsAs g said class?
    | .none => return false

/-- Whether a test holds of a class, or of one of the classes in a tuple; a class may have a test of its
own. -/
def anyClass (refusal own : String) (id : Identity) (test : Identity → GuestM Bool) :
    Nat → Identity → GuestM Bool
  | 0, _ => raise .tooDeep
  | depth + 1, class? => do
    let g ← get
    match g.body class? with
    | .tuple classes =>
      let rec some? : List Identity → GuestM Bool
        | [] => return false
        | class? :: rest => do
          if ← anyClass refusal own id test depth class? then return true else some? rest
      some? classes.toList
    | _ =>
      match ← specially? own class? [id] with
      | some answer => truth answer
      | .none => if g.isClassObject class? then test class? else typeError refusal

/-- Whether an object belongs to a class. -/
def isInstanceOf (id classes : Identity) : GuestM Bool := do
  if (← classOf id) == classes then return true
  anyClass "isinstance() arg 2 must be a type, a tuple of types, or a union" "__instancecheck__" id (belongsTo id) 1000
    classes

/-- Whether a class extends another one. -/
def isSubclassOf (id classes : Identity) : GuestM Bool := do
  let g ← get
  let refusal :=
    if g.isClassObject id then "issubclass() arg 2 must be a class, a tuple of classes, or a union"
    else "issubclass() arg 1 must be a class"
  let extends? (class? : Identity) : GuestM Bool :=
    if g.isClassObject id then return countsAs g id class? else typeError refusal
  anyClass refusal "__subclasscheck__" id extends? 1000 classes

/-- The names that every one of the interpreter's own classes has something under. -/
private def commonNames : List String := ["__new__", "__doc__", "__init__", "__hash__"]

/-- The names under which a class and those that it extends have something. -/
def namesWithin (class? : Identity) : GuestM (List Identity) := do
  let named (class? : Identity) : GuestM (List Identity) := do
    let g ← get
    match g.body class? with
    | .builtin own => (commonNames ++ (Builtin.members own).map (·.1)).mapM string
    | _ => return (((g.ownAttributes? class?).map g.entries).getD []).map (·.key)
  return (← (← orderOf class?).mapM named).flatten

/-- The names under which an object has attributes. -/
def attributeNames (id : Identity) : GuestM Identity := do
  let g ← get
  let own := (((g.ownAttributes? id).map g.entries).getD []).map (·.key)
  let names ← match g.body id with
    | .module _ => pure own
    | _ => if g.isClassObject id then namesWithin id else do pure (own ++ (← namesWithin (← classOf id)))
  let table ← dict (names.map fun key => (key, key))
  list (((← get).entries table).map (·.key))

/-- The classes of scripts that extend a class directly. -/
def subclassesOf (g : Guest) (class? : Identity) : List Identity :=
  (List.range g.heap.size).filterMap fun index => match g.body ⟨index⟩ with
    | .classObject made => if made.bases.contains class? then some ⟨index⟩ else Option.none
    | _ => Option.none

/-- Calls a function that a class has of its own. -/
def classMethod (self : Identity) (owner name : String) (arguments : List Identity) : GuestM Identity := do
  let first := arguments.headD default
  let make (made : GuestM Identity) : GuestM Identity := do
    match ← bodyOf self with
    | .builtin own => if own = owner then made else call self [← made]
    | _ => call self [← made]
  match owner, name with
  | "int", "from_bytes" => make do int (← intFromBytes arguments)
  | "float", "fromhex" => make do float (← doubleFromHex first)
  | "float", "__getformat__" => string "IEEE, little-endian"
  | "bytes", "fromhex" => make do bytes (← bytesFromHex first)
  | "bytearray", "fromhex" => make do allocate (.byteArray (← bytesFromHex first))
  | "str", "maketrans" => makeTable arguments
  | "bytes", "maketrans" | "bytearray", "maketrans" => makeByteTable first (arguments.getD 1 default)
  | "dict", "fromkeys" =>
    let value ← match arguments[1]? with
      | some value => pure value
      | .none => none
    fillKeys (← call self []) first value
  | _, "__class_getitem__" => subscript self first
  | _, "__prepare__" => allocate (.dict [])
  | _, "__subclasshook__" => notApplicable
  | _, _ => none

/-- Calls a method of a class. -/
def typeMethod (target : Identity) (name : String) (arguments : List Identity) : GuestM Identity := do
  let first := arguments.headD default
  match name with
  | "mro" => do
    match ← bodyOf (← attributeOf target "__mro__") with
    | .tuple classes => list classes.toList
    | _ => list []
  | "__subclasses__" => do list (subclassesOf (← get) target)
  | "__instancecheck__" => do bool (← belongsTo first target)
  | "__subclasscheck__" => do
    if (← get).isClassObject first then bool (countsAs (← get) first target)
    else typeError "issubclass() arg 1 must be a class"
  | "__dir__" => attributeNames target
  | _ => int 888

/-! ### Objects, exceptions and iterators -/

/-- Calls a method that every object has. -/
def objectMethod (target : Identity) (name : String) (arguments : List Identity) : GuestM Identity := do
  match name with
  | "__format__" => do
    let spec ← textArgument "__format__() argument" (arguments.headD default)
    text (← formattedData target spec)
  | "__dir__" => attributeNames target
  | "__getstate__" =>
    match (← get).ownAttributes? target with
    | some attributes => return attributes
    | .none => none
  | "__sizeof__" => int 16
  | _ => typeError ("cannot pickle '" ++ (← classLabel target) ++ "' object")

def addNote (target note : Identity) : GuestM Identity := do
  let g ← get
  if !g.isText note then typeError ("note must be a str, not '" ++ g.classLabel note ++ "'")
  let attributes ← attributesOf target
  match (← get).lookup attributes (.ofString "__notes__") with
  | some notes =>
    match ← bodyOf notes with
    | .list items => setBody notes (.list (items.push note))
    | _ => typeError "Cannot add note: __notes__ is not a list"
  | .none => setName attributes (.ofString "__notes__") (← list [note])
  none

def exceptionMethod (target : Identity) (name : String) (arguments : List Identity) :
    GuestM Identity := do
  let first := arguments.headD default
  match name with
  | "with_traceback" => do
    if (← get).isNone first then return target
    typeError "__traceback__ must be a traceback or None"
  | "add_note" => addNote target first
  | "__reduce__" =>
    match ← bodyOf target with
    | .exception _ given _ => do tuple [← classOf target, ← tuple given]
    | _ => none
  | _ => none

/-- Raises what an object or a class stands for. -/
def raiseObject {α : Type} (id : Identity) : GuestM α := do
  let g ← get
  if g.isClassObject id && g.extendsOwn id "BaseException" then
    let made ← call id []
    if ((← get).exceptionFamily? made).isNone then
      let class? ← represent id
      raise ⟨"TypeError", "TypeError", some (.ofString "calling " ++ class? ++
        .ofString " should have returned an instance of BaseException, not " ++ (← represent (← classOf made))), []⟩
    raise (← faultOf made)
  else raise (← faultOf id)

def generatorMethod (target : Identity) (name : String) (arguments : List Identity) :
    GuestM Identity := do
  let close := setBody target (.iterator "generator" (.items [] .none))
  match name with
  | "send" =>
    match ← advance (.shared target) with
    | some (item, _) => return item
    | .none => raise (.of "StopIteration" "")
  | "throw" => do
    let thrown := arguments.headD default
    let g ← get
    let isClass := g.isClassObject thrown && g.extendsOwn thrown "BaseException"
    if !isClass && (g.exceptionFamily? thrown).isNone then
      typeError ("exceptions must be classes or instances deriving from BaseException, not " ++ g.classLabel thrown)
    close
    if isClass then raiseObject (← call thrown (arguments.tail.take 1)) else raiseObject thrown
  | "close" =>
    close
    none
  | _ => int 112

def iteratorMethod (target : Identity) (name : String) : GuestM Identity := do
  match name, ← bodyOf target with
  | "__length_hint__", .iterator _ c => int (((← get).hint? c).getD 0)
  | _, _ => typeError ("cannot pickle '" ++ (← classLabel target) ++ "' object")

def streamMethod (target : Identity) (name : String) (arguments : List Identity) : GuestM Identity := do
  match name with
  | "write" => writeTo target (arguments.headD default)
  | "flush" =>
    flushLines target
    none
  | "getvalue" => do text (← get).captured
  | "isatty" => bool false
  | _ => bool true

/-! ### Mappings and properties -/

/-- What a mapping has under a key, unless it refuses the key. -/
def found? (mapping key : Identity) : GuestM (Option Identity) :=
  tryCatch (some <$> subscript mapping key) fun f => if f.isA "KeyError" then return .none else raise f

/-- A dictionary of the items of a mapping. -/
def dictOf (mapping : Identity) : GuestM Identity := do
  let made ← allocate (.dict [])
  updateDict made (← call (← attributeOf mapping "items") [])
  return made

/-- Calls a method that every mapping has. -/
def mappingMethod (target : Identity) (name : String) (arguments : List Identity) : GuestM Identity := do
  let first := arguments.headD default
  match name with
  | "get" =>
    match ← found? target first, arguments[1]? with
    | some value, _ | .none, some value => return value
    | .none, .none => none
  | "__contains__" => do bool (← found? target first).isSome
  | "keys" => allocate (.mappingView .keys target)
  | "values" => allocate (.mappingView .values target)
  | "items" => allocate (.mappingView .items target)
  | "__eq__" =>
    if (← get).isMapping first then
      let own ← dictOf target
      equality own (← dictOf first)
    else notApplicable
  | _ => missingKey first

/-- A property with one of its functions replaced. -/
def propertyMethod (target : Identity) (name : String) (arguments : List Identity) : GuestM Identity := do
  let g ← get
  match g.body target, arguments with
  | .property getter setter deleter shown, [function] =>
    let replaced (own : String) (old : Option Identity) : Option Identity :=
      if name = own && !g.isNone function then some function else old
    allocate (.property (replaced "getter" getter) (replaced "setter" setter) (replaced "deleter" deleter) shown)
      (g.home? target)
  | .property getter setter deleter _, [_, shown] =>
    setBody target (.property getter setter deleter (g.text? shown))
    none
  | _, _ => none

/-- Calls a method that a class gives to its objects. -/
def boundMethod (target : Identity) (owner name : String) (arguments : List Identity) : GuestM Identity := do
  match owner, ← bodyOf target with
  | "object", _ => objectMethod target name arguments
  | "type", _ => typeMethod target name arguments
  | "Mapping", _ => mappingMethod target name arguments
  | _, .text t => textMethod target t name arguments
  | _, .bytes _ | _, .byteArray _ => byteMethod target name arguments
  | _, .bool b => intMethod target (if b then 1 else 0) name arguments
  | _, .int n => intMethod target n name arguments
  | _, .float x => floatMethod target x name arguments
  | _, .complex re im => complexMethod target re im name arguments
  | _, .memoryView _ _ _ _ | _, .plain "memoryview" => viewMethod target name arguments
  | _, .list items => listMethod target items name arguments
  | _, .tuple items => tupleMethod items name arguments
  | _, .set members => setMethod target members name arguments
  | _, .frozenSet members => frozenSetMethod target members name arguments
  | _, .dict entries => dictMethod target entries name arguments
  | _, .proxy dict => do dictMethod dict ((← get).entries dict) name arguments
  | _, .view _ _ => viewOfDictMethod target name arguments
  | _, .range start stop step => rangeMethod target start stop step name arguments
  | _, .slice start stop step => sliceMethod start stop step name arguments
  | _, .exception _ _ _ => exceptionMethod target name arguments
  | _, .iterator "generator" _ => generatorMethod target name arguments
  | _, .iterator _ _ => iteratorMethod target name
  | _, .output _ _ | _, .stream => streamMethod target name arguments
  | _, .module _ => attributeNames target
  | _, .property _ _ _ _ => propertyMethod target name arguments
  | _, _ => objectMethod target name arguments

end ScriptHost.GuestM
